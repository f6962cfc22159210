import Reclaim.Proofs.Cascade.Ending
import Reclaim.Proofs.Time.Bound

/-!
# After the verdict on the machine's delete

Once the machine's delete was followed to a verdict, the stages are performed, and the verdict is
the result. One thing comes in between: to look whether the machine left its group, its id must be
read. An id that cannot be read aborts the teardown there, with all that the machine leaves behind
still in place.
-/

namespace Reclaim

open Reclaim.Action

section

variable {τ W : Type} [Timescale τ] {t : Teardown τ} {setting : Setting τ W}
variable {session read asked confirmed : Session τ W} {token : Value} {node : NodeId}
variable {machine : View.Machine} {handle : Option Handle} {verdict : Bool}

/-- What is left of the delete of a machine once there is a verdict. -/
theorem removeMachine_run {group : String}
    (hrequested : (Access.delete .virtualMachine group machine.name).run setting session =
      .ok handle asked)
    (hfollowed : (t.isConfirmed handle).run setting asked = .ok verdict confirmed) :
    (t.removeMachine group machine).run setting session =
      Action.run (do
        if !(← t.hasLeft (← ofExcept machine.reference)) then
          log .warning "vm_still_listed" (Teardown.about group machine.name)
        return verdict) setting confirmed := by
  rw [Teardown.removeMachine, run_bind, hrequested]
  dsimp only
  rw [run_bind, hfollowed]

theorem removeNode_run (hnode : NodeId.read token = .ok node)
    (hfound : (Access.get .virtualMachine node.group node.name).run setting session =
      .ok (some machine) read) :
    (t.removeNode token).run setting session =
      Action.run (do
        let deleted ← t.removeMachine node.group machine
        Stage.sequence.forM (t.tryStage node machine)
        if deleted then log .info "node_destroyed" (Teardown.about node.group (some node.name))
        else log .warning "node_not_deleted" (Teardown.about node.group (some node.name))
        return deleted) setting (read.logging [Cascade.destroying node]) := by
  rw [Teardown.removeNode, hnode]
  rw [run_bind, run_ofExcept_ok]
  dsimp only
  rw [run_bind, hfound]
  dsimp only
  rw [run_bind, run_log]
  rfl

/-- With the machine's id nothing can raise any more. -/
theorem removeMachine_not_raised {group : String} {id : ResourceId}
    (hrequested : (Access.delete .virtualMachine group machine.name).run setting session =
      .ok handle asked)
    (hfollowed : (t.isConfirmed handle).run setting asked = .ok verdict confirmed)
    (hid : machine.reference = .ok id) {fault : Fault} {after : Session τ W} :
    (t.removeMachine group machine).run setting session ≠ .error (.raised fault) after := by
  rw [removeMachine_run hrequested hfollowed, hid]
  have hrest : NeverRaises (do
      if !(← t.hasLeft id) then
        log .warning "vm_still_listed" (Teardown.about group machine.name)
      return verdict : Action τ W Bool) := by
    refine .bind checked_neverRaises fun left => ?_
    split
    · exact .bind .record fun _ => .pure
    · exact .pure
  exact hrest _ _ _ _

theorem concluding_neverRaises {deleted : Bool} {fields : Log.Fields} :
    NeverRaises (do
      Stage.sequence.forM (t.tryStage node machine)
      if deleted then log .info "node_destroyed" fields
      else log .warning "node_not_deleted" fields
      return deleted : Action τ W Bool) := by
  refine .bind stages_neverRaise fun _ => ?_
  split
  · exact .bind .record fun _ => .pure
  · exact .bind .record fun _ => .pure

/-- The run is determined by what it found, so its parts are the ones that are given. -/
theorem Cascade.parts_eq (c : Cascade t setting session node)
    (hfound : (Access.get .virtualMachine node.group node.name).run setting session =
      .ok (some machine) read)
    (hrequested : (Access.delete .virtualMachine node.group machine.name).run setting
      (read.logging [Cascade.destroying node]) = .ok handle asked)
    (hfollowed : (t.isConfirmed handle).run setting asked = .ok verdict confirmed) :
    c.machine = machine ∧ c.verdict = verdict := by
  obtain ⟨_, _, hfound', _, _, hrequested', _, _, hfollowed', _⟩ := c
  cases hfound'.symm.trans hfound
  cases hrequested'.symm.trans hrequested
  cases hfollowed'.symm.trans hfollowed
  exact ⟨rfl, rfl⟩

/-- With the machine's id the run is a cascade, if it ends at all. -/
theorem cascade_of_verdict (hnode : NodeId.read token = .ok node)
    (hfound : (Access.get .virtualMachine node.group node.name).run setting session =
      .ok (some machine) read)
    (hrequested : (Access.delete .virtualMachine node.group machine.name).run setting
      (read.logging [Cascade.destroying node]) = .ok handle asked)
    (hfollowed : (t.isConfirmed handle).run setting asked = .ok verdict confirmed)
    (hfinished : ∀ after, (t.removeNode token).run setting session ≠ .error .unfinished after)
    {id : ResourceId} (hid : machine.reference = .ok id) :
    ∃ c : Cascade t setting session node, c.machine = machine ∧ c.verdict = verdict ∧
      (t.removeNode token).run setting session =
        .ok verdict (c.staged.logging [Cascade.concluding node verdict]) := by
  cases hend : (t.removeNode token).run setting session with
  | ok result after =>
    rcases endsAs_ok hend with hnothing | hcascade
    · obtain ⟨other, _, _, _, _, -, -, hother, hnone, -⟩ := hnothing
      obtain rfl : node = other := Except.ok.inj (hnode.symm.trans hother)
      cases hnone.symm.trans hfound
    · obtain ⟨other, c, _, hok, -, hother, -⟩ := hcascade
      obtain rfl : node = other := Except.ok.inj (hnode.symm.trans hother)
      obtain ⟨hmachine, hverdict⟩ := c.parts_eq hfound hrequested hfollowed
      refine ⟨c, hmachine, hverdict, ?_⟩
      rw [← hend, hok, hverdict]
  | error reason after =>
    cases reason with
    | unfinished => exact absurd hend (hfinished after)
    | raised fault =>
      rw [removeNode_run hnode hfound] at hend
      rcases run_bind_eq_error.mp hend with hremoved | ⟨deleted, begun, -, hrest⟩
      · exact absurd hremoved (removeMachine_not_raised hrequested hfollowed hid)
      · exact absurd hrest (concluding_neverRaises _ _ _ _)

end

section

variable {W : Type} {t : Teardown Rat} {setting : Setting Rat W}
variable {session read asked confirmed : Session Rat W} {token : Value} {node : NodeId}
variable {machine : View.Machine} {handle : Option Handle} {verdict : Bool}

/-- How a teardown goes on from a verdict: with every stage, to that verdict as the result. Only if
the machine's id cannot be read, the teardown stops there with the fault of the id. -/
theorem removeNode_of_verdict (ht : t.HasTime setting.pollLimit)
    (hforward : ∀ request world, 0 ≤ (setting.provider.answer request world).2.1)
    (hnode : NodeId.read token = .ok node)
    (hfound : (Access.get .virtualMachine node.group node.name).run setting session =
      .ok (some machine) read)
    (hrequested : (Access.delete .virtualMachine node.group machine.name).run setting
      (read.logging [Cascade.destroying node]) = .ok handle asked)
    (hfollowed : (t.isConfirmed handle).run setting asked = .ok verdict confirmed) :
    (∃ id, machine.reference = .ok id ∧ ∃ c : Cascade t setting session node,
        c.machine = machine ∧ c.verdict = verdict ∧
          (t.removeNode token).run setting session =
            .ok verdict (c.staged.logging [Cascade.concluding node verdict])) ∨
      ∃ fault, machine.reference = .error fault ∧
        (t.removeNode token).run setting session = .error (.raised fault) confirmed := by
  cases hid : machine.reference with
  | error fault =>
    -- The id is read before the check that would contain its fault.
    refine .inr ⟨fault, rfl, ?_⟩
    rw [removeNode_run hnode hfound, run_bind, removeMachine_run hrequested hfollowed, hid]
    rfl
  | ok id =>
    refine .inl ⟨id, rfl, cascade_of_verdict hnode hfound hrequested hfollowed ?_ hid⟩
    intro after hrun
    have hends : Ends setting session (t.removeNode token) _ := removeNode_concludes ht hforward
    obtain ⟨_, -, hconcludes⟩ := hends
    rw [hrun] at hconcludes
    exact hconcludes _ rfl rfl

end

/-! ## A machine whose id is missing -/

namespace Unnamed

/-- The provider deletes its machine without delay. The machine has one interface, and an id only
if one is given. -/
def setting (id : Option String) : Setting Rat Unit where
  provider := {
    answer
      | .get .virtualMachine _ _, world =>
        (.ok (some {
          id
          name := some "vm"
          interfaces := [some ⟨some "/subscriptions/s/resourceGroups/rg/providers/p/nics/nic"⟩]
          osDisk := none
          dataDisks := []
          availabilitySet := none }), 0, world)
      | .get _ _ _, world => (.error (.response ⟨.notFound, "gone", none⟩), 0, world)
      | .list _ _, world => (⟨[], none⟩, 0, world)
      | .beginDelete _ _ _, world => (.ok (some ⟨1⟩), 0, world)
      | .delete _ _ _, world => (.ok (), 0, world)
      | .members _, world => (⟨[], none⟩, 0, world)
      | .beginDeleteGroup _, world => (.ok none, 0, world)
      | .isDone _, world => (.ok true, 0, world)
      | .status _, world => (.ok (some "Succeeded"), 0, world)
    deletesAtOnce := Kind.deletesAtOnce }
  pollLimit := 13

def start : Session Rat Unit := ⟨(), 0, #[]⟩

def read (id : Option String) : Session Rat Unit :=
  left ((Access.get .virtualMachine "rg" "vm").run (setting id) start)

def asked (id : Option String) : Session Rat Unit :=
  left ((Access.delete .virtualMachine "rg" (some "vm")).run (setting id)
    ((read id).logging [Cascade.destroying ⟨"rg", "vm"⟩]))

def confirmed (id : Option String) : Session Rat Unit :=
  left ((Teardown.sample.isConfirmed (some ⟨1⟩)).run (setting id) (asked id))

theorem followed (id : Option String) :
    (Teardown.sample.isConfirmed (some ⟨1⟩)).run (setting id) (asked id) =
      .ok true (confirmed id) := by
  rfl

/-- Without an id the teardown raises after the machine's delete was accepted and confirmed, and
its interface was not even asked for. -/
theorem aborts_after_accepted_delete :
    ∃ handle after, (Access.delete .virtualMachine "rg" (some "vm")).run (setting none)
        ((read none).logging [Cascade.destroying ⟨"rg", "vm"⟩]) = .ok handle (asked none) ∧
      (Teardown.sample.isConfirmed handle).run (setting none) (asked none) =
        .ok true (confirmed none) ∧
      (Teardown.sample.removeNode (.str "rg/vm")).run (setting none) start =
        .error (.raised (.idNotText .null)) after ∧
      calls after.trace.toList =
        [.get .virtualMachine "rg" "vm", .beginDelete .virtualMachine "rg" (some "vm")] :=
  ⟨some ⟨1⟩, confirmed none, rfl, followed none, rfl, rfl⟩

def vmId : String := "/subscriptions/s/resourceGroups/rg/providers/p/machines/vm"

def machine : View.Machine where
  id := some vmId
  name := some "vm"
  group := "rg"
  interfaceIds := ["/subscriptions/s/resourceGroups/rg/providers/p/nics/nic"]
  osDiskId := none
  dataDiskIds := []
  availabilitySetId := none

theorem teardown_hasTime : Teardown.sample.HasTime 13 where
  deletion := ⟨by decide +kernel, by decide +kernel⟩
  departure := ⟨by decide +kernel, by decide +kernel⟩
  diskTime := by decide +kernel
  polls := by decide +kernel

theorem forward (id : Option String) (request : Request) (world : Unit) :
    0 ≤ ((setting id).provider.answer request world).2.1 := by
  cases request with
  | get kind _ _ => cases kind <;> exact le_rfl
  | _ => exact le_rfl

/-- With an id the stages follow. -/
theorem cascades_with_id :
    ∃ c : Cascade Teardown.sample (setting (some vmId)) start ⟨"rg", "vm"⟩,
      c.machine = machine ∧ c.verdict = true ∧
        (Teardown.sample.removeNode (.str "rg/vm")).run (setting (some vmId)) start =
          .ok true (c.staged.logging [Cascade.concluding ⟨"rg", "vm"⟩ true]) := by
  have hnode : NodeId.read (.str "rg/vm") = .ok ⟨"rg", "vm"⟩ := by rfl
  have hfound : (Access.get .virtualMachine "rg" "vm").run (setting (some vmId)) start =
      .ok (some machine) (read (some vmId)) := by rfl
  have hrequested : (Access.delete .virtualMachine "rg" (some "vm")).run (setting (some vmId))
      ((read (some vmId)).logging [Cascade.destroying ⟨"rg", "vm"⟩]) =
        .ok (some ⟨1⟩) (asked (some vmId)) := by rfl
  rcases removeNode_of_verdict teardown_hasTime (forward _) hnode hfound hrequested (followed _)
    with ⟨_, -, hcascade⟩ | ⟨fault, hreference, -⟩
  · exact hcascade
  · cases (show machine.reference = .ok ⟨"rg", "vm", vmId⟩ by rfl).symm.trans hreference

end Unnamed

end Reclaim
