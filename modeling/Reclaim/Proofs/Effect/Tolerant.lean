import Reclaim.Proofs.Effect.Exact

/-!
# Deletes by others

Others may delete whatever they like before each request. The teardown of a node still ends well,
and what it had to remove is gone.
-/

namespace Reclaim

open Reclaim.Action

theorem not_incomplete_of_silent {events : List (Event Rat)} (h : reports events = [])
    {entry : Log.Entry} (hentry : .logged entry ∈ events) :
    entry.event ≠ "cleanup_stage_incomplete" := by
  intro hevent
  have hreport : entry ∈ reports events :=
    List.mem_filterMap.mpr ⟨_, hentry, if_pos (by simp [hevent, Stage.reportWords])⟩
  rw [h] at hreport
  cases hreport

variable {W : Type}

theorem removeNode_tolerates_deletes {t : Teardown Rat} (ht : t.IsSound)
    {provider : Provider Rat W} {cloudOf : W → Cloud} (hs : provider.Serves Cloud.Shrinks cloudOf)
    {limit : Nat} (hlimit : t.departure.polls ≤ limit) {session : Session Rat W}
    (hfree : (cloudOf session.world).inUse = ∅) {token : Value} {node : NodeId}
    (hnode : NodeId.read token = .ok node) {machine : Model.Machine}
    (hfirst : (provider.answer (.get .virtualMachine node.group node.name) session.world).1 =
      .ok (some machine))
    (hreadable : machine.IsReadable) (hinterfaces : ∀ place nic, machine.HasInterface place →
      (cloudOf session.world).objects .networkInterface place = some nic → nic.IsReadable) :
    ∃ after events, (t.removeNode token).run ⟨provider, limit⟩ session = .ok true after ∧
      after.trace.toList = session.trace.toList ++ events ∧
        (∀ entry, .logged entry ∈ events → entry.event ≠ "cleanup_stage_incomplete") ∧
          ∀ kind place, Due t (cloudOf session.world) node machine events (kind, place) →
            (cloudOf after.world).objects kind place = none := by
  obtain ⟨after, events, view, hrun, htrace, -, hcleared, hleaves⟩ :=
    removeNode_leaves hs isErosion_shrinks ht hlimit hnode hfirst hreadable hinterfaces
  refine ⟨after, events, hrun, htrace, fun entry => ?_, fun kind place hdue => ?_⟩
  · exact not_incomplete_of_silent (hcleared.silent hfree)
  · exact hleaves.absent isErosion_shrinks hdue

namespace Sample

/-- Others delete the interface just before the teardown does, and the whole group before its
networks are listed. -/
def raid : Stock.Raid
  | .beginDelete .networkInterface _ _, _ => [(.networkInterface, here "nic")]
  | .list .virtualNetwork group, _ => (stock []).spots group
  | _, _ => []

theorem tolerates_deletes :
    ∃ after events, (Teardown.sample.removeNode (.str "rg/vm")).run
        ⟨(stock []).provider raid, 13⟩ ⟨[], 0, #[]⟩ = .ok true after ∧
      after.trace.toList = [] ++ events ∧
        (∀ entry, .logged entry ∈ events → entry.event ≠ "cleanup_stage_incomplete") ∧
          ∀ kind place,
            Due Teardown.sample ((stock []).cloud []) ⟨"rg", "vm"⟩ machine events (kind, place) →
              ((stock []).cloud after.world).objects kind place = none := by
  have hserves : ((stock []).provider raid).Serves Cloud.Shrinks (stock []).cloud :=
    Stock.serves _ fun _ gone => Stock.cloud_shrinks _ gone _
  have hfree : ((stock []).cloud []).inUse = ∅ := by
    simp [Stock.cloud, stock]
  exact removeNode_tolerates_deletes sample_isSound hserves polls_departure.le hfree rfl rfl
    machine_isReadable fun _ _ _ => isReadable_of_stock

end Sample

end Reclaim
