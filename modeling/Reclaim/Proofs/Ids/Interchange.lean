import Reclaim.Proofs.Ids.Spellings
import Reclaim.Proofs.Cascade.Ending
import Mathlib.Data.List.Duplicate

/-!
# Whether spellings are interchangeable

Whoever reads an id finds the same place behind all of its spellings. A listing is searched for
the text as it was given, and the disks of a machine are told apart by it.
-/

namespace Reclaim

open Reclaim.Action

variable {τ W α β : Type}

/-! ## What a run removes -/

deriving instance DecidableEq for Removal

/-- What the requests among the events remove, in order. -/
def removals (events : List (Event τ)) : List Removal :=
  (calls events).filterMap Request.removal?

theorem removals_append (events more : List (Event τ)) :
    removals (events ++ more) = removals events ++ removals more := by
  unfold removals
  rw [calls_append, List.filterMap_append]

theorem removals_of_limits {kinds : List Kind} {past events : List (Event τ)}
    (h : Obeys (Limits kinds fun _ _ => False) past events) : removals events = [] := by
  refine List.filterMap_eq_nil_iff.mpr fun request hrequest => ?_
  obtain ⟨event, hevent, hcall⟩ := List.mem_filterMap.mp hrequest
  obtain ⟨before, hrule⟩ := h.mem hevent
  cases event with
  | asked asked reply =>
    have hnone : asked.removal? = none := by
      cases hremoval : asked.removal? with
      | none => rfl
      | some removal => exact (hrule.2 removal hremoval).elim
    have hsame : asked = request := by
      cases asked <;> simp_all [Event.call?]
    rw [← hsame, hnone]
  | _ => cases hcall

namespace Action

/-- A run removes these in order, all of them unless it stops before its end. -/
def Removes (action : Action τ W α) (wanted : List Removal) : Prop :=
  ∀ setting session, Ends setting session action fun events outcome _ =>
    removals events <+: wanted ∧ ∀ a, outcome = .ok a → removals events = wanted

variable {action : Action τ W α} {next : α → Action τ W β}

theorem Removes.pure {a : α} : Removes (pure a : Action τ W α) [] :=
  fun _ _ => Ends.pure ⟨List.nil_prefix, fun _ _ => rfl⟩

theorem Removes.bind {first rest : List Removal} (h : Removes action first)
    (hnext : ∀ a, Removes (next a) rest) : Removes (action >>= next) (first ++ rest) := by
  intro setting session
  refine Ends.bind (h setting session) ?_ ?_
  · rintro events a after ⟨-, hall⟩
    refine Ends.mono (hnext a setting after) ?_
    rintro more outcome final ⟨hmore, hrest⟩
    rw [removals_append, hall a rfl]
    exact ⟨List.prefix_append_right_inj _ |>.mpr hmore, fun b hb => by rw [hrest b hb]⟩
  · rintro events reason after ⟨hsome, -⟩
    exact ⟨hsome.trans (List.prefix_append _ _), nofun⟩

theorem removes_nothing {kinds : List Kind}
    (h : Always (Limits kinds fun _ _ => False) [] action) : Removes action [] := by
  intro setting session
  refine Ends.mono (h setting session) ?_
  rintro events outcome after ⟨hobeys, -⟩
  rw [removals_of_limits hobeys]
  exact ⟨List.prefix_rfl, fun _ _ => rfl⟩

end Action

theorem removals_of_delete {provider : Provider τ W} {kind : Kind} {group : String}
    {name : Option String} {events : List (Event τ)}
    (hcalls : calls events = [provider.deleteRequest kind group name]) :
    removals events = [.resource kind group name] := by
  unfold removals
  rw [hcalls, Provider.deleteRequest]
  split <;> rfl

theorem delete_removes [Timescale τ] {kind : Kind} {group : String} {name : Option String} :
    Removes (Access.delete kind group name : Action τ W (Option Handle))
      [.resource kind group name] := by
  intro setting session
  refine Ends.mono delete_calls fun events outcome after hcalls => ?_
  rw [removals_of_delete hcalls]
  exact ⟨List.prefix_rfl, fun _ _ => rfl⟩

/-! ## Disks -/

/-- The text is one of the machine's disk ids. -/
def View.Machine.HoldsDisk (m : View.Machine) (text : String) : Prop :=
  m.osDiskId = some text ∨ text ∈ m.dataDiskIds

/-- The delete of the disk that the id names. -/
def ResourceId.diskRemoval (id : ResourceId) : Removal := .resource .disk id.group (some id.name)

theorem nodup_eraseDups {α : Type} [BEq α] [LawfulBEq α] (items : List α) :
    items.eraseDups.Nodup := by
  cases items with
  | nil => exact List.nodup_nil
  | cons a rest =>
    rw [List.eraseDups_cons, List.nodup_cons]
    refine ⟨?_, nodup_eraseDups _⟩
    simp
termination_by items.length
decreasing_by
  have hfewer := List.length_filter_le (fun b => !b == a) rest
  rw [List.length_cons]
  omega

theorem duplicate_of_map {f : α → β} {items : List α} {a b : α} (ha : a ∈ items) (hb : b ∈ items)
    (hne : a ≠ b) (hf : f a = f b) : List.Duplicate (f a) (items.map f) := by
  induction items with
  | nil => cases ha
  | cons first rest ih =>
    rw [List.map_cons]
    rcases List.mem_cons.mp ha with rfl | hrest
    · have hb := (List.mem_cons.mp hb).resolve_left hne.symm
      exact List.Mem.duplicate_cons_self (hf ▸ List.mem_map_of_mem hb)
    · rcases List.mem_cons.mp hb with rfl | hrest'
      · rw [hf]
        exact List.Mem.duplicate_cons_self (hf ▸ List.mem_map_of_mem hrest)
      · exact (ih hrest hrest').duplicate_cons _

namespace Teardown

variable {machine : View.Machine} {ids : List ResourceId}

theorem nodup_diskIds (h : diskIds machine = .ok ids) : ids.Nodup := by
  unfold diskIds at h
  cases hread : (((View.given machine.osDiskId).toList ++ machine.dataDiskIds).filter
      (· ≠ "")).mapM fun text => ResourceId.read (.str text) with
  | error fault =>
    simp only [hread, bind, Except.bind] at h
    cases h
  | ok found =>
    simp only [hread, bind, Except.bind, pure, Except.pure, Except.ok.injEq] at h
    rw [← h]
    exact nodup_eraseDups found

variable [Timescale τ]

theorem requestDisks_removes (ids : List ResourceId) :
    Removes (requestDisks ids : Action τ W _) (ids.map ResourceId.diskRemoval) := by
  induction ids with
  | nil => exact .pure
  | cons id rest ih =>
    rw [requestDisks, List.map_cons]
    have hlog : Removes (log .debug "deleting_managed_disk" (aboutId id) : Action τ W Unit) [] :=
      fun _ _ => Ends.record ⟨List.prefix_rfl, fun _ _ => rfl⟩
    refine .bind hlog fun _ => ?_
    refine .bind delete_removes fun handle => ?_
    rw [← List.append_nil (rest.map _)]
    exact .bind ih fun others => .pure

/-- What comes after the requests only follows them and looks. -/
theorem removeDisks_removes (t : Teardown τ) (h : diskIds machine = .ok ids) :
    Removes (t.removeDisks machine : Action τ W Bool) (ids.map ResourceId.diskRemoval) := by
  have hids : (Action.ofExcept (.ok ids) : Action τ W (List ResourceId)) = pure ids := rfl
  unfold removeDisks
  rw [h, hids, pure_bind, ← List.append_nil (ids.map _)]
  refine .bind (requestDisks_removes ids) fun jobs => ?_
  refine removes_nothing (?_ : Always (Limits [.disk] _) [] _)
  refine .bind (failing_keeps fun job _ _ => isConfirmed_keeps limits_allowsFollowing)
    fun _ unconfirmed _ => ?_
  refine .bind (warnOf_keeps fun _ _ => by simp [Limits, Stage.reportWords]) fun _ _ _ => ?_
  refine .bind .ofExcept fun _ isGone hmade => ?_
  refine .bind (failing_keeps fun id _ _ => ?_) fun _ present _ => ?_
  · exact checked_keeps (diskCheck_keeps hmade.2) fun _ _ => by simp [Limits, Stage.reportWords]
  refine .bind (warnOf_keeps fun _ _ => by simp [Limits, Stage.reportWords]) fun _ _ _ => ?_
  refine .bind (failing_keeps fun id _ _ => hasLeft_keeps) fun _ still _ => ?_
  refine .bind (warnOf_keeps fun _ _ => by simp [Limits, Stage.reportWords]) fun _ _ _ => ?_
  exact .pure trivial

end Teardown

/-! ## Spellings -/

namespace ResourceId

variable {s s' : String} {id id' : ResourceId}

theorem isAbsent_eq_iff (h : parse? s = some id) (h' : parse? s' = some id') :
    (∀ listing, Departure.isAbsent id listing = Departure.isAbsent id' listing) ↔
      Text.lower s = Text.lower s' := by
  obtain ⟨rfl, -⟩ := parse?_eq_some_iff.mp h
  obtain ⟨rfl, -⟩ := parse?_eq_some_iff.mp h'
  constructor
  · intro hsame
    have hshown := hsame (some [⟨⟨some id.text, none⟩, ""⟩])
    simpa [Departure.isAbsent, Departure.isMember] using hshown
  · intro hlower listing
    have hmember : Departure.isMember id = Departure.isMember id' := by
      funext member
      simp only [Departure.isMember, hlower]
    cases listing with
    | none => rfl
    | some members => simp only [Departure.isAbsent, hmember]

/-- Two accepted spellings are judged alike in every listing exactly if they have the same lower
case, as they have when only letters of ASCII are written in another case. Spellings of one path
name the same place, but no blank and no slash more or less goes unnoticed in a listing. Of the
texts that a machine holds as ids of disks, each has one delete requested; two spellings of one
path have the delete of one disk requested twice. -/
theorem spellings_agree_up_to_case {τ W : Type} [Timescale τ] (t : Teardown τ)
    (h : parse? s = some id) (h' : parse? s' = some id') :
    ((∀ listing, Departure.isAbsent id listing = Departure.isAbsent id' listing) ↔
        Text.lower s = Text.lower s') ∧
      (Text.SameButCase s.toList s'.toList → Text.lower s = Text.lower s') ∧
      (bare s = bare s' → id.place = id'.place ∧ (Text.lower s = Text.lower s' → s = s')) ∧
      ∀ (machine : View.Machine) (setting : Setting τ W) session verdict after,
        (t.removeDisks machine).run setting session = .ok verdict after →
          ∃ events, ∃ ids : List ResourceId,
            after.trace.toList = session.trace.toList ++ events ∧
              removals events = ids.map diskRemoval ∧ ids.Nodup ∧
                (∀ held, held ∈ ids ↔
                  ∃ text, machine.HoldsDisk text ∧ parse? text = some held) ∧
                (machine.HoldsDisk s → machine.HoldsDisk s' → bare s = bare s' → s ≠ s' →
                  List.Duplicate id.diskRemoval (removals events)) := by
  refine ⟨isAbsent_eq_iff h h', Text.lower_eq_of_sameButCase, fun hbare =>
    ⟨place_eq_of_bare_eq h h' hbare, eq_of_lower_eq h h' hbare⟩, ?_⟩
  intro machine setting session verdict after hrun
  have hread := hrun
  unfold Teardown.removeDisks at hread
  obtain ⟨ids, _, hids, -⟩ := run_bind_eq_ok.mp hread
  obtain ⟨hids, -⟩ := run_ofExcept_eq_ok.mp hids
  obtain ⟨events, htrace, -, hremovals⟩ :=
    Ends.of_ok (Teardown.removeDisks_removes t hids setting session) hrun
  have hremoved := hremovals verdict rfl
  refine ⟨events, ids, htrace, hremoved, Teardown.nodup_diskIds hids,
    fun held => Teardown.mem_diskIds hids, ?_⟩
  intro hheld hheld' hbare hne
  have hdistinct : id ≠ id' := by
    rintro rfl
    exact hne ((parse?_eq_some_iff.mp h).1.symm.trans (parse?_eq_some_iff.mp h').1)
  have hplace := place_eq_of_bare_eq h h' hbare
  have hsame : id.diskRemoval = id'.diskRemoval := by
    unfold diskRemoval
    unfold place at hplace
    obtain ⟨hgroup, hname⟩ := Place.mk.inj hplace
    rw [hgroup, hname]
  rw [hremoved]
  exact duplicate_of_map ((Teardown.mem_diskIds hids).mpr ⟨s, hheld, h⟩)
    ((Teardown.mem_diskIds hids).mpr ⟨s', hheld', h'⟩) hdistinct hsame

end ResourceId

/-! A machine that holds its one disk with and without a slash at the end. -/

namespace Twofold

def text : String := "/subscriptions/s/resourceGroups/rg/providers/p/disks/d"

def slashed : String := "/subscriptions/s/resourceGroups/rg/providers/p/disks/d/"

def machine : View.Machine where
  id := some "/subscriptions/s/resourceGroups/rg/providers/p/machines/vm"
  name := some "vm"
  group := "rg"
  interfaceIds := []
  osDiskId := some text
  dataDiskIds := [slashed]
  availabilitySetId := none

/-- Deletes are confirmed, and nothing is left to be found. -/
def provider : Provider Rat Unit where
  answer
    | .get _ _ _, world => (.error (.response ⟨.notFound, "gone", none⟩), 1, world)
    | .list _ _, world => (⟨[], none⟩, 1, world)
    | .beginDelete _ _ _, world => (.ok (some ⟨1⟩), 1, world)
    | .delete _ _ _, world => (.ok (), 1, world)
    | .members _, world => (⟨[], none⟩, 1, world)
    | .beginDeleteGroup _, world => (.ok none, 1, world)
    | .isDone _, world => (.ok true, 1, world)
    | .status _, world => (.ok (some "Succeeded"), 1, world)
  deletesAtOnce := Kind.deletesAtOnce

def listing : List View.Member := [⟨⟨some text, some "d"⟩, "disks"⟩]

theorem parse?_text : ResourceId.parse? text = some ⟨"rg", "d", text⟩ := by rfl

theorem parse?_slashed : ResourceId.parse? slashed = some ⟨"rg", "d", slashed⟩ := by rfl

theorem bare_slashed : ResourceId.bare text = ResourceId.bare slashed := by decide +kernel

/-- The one spelling is found where the other is missed, and a delete is requested for each. -/
theorem told_apart :
    (∃ id id', ResourceId.parse? text = some id ∧ ResourceId.parse? slashed = some id' ∧
        Departure.isAbsent id (some listing) = false ∧
          Departure.isAbsent id' (some listing) = true) ∧
      ResourceId.bare text = ResourceId.bare slashed ∧
        removals (left ((Teardown.sample.removeDisks machine).run ⟨provider, 1⟩
            ⟨(), 0, #[]⟩)).trace.toList =
          [.resource .disk "rg" (some "d"), .resource .disk "rg" (some "d")] := by
  refine ⟨⟨_, _, parse?_text, parse?_slashed, ?_, ?_⟩, bare_slashed, ?_⟩
  · decide +kernel
  · decide +kernel
  · decide +kernel

theorem place_agrees :
    (⟨"rg", "d", text⟩ : ResourceId).place = (⟨"rg", "d", slashed⟩ : ResourceId).place ∧
      Text.lower text ≠ Text.lower slashed ∧
        ¬ ∀ listing, Departure.isAbsent ⟨"rg", "d", text⟩ listing =
          Departure.isAbsent ⟨"rg", "d", slashed⟩ listing := by
  obtain ⟨hlisting, -, hbare, -⟩ := ResourceId.spellings_agree_up_to_case (W := Unit)
    Teardown.sample parse?_text parse?_slashed
  obtain ⟨hplace, hlower⟩ := hbare bare_slashed
  have hne : Text.lower text ≠ Text.lower slashed := by
    intro hsame
    have htexts : text ≠ slashed := by decide +kernel
    exact htexts (hlower hsame)
  exact ⟨hplace, hne, fun hsame => hne (hlisting.mp hsame)⟩

end Twofold

end Reclaim
