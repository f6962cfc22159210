import Reclaim.Proofs.Authorisation.Operations
import Reclaim.Proofs.Cascade.Ending

/-!
# What counts as attached

An attachment counts by its id. One without an id is left out where the object is viewed, so that
what has no other attachments is taken for orphaned. A missing element fails the view as a whole.
-/

namespace Reclaim

open Reclaim.Action

variable {τ W : Type}

namespace View

theorem exists_linkIds_iff {links : List (Option Link)} :
    (∃ ids, linkIds links = .ok ids) ↔ none ∉ links := by
  constructor
  · rintro ⟨ids, hids⟩
    obtain ⟨found, rfl, -⟩ := linkIds_eq_ok hids
    simp
  · intro hnone
    have hfound : ∀ link ∈ links, ∃ found, need "id" link = .ok found := by
      intro link hlink
      cases link with
      | none => exact absurd hlink hnone
      | some found => exact ⟨found, rfl⟩
    obtain ⟨found, hmap⟩ := exists_mapM hfound
    exact ⟨_, linkIds_of_list (eq_map_of_mapM_need hmap)⟩

theorem exists_mapM_linkIds_iff {links : Option (List (Option Link))} :
    (∃ ids, links.mapM linkIds = .ok ids) ↔ none ∉ links.getD [] := by
  cases links with
  | none =>
    simp only [Option.getD_none, List.not_mem_nil, not_false_eq_true, iff_true]
    exact ⟨none, rfl⟩
  | some links =>
    rw [Option.getD_some, ← exists_linkIds_iff]
    constructor
    · rintro ⟨ids, hids⟩
      cases hfound : linkIds links with
      | ok found => exact ⟨found, rfl⟩
      | error fault =>
        rw [Option.mapM_some, hfound] at hids
        cases hids
    · rintro ⟨found, hfound⟩
      refine ⟨some found, ?_⟩
      rw [Option.mapM_some, hfound]
      rfl

theorem exists_availabilitySet_iff {object : Model.AvailabilitySet} :
    (∃ view, availabilitySet (some object) = .ok view) ↔ none ∉ object.machines.getD [] := by
  rw [← exists_mapM_linkIds_iff]
  constructor
  · rintro ⟨view, hview⟩
    exact ⟨_, (availabilitySet_eq_ok hview).2⟩
  · rintro ⟨ids, hids⟩
    exact ⟨⟨object.toTagged, ids⟩, by
      simp only [availabilitySet, need, hids, bind, Except.bind, pure, Except.pure]⟩

theorem exists_securityGroup_iff {object : Model.SecurityGroup} :
    (∃ view, securityGroup (some object) = .ok view) ↔ none ∉ object.interfaces.getD [] := by
  rw [← exists_mapM_linkIds_iff]
  constructor
  · rintro ⟨view, hview⟩
    exact ⟨_, (securityGroup_eq_ok hview).2⟩
  · rintro ⟨ids, hids⟩
    exact ⟨⟨object.toNamed, ids⟩, by
      simp only [securityGroup, need, hids, bind, Except.bind, pure, Except.pure]⟩

end View

namespace Ownership

theorem isOrphanedSecurityGroup_iff {object : Model.SecurityGroup} {view : View.SecurityGroup}
    (h : View.securityGroup (some object) = .ok view) :
    isOrphanedSecurityGroup view = true ↔ Model.SaysNothing object.interfaces :=
  View.mapM_linkIds_isEmpty (View.securityGroup_eq_ok h).2

/-- What is known, before the delete of a shared resource is requested, of the object as the
provider just showed it: it is ours, and no attachment of it has an id. -/
def Unattached (key : String) (past : List (Event τ)) : Removal → Prop
  | .resource .availabilitySet group name =>
      ∃ shown object, name = some shown ∧ JustShown past .availabilitySet ⟨group, shown⟩ object ∧
        hasTag key object.tags = true ∧ Model.SaysNothing object.machines
  | .resource .securityGroup group name =>
      ∃ shown object, name = some shown ∧ JustShown past .securityGroup ⟨group, shown⟩ object ∧
        Model.SaysNothing object.interfaces
  | _ => True

theorem unattached_of_warranted {t : Teardown τ} {operation : Operation} {past : List (Event τ)}
    {removal : Removal} (h : Warranted t operation past removal) :
    Unattached t.ownershipTag past removal := by
  cases removal with
  | group name => trivial
  | resource kind group name =>
    cases kind with
    | availabilitySet =>
      cases name with
      | none => exact h.elim
      | some name =>
        obtain ⟨_, object, -, -, hshown, htag, hunused⟩ := h
        exact ⟨name, object, rfl, hshown, htag, hunused⟩
    | securityGroup =>
      cases name with
      | none => exact h.elim
      | some name =>
        obtain ⟨object, -, hshown, hunused⟩ := h
        exact ⟨name, object, rfl, hshown, hunused⟩
    | _ => trivial

/-- A set and a security group can be viewed unless an element of their attachments is missing. The
view is judged orphaned exactly if no attachment has an id, whatever else the attachments are, and
a set only if it is ours. So no run of any operation deletes a set or a security group that was
shown with an id among its attachments. -/
theorem orphaned_iff_no_attachment_has_id [Timescale τ] (t : Teardown τ) :
    (∀ object, (∃ view, View.availabilitySet (some object) = .ok view) ↔
        none ∉ object.machines.getD []) ∧
      (∀ key object view, View.availabilitySet (some object) = .ok view →
        (isOrphanedSet key view = true ↔
          hasTag key object.tags = true ∧ Model.SaysNothing object.machines)) ∧
      (∀ object, (∃ view, View.securityGroup (some object) = .ok view) ↔
        none ∉ object.interfaces.getD []) ∧
      (∀ object view, View.securityGroup (some object) = .ok view →
        (isOrphanedSecurityGroup view = true ↔ Model.SaysNothing object.interfaces)) ∧
      ∀ operation (setting : Setting τ W) session, ∃ events,
        (left ((t.carryOut operation).run setting session)).trace.toList =
            session.trace.toList ++ events ∧
          ∀ before request reply rest, events = before ++ .asked request reply :: rest →
            ∀ removal ∈ request.removal?, Unattached t.ownershipTag before removal := by
  refine ⟨fun _ => View.exists_availabilitySet_iff, fun key _ _ hview =>
    Teardown.isOrphanedSet_iff key hview, fun _ => View.exists_securityGroup_iff, fun _ _ hview =>
    isOrphanedSecurityGroup_iff hview, ?_⟩
  intro operation setting session
  obtain ⟨events, htrace, -, hobeys⟩ := Teardown.carryOut_events (t := t) operation setting session
  refine ⟨events, htrace, ?_⟩
  rintro before request reply rest rfl removal hremoval
  exact unattached_of_warranted (hobeys.at removal hremoval)

end Ownership

/-! An availability set and a security group, each with an attachment that has no id. -/

namespace Anonymous

def set : Model.AvailabilitySet where
  id := some "/subscriptions/s/resourceGroups/rg/providers/p/sets/set"
  name := some "set"
  tags := [("owner", .str "us")]
  machines := some [some ⟨none⟩]

def group : Model.SecurityGroup where
  id := some "/subscriptions/s/resourceGroups/rg/providers/p/groups/jclouds-web"
  name := some "jclouds-web"
  interfaces := some [some ⟨some ""⟩]

def machine : View.Machine where
  id := some "/subscriptions/s/resourceGroups/rg/providers/p/machines/vm"
  name := some "vm"
  group := "rg"
  interfaceIds := []
  osDiskId := none
  dataDiskIds := []
  availabilitySetId := set.id

def provider : Provider Rat Unit where
  answer
    | .get .availabilitySet _ _, world => (.ok (some set), 1, world)
    | .get .securityGroup _ _, world => (.ok (some group), 1, world)
    | .get _ _ _, world => (.error (.response ⟨.notFound, "gone", none⟩), 1, world)
    | .list _ _, world => (⟨[], none⟩, 1, world)
    | .beginDelete _ _ _, world => (.ok none, 1, world)
    | .delete _ _ _, world => (.ok (), 1, world)
    | .members _, world => (⟨[], none⟩, 1, world)
    | .beginDeleteGroup _, world => (.ok none, 1, world)
    | .isDone _, world => (.ok true, 1, world)
    | .status _, world => (.ok (some "Succeeded"), 1, world)
  deletesAtOnce := Kind.deletesAtOnce

/-- Both are judged orphaned, and both are deleted right after they were shown as attached. -/
theorem attached_yet_deleted :
    (∃ view, View.availabilitySet (some set) = .ok view ∧ set.machines = some [some ⟨none⟩] ∧
        Ownership.isOrphanedSet "owner" view = true) ∧
      (∃ view, View.securityGroup (some group) = .ok view ∧
        group.interfaces = some [some ⟨some ""⟩] ∧
          Ownership.isOrphanedSecurityGroup view = true) ∧
      calls (left ((Teardown.sample.removeAvailabilitySet machine).run ⟨provider, 1⟩
          ⟨(), 0, #[]⟩)).trace.toList =
        [.get .availabilitySet "rg" "set", .delete .availabilitySet "rg" (some "set")] ∧
      calls (left ((Teardown.sample.removeSecurityGroup "rg" (some "web")).run ⟨provider, 1⟩
          ⟨(), 0, #[]⟩)).trace.toList =
        [.get .securityGroup "rg" "jclouds-web",
          .beginDelete .securityGroup "rg" (some "jclouds-web"), .members "rg"] := by
  refine ⟨⟨_, rfl, rfl, ?_⟩, ⟨_, rfl, rfl, ?_⟩, ?_, ?_⟩
  · decide +kernel
  · decide +kernel
  · decide +kernel
  · decide +kernel

end Anonymous

end Reclaim
