import Reclaim.Proofs.Effect.Cloud

/-!
# Stocks

A stock is a cloud held in lists. Its provider answers as clouds do, while others raid it before
each request.
-/

namespace Reclaim

structure Stock where
  items : (kind : Kind) → List (Place × kind.Model)
  inUse : List Place
  named : ∀ kind, ∀ item ∈ items kind,
    (kind.named item.2).name = some item.1.name ∧ Names (kind.named item.2).id item.1

namespace Stock

variable (s : Stock) (gone : List Spot)

/-! ## What is left -/

def find (kind : Kind) (place : Place) : Option kind.Model :=
  if (kind, place) ∈ gone then none else (s.items kind).lookup place

theorem mem_of_find {kind : Kind} {place : Place} {object : kind.Model}
    (h : s.find gone kind place = some object) : (place, object) ∈ s.items kind := by
  unfold find at h
  split at h
  · cases h
  · obtain ⟨before, after, hitems, -⟩ := List.lookup_eq_some_iff.mp h
    rw [hitems]
    exact List.mem_append_right _ List.mem_cons_self

/-- The cloud that is left when these spots were cleared. -/
def cloud : Cloud where
  objects := s.find gone
  inUse := {place | place ∈ s.inUse}
  named kind _ _ h := s.named kind _ (s.mem_of_find gone h)

theorem cloud_append (more : List Spot) :
    s.cloud (more ++ gone) = (s.cloud gone).without {spot | spot ∈ more} := by
  refine Cloud.ext (fun kind place => ?_) rfl
  by_cases hmore : (kind, place) ∈ more
  · rw [Cloud.without_of_mem hmore]
    exact if_pos (List.mem_append_left _ hmore)
  · rw [Cloud.without_of_notMem hmore]
    simp [cloud, find, hmore]

theorem cloud_shrinks (more : List Spot) : (s.cloud gone).Shrinks (s.cloud (more ++ gone)) := by
  rw [cloud_append]
  exact Cloud.shrinks_without

/-! ## Answers -/

def machinesIn (set : Place) : List (Option Link) :=
  ((s.items .virtualMachine).filterMap fun item =>
    (s.find gone .virtualMachine item.1).filter fun machine => decide (machine.HasSet set)).map
      fun machine => some ⟨machine.id⟩

def display (place : Place) : (kind : Kind) → kind.Model → kind.Model
  | .availabilitySet, set => { set with machines := some (s.machinesIn gone place) }
  | _, object => object

def listing (kind : Kind) (group : String) : Listing kind.Model where
  items := ((s.items kind).filter (·.1.group = group)).filterMap fun item =>
    (s.find gone kind item.1).map fun object => some (s.display gone item.1 kind object)
  failure := none

def notFound : Fault := .response ⟨.notFound, "not found", some "ResourceNotFound"⟩

def refused : Fault := .response ⟨.conflict, "in use", some "InUseSubnetCannotBeDeleted"⟩

/-- The reply to a delete, and what is gone after it. -/
def remove {α : Type} (done : α) (kind : Kind) (group : String) :
    Option String → Except Fault α × List Spot
  | none => (.error notFound, gone)
  | some name =>
    if (s.find gone kind ⟨group, name⟩).isNone then (.error notFound, gone)
    else if kind = .virtualNetwork ∧ ⟨group, name⟩ ∈ s.inUse then (.error refused, gone)
    else (.ok done, (kind, ⟨group, name⟩) :: gone)

def everyKind : List Kind :=
  [.virtualMachine, .networkInterface, .publicIp, .disk, .availabilitySet, .securityGroup,
    .virtualNetwork]

def spots (group : String) : List Spot :=
  everyKind.flatMap fun kind => ((s.items kind).filter (·.1.group = group)).map fun item =>
    (kind, item.1)

abbrev Raid := Request → List Spot → List Spot

def answer : (request : Request) → request.Reply × List Spot
  | .get kind group name =>
    match s.find gone kind ⟨group, name⟩ with
    | some object => (.ok (some (s.display gone ⟨group, name⟩ kind object)), gone)
    | none => (.error notFound, gone)
  | .list kind group => (s.listing gone kind group, gone)
  | .beginDelete kind group name => s.remove gone (some ⟨gone.length⟩) kind group name
  | .delete kind group name => s.remove gone () kind group name
  | .members group =>
    (⟨everyKind.flatMap fun kind => (s.listing gone kind group).items.map fun object =>
      object.map fun object => { kind.named object with type := some kind.label }, none⟩, gone)
  | .beginDeleteGroup group => (.ok none, s.spots group ++ gone)
  | .isDone _ => (.ok true, gone)
  | .status _ => (.ok (some "Succeeded"), gone)

def provider (raid : Raid) : Provider Rat (List Spot) where
  answer request gone :=
    let (reply, after) := s.answer (raid request gone ++ gone) request
    (reply, 1, after)
  deletesAtOnce := Kind.deletesAtOnce

/-! ## Answers are those of the cloud -/

theorem mem_machinesIn {set : Place} {item : Option Link} :
    item ∈ s.machinesIn gone set ↔ ∃ place machine,
      s.find gone .virtualMachine place = some machine ∧ machine.HasSet set ∧
        item = some ⟨machine.id⟩ := by
  constructor
  · intro h
    obtain ⟨machine, hmachine, rfl⟩ := List.mem_map.mp h
    obtain ⟨⟨place, _⟩, -, hfound⟩ := List.mem_filterMap.mp hmachine
    obtain ⟨hfind, hset⟩ := Option.filter_eq_some_iff.mp hfound
    exact ⟨place, machine, hfind, of_decide_eq_true hset, rfl⟩
  · rintro ⟨place, machine, hfind, hset, rfl⟩
    refine List.mem_map.mpr ⟨machine, List.mem_filterMap.mpr ?_, rfl⟩
    exact ⟨_, s.mem_of_find gone hfind,
      Option.filter_eq_some_iff.mpr ⟨hfind, decide_eq_true hset⟩⟩

theorem shows_display {kind : Kind} {place : Place} {object : kind.Model}
    (h : s.find gone kind place = some object) :
    (s.cloud gone).Shows kind place (s.display gone place kind object) := by
  refine ⟨object, h, ?_⟩
  cases kind with
  | availabilitySet =>
    refine ⟨rfl, fun item hitem => ?_, ?_⟩
    · obtain ⟨at', machine, hfind, hset, rfl⟩ := (s.mem_machinesIn gone).mp hitem
      exact ⟨_, at', rfl, ((s.cloud gone).named _ _ _ hfind).2, machine, hfind, hset⟩
    · rintro at' ⟨machine, hfind, hset⟩
      exact ⟨_, (s.mem_machinesIn gone).mpr ⟨at', machine, hfind, hset, rfl⟩,
        ((s.cloud gone).named _ _ _ hfind).2⟩
  | _ => rfl

theorem lists_listing (kind : Kind) (group : String) :
    (s.cloud gone).Lists kind group (s.listing gone kind group) := by
  refine .inl ⟨rfl, fun item hitem => ?_, fun name hname => ?_⟩
  · obtain ⟨⟨⟨_, name⟩, _⟩, hmem, hshown⟩ := List.mem_filterMap.mp hitem
    obtain rfl := of_decide_eq_true (List.mem_filter.mp hmem).2
    obtain ⟨object, hfind, rfl⟩ := Option.map_eq_some_iff.mp hshown
    exact ⟨name, _, rfl, s.shows_display gone hfind⟩
  · obtain ⟨object, hfind⟩ := Option.ne_none_iff_exists'.mp hname
    refine ⟨_, List.mem_filterMap.mpr ⟨(⟨group, name⟩, object), ?_, ?_⟩, s.shows_display gone hfind⟩
    · exact List.mem_filter.mpr ⟨s.mem_of_find gone hfind, decide_eq_true rfl⟩
    · exact Option.map_eq_some_iff.mpr ⟨object, hfind, rfl⟩

theorem deletes_remove {α : Type} (done : α) (kind : Kind) (group : String) (name : Option String) :
    (s.cloud gone).Deletes kind group name (s.cloud (s.remove gone done kind group name).2)
      (s.remove gone done kind group name).1 := by
  have hnotFound : notFound.SaysNotFound := ⟨_, rfl, rfl⟩
  cases name with
  | none => exact ⟨rfl, .inl ⟨hnotFound, nofun⟩⟩
  | some name =>
    rw [remove]
    split
    next habsent =>
      refine ⟨rfl, .inl ⟨hnotFound, ?_⟩⟩
      rintro _ ⟨⟩
      exact Option.isNone_iff_eq_none.mp habsent
    next hthere =>
      have hfound : (s.cloud gone).objects kind ⟨group, name⟩ ≠ none :=
        fun habsent => hthere (Option.isNone_iff_eq_none.mpr habsent)
      split
      next hblocks =>
        refine ⟨rfl, .inr ⟨⟨_, _, rfl, nofun, rfl, List.mem_cons_self⟩, name, rfl, hfound, hblocks⟩⟩
      next hfree =>
        refine ⟨name, rfl, hfound, hfree, ?_⟩
        exact (s.cloud_append gone [_]).trans (by simp)

theorem cloud_spots (group : String) :
    s.cloud (s.spots group ++ gone) = (s.cloud gone).without {spot | spot.2.group = group} := by
  rw [cloud_append]
  refine Cloud.without_congr fun kind place hthere => ?_
  obtain ⟨object, hfind⟩ := Option.ne_none_iff_exists'.mp hthere
  constructor
  · intro hmem
    obtain ⟨_, -, hspot⟩ := List.mem_flatMap.mp hmem
    obtain ⟨item, hitem, ⟨⟩⟩ := List.mem_map.mp hspot
    exact of_decide_eq_true (List.mem_filter.mp hitem).2
  · intro hgroup
    refine List.mem_flatMap.mpr ⟨kind, by cases kind <;> decide, List.mem_map.mpr ?_⟩
    exact ⟨_, List.mem_filter.mpr ⟨s.mem_of_find gone hfind, decide_eq_true hgroup⟩, rfl⟩

theorem answers_answer (request : Request) :
    (s.cloud gone).Answers (s.cloud (s.answer gone request).2) request
      (s.answer gone request).1 := by
  cases request with
  | get kind group name =>
    rw [answer]
    cases hfind : s.find gone kind ⟨group, name⟩ with
    | some object => exact ⟨rfl, _, rfl, s.shows_display gone hfind⟩
    | none => exact ⟨rfl, ⟨_, rfl, rfl⟩, hfind⟩
  | list kind group => exact ⟨rfl, s.lists_listing gone kind group⟩
  | beginDelete kind group name => exact s.deletes_remove gone _ kind group name
  | delete kind group name => exact s.deletes_remove gone _ kind group name
  | members group => rfl
  | beginDeleteGroup group => exact s.cloud_spots gone group
  | isDone handle => exact ⟨rfl, rfl⟩
  | status handle => exact ⟨rfl, rfl⟩

theorem serves {others : Cloud → Cloud → Prop} {raid : Raid}
    (h : ∀ request gone, others (s.cloud gone) (s.cloud (raid request gone ++ gone))) :
    (s.provider raid).Serves others s.cloud := by
  intro request gone
  exact ⟨_, h request gone, s.answers_answer _ request, zero_le_one⟩

end Stock

end Reclaim
