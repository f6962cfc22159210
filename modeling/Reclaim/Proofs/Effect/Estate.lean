import Reclaim.Proofs.Effect.Stock
import Reclaim.Proofs.Time.Rules

/-!
# Estates

An estate is a cloud with the resource groups that house its objects. A group can be listed as long
as it exists, and it can be deleted with all that it holds.
-/

namespace Reclaim

structure Estate where
  cloud : Cloud
  groups : Set String
  /-- The members of groups that are of none of the kinds. -/
  further : String → Set Model.Member
  housed : ∀ kind place, cloud.objects kind place ≠ none → place.group ∈ groups
  furtherHoused : ∀ group, (further group).Nonempty → group ∈ groups

namespace Estate

/-- Nothing is in the group but what is at these spots. -/
def HoldsOnly (e : Estate) (group : String) (spots : Set Spot) : Prop :=
  (∀ kind place, place.group = group → e.cloud.objects kind place ≠ none → (kind, place) ∈ spots) ∧
    e.further group = ∅

def HasMember (e : Estate) (group : String) (member : Model.Member) : Prop :=
  (∃ kind place object, place.group = group ∧ e.cloud.objects kind place = some object ∧
    member.toNamed = kind.named object) ∨ member ∈ e.further group

theorem holdsOnly_without {e rest : Estate} {gone : Set Spot}
    (hcloud : rest.cloud = e.cloud.without gone) (hfurther : rest.further = e.further)
    (group : String) : rest.HoldsOnly group ∅ ↔ e.HoldsOnly group gone := by
  rw [HoldsOnly, HoldsOnly, hcloud, hfurther]
  refine and_congr_left' (forall₃_congr fun kind place _ => ?_)
  by_cases hgone : (kind, place) ∈ gone
  · simp [Cloud.without_of_mem hgone, hgone]
  · simp [Cloud.without_of_notMem hgone, hgone]

/-- These spots were cleared, and the group was closed if nothing else was in it. All else stays. -/
structure Reduces (e rest : Estate) (group : String) (spots : Set Spot) : Prop where
  cloud : rest.cloud = e.cloud.without spots
  groups : rest.groups = e.groups \ {other | other = group ∧ e.HoldsOnly group spots}
  further : rest.further = e.further

theorem reduces_self {e : Estate} {group : String}
    (h : group ∈ e.groups → ¬ e.HoldsOnly group ∅) : e.Reduces e group ∅ where
  cloud := (Cloud.without_of_absent fun _ _ hnone => hnone.elim).symm
  groups := by
    refine (sdiff_eq_left.mpr (Set.disjoint_left.mpr ?_)).symm
    rintro other hother ⟨rfl, honly⟩
    exact h hother honly
  further := rfl

theorem reduces_of_closed {e rest : Estate} {group : String} (hempty : e.HoldsOnly group ∅)
    (hcloud : rest.cloud = e.cloud) (hgroups : rest.groups = e.groups \ {group})
    (hfurther : rest.further = e.further) : e.Reduces rest group ∅ where
  cloud := hcloud.trans (Cloud.without_of_absent fun _ _ hnone => hnone.elim).symm
  groups := by
    have hclosed : {other | other = group ∧ e.HoldsOnly group ∅} = {group} := by
      ext other
      exact and_iff_left hempty
    rw [hgroups, hclosed]
  further := hfurther

/-- First spots are cleared, and then the group is looked at. -/
theorem Reduces.after_clearing {e between rest : Estate} {group : String} {spots : Set Spot}
    (h : between.Reduces rest group ∅) (hcloud : between.cloud = e.cloud.without spots)
    (hgroups : between.groups = e.groups) (hfurther : between.further = e.further) :
    e.Reduces rest group spots where
  cloud := h.cloud.trans ((Cloud.without_of_absent fun _ _ hnone => hnone.elim).trans hcloud)
  groups := by
    rw [h.groups, hgroups, holdsOnly_without hcloud hfurther]
  further := h.further.trans hfurther

/-! ## Answers -/

/-- The members of a group and nothing else, in any order and of any type. -/
def ListsMembers (e : Estate) (group : String) (listing : Listing Model.Member) : Prop :=
  (group ∈ e.groups ∧ listing.failure = none ∧
    (∀ item ∈ listing.items, ∃ member, item = some member ∧ e.HasMember group member) ∧
    (∀ kind place object, place.group = group → e.cloud.objects kind place = some object →
      ∃ member, some member ∈ listing.items ∧ member.toNamed = kind.named object) ∧
    ∀ member ∈ e.further group, some member ∈ listing.items) ∨
  group ∉ e.groups ∧ ∃ fault, listing = ⟨[], some fault⟩ ∧ fault.SaysNotFound

/-- A group is deleted at once, with all that it holds. -/
def DeletesGroup (e : Estate) (group : String) (after : Estate) :
    Except Fault (Option Handle) → Prop
  | .ok _ => group ∈ e.groups ∧ after.cloud = e.cloud.without {spot | spot.2.group = group} ∧
      after.groups = e.groups \ {group} ∧
        ∀ other, after.further other = if other = group then ∅ else e.further other
  | .error fault => after = e ∧ group ∉ e.groups ∧ fault.SaysNotFound

/-- The reply that the estate gives to a request, and the estate after it. -/
def Answers (e after : Estate) : (request : Request) → request.Reply → Prop
  | .members group, listing => after = e ∧ e.ListsMembers group listing
  | .beginDeleteGroup group, reply => e.DeletesGroup group after reply
  | request, reply => e.cloud.Answers after.cloud request reply ∧ after.groups = e.groups ∧
      after.further = e.further

variable {e after : Estate} {group : String}

/-- A group that does not exist holds nothing. -/
theorem without_absent_group (h : group ∉ e.groups) :
    e.cloud.without {spot | spot.2.group = group} = e.cloud := by
  refine Cloud.without_of_absent fun kind place hgroup => ?_
  by_contra hthere
  exact h (hgroup ▸ e.housed kind place hthere)

theorem Answers.cloud {request : Request} {reply : request.Reply}
    (h : e.Answers after request reply) : e.cloud.Answers after.cloud request reply := by
  cases request with
  | members group => exact congrArg Estate.cloud h.1
  | beginDeleteGroup group =>
    cases reply with
    | ok handle => exact h.2.1
    | error fault =>
      obtain ⟨rfl, habsent, -⟩ := h
      exact (without_absent_group habsent).symm
  | _ => exact h.1

/-- Only the delete of a group does something to groups. -/
theorem Answers.groups {request : Request} {reply : request.Reply}
    (h : e.Answers after request reply) (hrequest : ∀ group, request ≠ .beginDeleteGroup group) :
    after.groups = e.groups ∧ after.further = e.further := by
  cases request with
  | members group => exact ⟨congrArg Estate.groups h.1, congrArg Estate.further h.1⟩
  | beginDeleteGroup group => exact absurd rfl (hrequest group)
  | _ => exact h.2

end Estate

/-- The provider answers from the estate that its world stands for, and nobody else changes it. -/
def Provider.Hosts {W : Type} (provider : Provider Rat W) (estateOf : W → Estate) : Prop :=
  ∀ request world,
    (estateOf world).Answers (estateOf (provider.answer request world).2.2) request
      (provider.answer request world).1 ∧
    0 ≤ (provider.answer request world).2.1

namespace Provider.Hosts

variable {W : Type} {provider : Provider Rat W} {estateOf : W → Estate}
variable (h : provider.Hosts estateOf)

include h

theorem serves : provider.Serves (· = ·) fun world => (estateOf world).cloud :=
  fun request world => ⟨_, rfl, (h request world).1.cloud, (h request world).2⟩

/-- No group is deleted. -/
def keepingGroups (limit : Nat) (e : Estate) : Scene W where
  setting := ⟨provider, limit⟩
  asks request := ∀ group, request ≠ .beginDeleteGroup group
  holds world := (estateOf world).groups = e.groups ∧ (estateOf world).further = e.further
  elapsed_nonneg _ _ := (h _ _).2
  holds_answer hasks hholds := by
    obtain ⟨hgroups, hfurther⟩ := (h _ _).1.groups hasks
    exact ⟨hgroups.trans hholds.1, hfurther.trans hholds.2⟩

end Provider.Hosts

/-! ## Sites -/

/-- A stock that stands in groups. -/
structure Site where
  stock : Stock
  groups : List String
  housed : ∀ kind, ∀ item ∈ stock.items kind, item.1.group ∈ groups

namespace Site

/-- The spots that were cleared, and the groups that were closed. -/
abbrev World := List Spot × List String

variable (site : Site) (world : World)

/-- With a group all is gone that was in it. -/
def gone : List Spot := world.2.flatMap site.stock.spots ++ world.1

def isOpen (group : String) : Bool := site.groups.contains group && !world.2.contains group

theorem isOpen_iff {group : String} :
    site.isOpen world group = true ↔ group ∈ site.groups ∧ group ∉ world.2 := by
  simp [isOpen]

theorem find_of_closed {kind : Kind} {place : Place} (h : place.group ∈ world.2) :
    site.stock.find (site.gone world) kind place = none := by
  by_contra hthere
  obtain ⟨object, hfind⟩ := Option.ne_none_iff_exists'.mp hthere
  have hspot : (kind, place) ∈ site.stock.spots place.group :=
    List.mem_flatMap.mpr ⟨kind, by cases kind <;> decide, List.mem_map.mpr ⟨(place, object),
      List.mem_filter.mpr ⟨site.stock.mem_of_find _ hfind, decide_eq_true rfl⟩, rfl⟩⟩
  have hgone : (kind, place) ∈ site.gone world :=
    List.mem_append_left _ (List.mem_flatMap.mpr ⟨_, h, hspot⟩)
  exact hthere (if_pos hgone)

def estate : Estate where
  cloud := site.stock.cloud (site.gone world)
  groups := {group | site.isOpen world group = true}
  further _ := ∅
  housed kind place hthere := by
    obtain ⟨object, hfind⟩ := Option.ne_none_iff_exists'.mp hthere
    refine (site.isOpen_iff world).mpr ⟨site.housed kind _ (site.stock.mem_of_find _ hfind), ?_⟩
    intro hclosed
    exact hthere (site.find_of_closed world hclosed)
  furtherHoused _ h := absurd h Set.not_nonempty_empty

def answer : (request : Request) → request.Reply × World
  | .members group =>
    if site.isOpen world group then
      ((site.stock.answer (site.gone world) (.members group)).1, world)
    else (⟨[], some Stock.notFound⟩, world)
  | .beginDeleteGroup group =>
    if site.isOpen world group then (.ok none, (world.1, group :: world.2))
    else (.error Stock.notFound, world)
  | request =>
    let (reply, cleared) := site.stock.answer (site.gone world) request
    (reply, (cleared, world.2))

def provider : Provider Rat World where
  answer request world :=
    let (reply, after) := site.answer world request
    (reply, 1, after)
  deletesAtOnce := Kind.deletesAtOnce

theorem subset_answer (s : Stock) (gone : List Spot) (request : Request) :
    gone ⊆ (s.answer gone request).2 := by
  have hremove : ∀ {α : Type} (done : α) (kind : Kind) (group : String) (name : Option String),
      gone ⊆ (s.remove gone done kind group name).2 := by
    intro α done kind group name
    cases name with
    | none => exact fun _ h => h
    | some name =>
      rw [Stock.remove]
      split
      · exact fun _ h => h
      · split
        · exact fun _ h => h
        · exact List.subset_cons_self _ _
  cases request with
  | get kind group name =>
    rw [Stock.answer]
    split <;> exact fun _ h => h
  | beginDelete kind group name => exact hremove _ _ _ _
  | delete kind group name => exact hremove _ _ _ _
  | beginDeleteGroup group => exact List.subset_append_right _ _
  | _ => exact fun _ h => h

/-- The spots of closed groups were cleared when they were closed. -/
theorem cloud_cleared (request : Request) :
    site.stock.cloud (site.gone ((site.stock.answer (site.gone world) request).2, world.2)) =
      site.stock.cloud (site.stock.answer (site.gone world) request).2 := by
  refine (site.stock.cloud_append _ _).trans (Cloud.without_of_absent fun kind place hmem => ?_)
  exact if_pos (subset_answer _ _ _ (List.mem_append_left _ hmem))

theorem named_of_shows {c : Cloud} {kind : Kind} {place : Place} {shown : kind.Model}
    (h : c.Shows kind place shown) :
    ∃ stored, c.objects kind place = some stored ∧ kind.named shown = kind.named stored := by
  obtain ⟨stored, hstored, hdisplays⟩ := h
  refine ⟨stored, hstored, ?_⟩
  cases kind with
  | availabilitySet =>
    rw [hdisplays.1]
    rfl
  | _ => exact congrArg _ hdisplays

theorem listing_spec (kind : Kind) (group : String) :
    (∀ item ∈ (site.stock.listing (site.gone world) kind group).items, ∃ name object,
        item = some object ∧ (site.estate world).cloud.Shows kind ⟨group, name⟩ object) ∧
      ∀ name, (site.estate world).cloud.objects kind ⟨group, name⟩ ≠ none → ∃ object,
        some object ∈ (site.stock.listing (site.gone world) kind group).items ∧
          (site.estate world).cloud.Shows kind ⟨group, name⟩ object := by
  obtain ⟨-, hspec⟩ | ⟨⟨_, hlisting, -⟩, -⟩ := site.stock.lists_listing (site.gone world) kind group
  · exact hspec
  · cases congrArg Listing.failure hlisting

theorem listsMembers {group : String} (hopen : site.isOpen world group = true) :
    (site.estate world).ListsMembers group
      (site.stock.answer (site.gone world) (.members group)).1 := by
  refine .inl ⟨hopen, rfl, ?_, ?_, nofun⟩
  · intro item hitem
    obtain ⟨kind, -, hitem⟩ := List.mem_flatMap.mp hitem
    obtain ⟨found, hfound, rfl⟩ := List.mem_map.mp hitem
    obtain ⟨name, shown, rfl, hshows⟩ := (site.listing_spec world kind group).1 found hfound
    obtain ⟨stored, hstored, hnamed⟩ := named_of_shows hshows
    exact ⟨_, rfl, .inl ⟨kind, ⟨group, name⟩, stored, rfl, hstored, hnamed⟩⟩
  · rintro kind ⟨_, name⟩ stored rfl hstored
    obtain ⟨shown, hmem, hshows⟩ := (site.listing_spec world kind _).2 name (by rw [hstored]; nofun)
    obtain ⟨stored', hstored', hnamed⟩ := named_of_shows hshows
    obtain rfl : stored = stored' := Option.some.inj (hstored.symm.trans hstored')
    refine ⟨{ kind.named shown with type := some kind.label }, ?_, hnamed⟩
    refine List.mem_flatMap.mpr ⟨kind, by cases kind <;> decide, List.mem_map.mpr ?_⟩
    exact ⟨_, hmem, rfl⟩

theorem cloud_closing (group : String) :
    site.stock.cloud (site.gone (world.1, group :: world.2)) =
      (site.stock.cloud (site.gone world)).without {spot | spot.2.group = group} := by
  rw [← Stock.cloud_spots, gone, gone, List.flatMap_cons, List.append_assoc]

theorem hosts : site.provider.Hosts site.estate := by
  intro request world
  refine ⟨?_, zero_le_one⟩
  have hcloud := site.stock.answers_answer (site.gone world) request
  rw [← cloud_cleared] at hcloud
  cases request with
  | members group =>
    by_cases hopen : site.isOpen world group = true
    · have hanswer : site.provider.answer (.members group) world =
          ((site.stock.answer (site.gone world) (.members group)).1, 1, world) := by
        simp [provider, answer, hopen]
      rw [hanswer]
      exact ⟨rfl, site.listsMembers world hopen⟩
    · have hanswer : site.provider.answer (.members group) world =
          (⟨[], some Stock.notFound⟩, 1, world) := by
        simp [provider, answer, hopen]
      rw [hanswer]
      exact ⟨rfl, .inr ⟨hopen, _, rfl, _, rfl, rfl⟩⟩
  | beginDeleteGroup group =>
    by_cases hopen : site.isOpen world group = true
    · have hanswer : site.provider.answer (.beginDeleteGroup group) world =
          (.ok none, 1, (world.1, group :: world.2)) := by
        simp [provider, answer, hopen]
      rw [hanswer]
      refine ⟨hopen, site.cloud_closing world group, ?_, ?_⟩
      · ext other
        change site.isOpen _ other = true ↔ site.isOpen world other = true ∧ other ≠ group
        rw [isOpen_iff, isOpen_iff, List.mem_cons, not_or, and_comm (a := other ≠ group), and_assoc]
      · intro other
        exact (ite_self _).symm
    · have hanswer : site.provider.answer (.beginDeleteGroup group) world =
          (.error Stock.notFound, 1, world) := by
        simp [provider, answer, hopen]
      rw [hanswer]
      exact ⟨rfl, hopen, _, rfl, rfl⟩
  | _ => exact ⟨hcloud, rfl, rfl⟩

end Site

end Reclaim
