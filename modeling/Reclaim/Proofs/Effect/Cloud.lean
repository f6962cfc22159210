import Reclaim.Proofs.Cloud.Mention
import Reclaim.Cloud.Access
import Mathlib.Data.Set.Lattice

/-!
# Clouds

A cloud holds the objects of a provider by kind and place. Between two requests others may erode
it: they delete, and never create.
-/

namespace Reclaim

def Kind.named : (kind : Kind) → kind.Model → Named
  | virtualMachine, m => m.toNamed
  | networkInterface, n => n.toNamed
  | publicIp, ip => ip.toNamed
  | disk, d => d
  | availabilitySet, a => a.toNamed
  | securityGroup, s => s.toNamed
  | virtualNetwork, n => n.toNamed

abbrev Spot := Kind × Place

structure Cloud where
  objects : (kind : Kind) → Place → Option kind.Model
  /-- Where the networks are that the provider refuses to delete. -/
  inUse : Set Place
  named : ∀ kind place object, objects kind place = some object →
    (kind.named object).name = some place.name ∧ Names (kind.named object).id place

namespace Cloud

theorem ext {c d : Cloud} (hobjects : ∀ kind place, c.objects kind place = d.objects kind place)
    (hinUse : c.inUse = d.inUse) : c = d := by
  cases c
  cases d
  simp only [mk.injEq]
  exact ⟨funext fun kind => funext (hobjects kind), hinUse⟩

/-! ## Removing -/

open Classical in
noncomputable def without (c : Cloud) (gone : Set Spot) : Cloud where
  objects kind place := if (kind, place) ∈ gone then none else c.objects kind place
  inUse := c.inUse
  named kind place object h := by
    split at h
    · cases h
    · exact c.named kind place object h

variable {c d e : Cloud} {gone more : Set Spot} {kind : Kind} {place : Place}

theorem without_of_mem (h : (kind, place) ∈ gone) : (c.without gone).objects kind place = none :=
  if_pos h

theorem without_of_notMem (h : (kind, place) ∉ gone) :
    (c.without gone).objects kind place = c.objects kind place :=
  if_neg h

/-- Only what is there can be missed. -/
theorem without_congr (h : ∀ kind place, c.objects kind place ≠ none →
    ((kind, place) ∈ gone ↔ (kind, place) ∈ more)) : c.without gone = c.without more := by
  refine ext (fun kind place => ?_) rfl
  by_cases hthere : c.objects kind place = none
  · simp [without, hthere]
  have hiff := h kind place hthere
  by_cases hgone : (kind, place) ∈ gone
  · rw [without_of_mem hgone, without_of_mem (hiff.mp hgone)]
  · rw [without_of_notMem hgone, without_of_notMem (mt hiff.mpr hgone)]

theorem without_union : (c.without gone).without more = c.without (gone ∪ more) := by
  refine ext (fun kind place => ?_) rfl
  by_cases hgone : (kind, place) ∈ gone <;> by_cases hmore : (kind, place) ∈ more <;>
    simp [without, hgone, hmore]

theorem without_of_absent (h : ∀ kind place, (kind, place) ∈ gone → c.objects kind place = none) :
    c.without gone = c := by
  refine ext (fun kind place => ?_) rfl
  by_cases hgone : (kind, place) ∈ gone
  · rw [without_of_mem hgone, h kind place hgone]
  · exact without_of_notMem hgone

/-! ## Erosion -/

/-- Nothing is created and no object changes. -/
structure Shrinks (c d : Cloud) : Prop where
  objects : ∀ {kind place object}, d.objects kind place = some object →
    c.objects kind place = some object
  inUse : d.inUse = c.inUse

theorem Shrinks.absent (h : c.Shrinks d) (habsent : c.objects kind place = none) :
    d.objects kind place = none := by
  cases hthere : d.objects kind place with
  | none => rfl
  | some object =>
    rw [h.objects hthere] at habsent
    cases habsent

theorem Shrinks.refl : c.Shrinks c := ⟨id, rfl⟩

theorem Shrinks.trans (h : c.Shrinks d) (h' : d.Shrinks e) : c.Shrinks e :=
  ⟨fun hobject => h.objects (h'.objects hobject), h'.inUse.trans h.inUse⟩

theorem shrinks_without : c.Shrinks (c.without gone) where
  objects {kind place object} h := by
    by_cases hgone : (kind, place) ∈ gone
    · rw [without_of_mem hgone] at h
      cases h
    · rw [without_of_notMem hgone] at h
      exact h
  inUse := rfl

theorem Shrinks.without (h : c.Shrinks d) : (c.without gone).Shrinks (d.without gone) where
  objects {kind place object} hobject := by
    by_cases hgone : (kind, place) ∈ gone
    · rw [without_of_mem hgone] at hobject
      cases hobject
    · rw [without_of_notMem hgone] at hobject ⊢
      exact h.objects hobject
  inUse := h.inUse

end Cloud

/-- What others may do to a cloud between two requests. -/
structure IsErosion (others : Cloud → Cloud → Prop) : Prop where
  refl : ∀ c, others c c
  trans : ∀ {c d e}, others c d → others d e → others c e
  without : ∀ {c d} gone, others c d → others (c.without gone) (d.without gone)
  shrinks : ∀ {c d}, others c d → c.Shrinks d

theorem isErosion_eq : IsErosion (· = ·) where
  refl _ := rfl
  trans := Eq.trans
  without _ h := by rw [h]
  shrinks h := h ▸ .refl

theorem isErosion_shrinks : IsErosion Cloud.Shrinks where
  refl _ := .refl
  trans := .trans
  without _ := .without
  shrinks := id

/-- Nobody else changes the cloud. -/
def IsQuiet (others : Cloud → Cloud → Prop) : Prop := ∀ {c d}, others c d → d = c

/-- Someone removed what is at these spots, while others did what they may. -/
def Leaves (others : Cloud → Cloud → Prop) (c : Cloud) (gone : Set Spot) (d : Cloud) : Prop :=
  others (c.without gone) d

section

variable {others : Cloud → Cloud → Prop} (ho : IsErosion others) {c d e : Cloud}
variable {gone more : Set Spot} {kind : Kind} {place : Place}

include ho

theorem Leaves.shrinks (h : Leaves others c gone d) : c.Shrinks d :=
  Cloud.shrinks_without.trans (ho.shrinks h)

theorem Leaves.absent (h : Leaves others c gone d) (hmem : (kind, place) ∈ gone) :
    d.objects kind place = none :=
  (ho.shrinks h).absent (Cloud.without_of_mem hmem)

theorem Leaves.trans (h : Leaves others c gone d) (h' : Leaves others d more e) :
    Leaves others c (gone ∪ more) e := by
  have hmore : others ((c.without gone).without more) (d.without more) := ho.without more h
  rw [Cloud.without_union] at hmore
  exact ho.trans hmore h'

/-- What others removed may count as removed. -/
theorem Leaves.of_absent (h : others c d)
    (habsent : ∀ kind place, (kind, place) ∈ gone → d.objects kind place = none) :
    Leaves others c gone d := by
  have hwithout := ho.without gone h
  rw [Cloud.without_of_absent habsent] at hwithout
  exact hwithout

theorem Leaves.of_others (h : others c d) : Leaves others c ∅ d :=
  .of_absent ho h nofun

theorem Leaves.widen (h : Leaves others c gone d) (hsub : gone ⊆ more)
    (habsent : ∀ kind place, (kind, place) ∈ more → d.objects kind place = none) :
    Leaves others c more d := by
  have hunion := Leaves.trans ho h (.of_absent ho (ho.refl d) habsent)
  rwa [Set.union_eq_self_of_subset_left hsub] at hunion

theorem Leaves.since (h : Leaves others d gone e) (hbefore : others c d) : Leaves others c gone e :=
  ho.trans (ho.without gone hbefore) h

theorem Leaves.then (h : Leaves others c gone d) (h' : others d e) : Leaves others c gone e :=
  ho.trans h h'

omit ho in
theorem Leaves.congr (h : Leaves others c gone d)
    (hiff : ∀ kind place, c.objects kind place ≠ none →
      ((kind, place) ∈ gone ↔ (kind, place) ∈ more)) : Leaves others c more d := by
  rw [Leaves, ← Cloud.without_congr hiff]
  exact h

end

/-! ## Answers -/

def Fault.SaysNotFound (fault : Fault) : Prop :=
  ∃ response, fault = .response response ∧ response.category = .notFound

/-- A response with one of the codes for what is in use. -/
def Fault.SaysInUse (fault : Fault) : Prop :=
  ∃ response code, fault = .response response ∧ response.category ≠ .notFound ∧
    response.code = some code ∧ code ∈ inUseCodes

namespace Cloud

def Refers (c : Cloud) (place set : Place) : Prop :=
  ∃ machine, c.objects .virtualMachine place = some machine ∧ machine.HasSet set

/-- The links name the machines in the set, and no others. -/
def ListsMachines (c : Cloud) (set : Place) (links : Option (List (Option Link))) : Prop :=
  (∀ item ∈ links.getD [], ∃ link place, item = some link ∧ Names link.id place ∧
    c.Refers place set) ∧
  ∀ place, c.Refers place set → ∃ link, some link ∈ links.getD [] ∧ Names link.id place

/-- How the cloud displays an object that it stores. A set shows the machines that it has now. -/
def Displays (c : Cloud) (place : Place) : (kind : Kind) → (stored shown : kind.Model) → Prop
  | .availabilitySet, stored, shown =>
      shown = { stored with machines := shown.machines } ∧ c.ListsMachines place shown.machines
  | _, stored, shown => shown = stored

def Shows (c : Cloud) (kind : Kind) (place : Place) (shown : kind.Model) : Prop :=
  ∃ stored, c.objects kind place = some stored ∧ c.Displays place kind stored shown

def Gets (c : Cloud) (kind : Kind) (place : Place) : Except Fault (Option kind.Model) → Prop
  | .ok found => ∃ object, found = some object ∧ c.Shows kind place object
  | .error fault => fault.SaysNotFound ∧ c.objects kind place = none

/-- All that the group holds of the kind. A group without anything may be gone itself. -/
def Lists (c : Cloud) (kind : Kind) (group : String) (listing : Listing kind.Model) : Prop :=
  (listing.failure = none ∧
    (∀ item ∈ listing.items, ∃ name object, item = some object ∧
      c.Shows kind ⟨group, name⟩ object) ∧
    ∀ name, c.objects kind ⟨group, name⟩ ≠ none →
      ∃ object, some object ∈ listing.items ∧ c.Shows kind ⟨group, name⟩ object) ∨
  ((∃ fault, listing = ⟨[], some fault⟩ ∧ fault.SaysNotFound) ∧
    ∀ kind name, c.objects kind ⟨group, name⟩ = none)

/-- The provider refuses to delete the network that is there. -/
def Blocks (c : Cloud) (kind : Kind) (place : Place) : Prop :=
  kind = .virtualNetwork ∧ place ∈ c.inUse

/-- A delete removes at once. It fails if there is nothing to remove, or if a network is in use. -/
def Deletes {α : Type} (c : Cloud) (kind : Kind) (group : String) (name : Option String)
    (after : Cloud) : Except Fault α → Prop
  | .ok _ => ∃ n, name = some n ∧ c.objects kind ⟨group, n⟩ ≠ none ∧
      ¬ c.Blocks kind ⟨group, n⟩ ∧ after = c.without {(kind, ⟨group, n⟩)}
  | .error fault => after = c ∧
      ((fault.SaysNotFound ∧ ∀ n, name = some n → c.objects kind ⟨group, n⟩ = none) ∨
        (fault.SaysInUse ∧ ∃ n, name = some n ∧ c.objects kind ⟨group, n⟩ ≠ none ∧
          c.Blocks kind ⟨group, n⟩))

/-- The reply that the cloud gives to a request, and the cloud after it. A handle is done at once.
The listing of a group's members may say anything, since nothing is decided by it. -/
def Answers (c after : Cloud) : (request : Request) → request.Reply → Prop
  | .get kind group name, reply => after = c ∧ c.Gets kind ⟨group, name⟩ reply
  | .list kind group, listing => after = c ∧ c.Lists kind group listing
  | .beginDelete kind group name, reply => c.Deletes kind group name after reply
  | .delete kind group name, reply => c.Deletes kind group name after reply
  | .members _, _ => after = c
  | .beginDeleteGroup group, _ => after = c.without {spot | spot.2.group = group}
  | .isDone _, reply => after = c ∧ reply = .ok true
  | .status _, reply => after = c ∧ reply = .ok (some "Succeeded")

end Cloud

/-- The provider answers from the cloud that its world stands for, once others had their turn. -/
def Provider.Serves {W : Type} (provider : Provider Rat W) (others : Cloud → Cloud → Prop)
    (cloudOf : W → Cloud) : Prop :=
  ∀ request world, ∃ found, others (cloudOf world) found ∧
    found.Answers (cloudOf (provider.answer request world).2.2) request
      (provider.answer request world).1 ∧
    0 ≤ (provider.answer request world).2.1

end Reclaim
