import Reclaim.Proofs.Cloud.Mention
import Reclaim.Proofs.Text.Letters
import Reclaim.Proofs.Turns.Asking
import Reclaim.Proofs.Waits.Deletion

/-!
# Verdicts on a departure

The listing of a resource's group is read once a period, until it no longer shows the resource or
the deadline has come. What other members it shows, and in which order, does not matter.
-/

namespace Reclaim

open Reclaim.Action

variable {W : Type}

/-! ## Listings -/

/-- The member has the id, up to the case of letters. A member without an id has the empty one. -/
def View.Member.HasId (member : View.Member) (id : ResourceId) : Prop :=
  Text.lower (member.id.getD "") = Text.lower id.text

/-- The group is there and has a member with the id. -/
def ShowsId (found : Option (List View.Member)) (id : ResourceId) : Prop :=
  ∃ members, found = some members ∧ ∃ member ∈ members, member.HasId id

/-- Listings with the same members up to their order, to members with other ids, and to the case of
letters in ids. -/
inductive Alike (id : ResourceId) : List View.Member → List View.Member → Prop
  | reordered {members others : List View.Member} (hperm : members.Perm others) :
      Alike id members others
  | extended {member : View.Member} {members : List View.Member} (hother : ¬ member.HasId id) :
      Alike id members (member :: members)
  | recased {member other : View.Member} {members : List View.Member}
      (hlower : Text.lower (member.id.getD "") = Text.lower (other.id.getD "")) :
      Alike id (member :: members) (other :: members)
  | symm {members others : List View.Member} (h : Alike id members others) : Alike id others members
  | trans {members between others : List View.Member} (h : Alike id members between)
      (h' : Alike id between others) : Alike id members others

theorem ResourceId.text_ne_empty {s : String} {id : ResourceId} (h : parse? s = some id) :
    id.text ≠ "" := by
  intro hempty
  obtain ⟨_, -, rfl⟩ := Option.map_eq_some_iff.mp h
  obtain rfl : s = "" := hempty
  rw [parse?_empty] at h
  cases h

theorem hasId_iff_of_none {member : View.Member} (hmember : member.id = none) {id : ResourceId} :
    member.HasId id ↔ id.text = "" := by
  unfold View.Member.HasId
  rw [hmember]
  refine ⟨fun hlower => ?_, fun hid => by rw [hid]; rfl⟩
  by_contra hid
  exact Text.lower_ne_empty hid hlower.symm

theorem isMember_iff {id : ResourceId} {member : View.Member} :
    Departure.isMember id member = true ↔ member.HasId id :=
  beq_iff_eq

theorem isAbsent_iff {id : ResourceId} {found : Option (List View.Member)} :
    Departure.isAbsent id found = true ↔ ¬ ShowsId found id := by
  cases found with
  | none => simp [Departure.isAbsent, ShowsId]
  | some members => simp [Departure.isAbsent, ShowsId, isMember_iff]

theorem Alike.showsId_iff {id : ResourceId} {members others : List View.Member}
    (h : Alike id members others) : ShowsId (some members) id ↔ ShowsId (some others) id := by
  induction h with
  | reordered hperm => simp [ShowsId, hperm.mem_iff]
  | extended hother => simp [ShowsId, hother]
  | recased hlower => simp [ShowsId, View.Member.HasId, hlower]
  | symm _ ih => exact ih.symm
  | trans _ _ ih ih' => exact ih.trans ih'

/-! ## Polls -/

/-- One look at the listing of the resource's group. -/
inductive LooksFor (setting : Setting Rat W)
    (listing : String → Action Rat W (Option (List View.Member))) (id : ResourceId)
    (session : Session Rat W) :
    List (Event Rat) → Except Stop Bool → Session Rat W → Prop
  | gone {found : Option (List View.Member)} {events : List (Event Rat)} {after : Session Rat W}
      (hlisted : Attempted setting (listing id.group) session events (.ok found) after)
      (hfound : ¬ ShowsId found id) : LooksFor setting listing id session events (.ok true) after
  | there {found : Option (List View.Member)} {events : List (Event Rat)} {after : Session Rat W}
      (hlisted : Attempted setting (listing id.group) session events (.ok found) after)
      (hfound : ShowsId found id) : LooksFor setting listing id session events (.ok false) after
  | raised {reason : Stop} {events : List (Event Rat)} {after : Session Rat W}
      (hlisted : Attempted setting (listing id.group) session events (.error reason) after) :
      LooksFor setting listing id session events (.error reason) after

def stillListedNotice (p : Patience Rat) (id : ResourceId) : Log.Entry :=
  ⟨.warning, "resource_still_in_resource_group",
    [("resource_group", .str id.group), ("name", .str id.name),
      ("timeout", Timescale.shown p.timeout)], none⟩

/-- What follows the looks, given what came of them. -/
inductive Departed (p : Patience Rat) (id : ResourceId) :
    Except Stop Bool → List (Event Rat) → Except Stop Bool → Prop
  | gone : Departed p id (.ok true) [] (.ok true)
  | stillListed : Departed p id (.ok false) [.logged (stillListedNotice p id)] (.ok false)
  | raised {reason : Stop} : Departed p id (.error reason) [] (.error reason)

section

variable {p : Patience Rat} {setting : Setting Rat W} {id : ResourceId}
variable {listing : String → Action Rat W (Option (List View.Member))}

theorem looksFor_evaluates (hlisting : (listing id.group).IsForward setting) :
    EvaluatesAs setting (do return Departure.isAbsent id (← listing id.group))
      (LooksFor setting listing id) := by
  intro session
  rw [← bind_assoc]
  refine Ends.bind hlisting.attempted ?_ ?_
  · rintro events found after ⟨hlisted, hforward⟩
    refine Ends.pure ⟨?_, hforward⟩
    rw [List.append_nil]
    cases habsent : Departure.isAbsent id found with
    | true =>
      rw [isAbsent_iff] at habsent
      exact .gone hlisted habsent
    | false =>
      rw [← Bool.not_eq_true, isAbsent_iff, not_not] at habsent
      exact .there hlisted habsent
  · rintro events reason after ⟨hlisted, hforward⟩
    exact ⟨.raised hlisted, hforward⟩

theorem members_isForward {group : String}
    (helapsed : ∀ world, 0 ≤ (setting.provider.answer (.members group) world).2.1) :
    (Access.members group).IsForward setting := by
  intro session
  have hforward : session.clock ≤
      session.clock + (setting.provider.answer (.members group) session.world).2.1 :=
    le_add_of_nonneg_right (helapsed session.world)
  refine Ends.resume (run_ask ..) (Array.toList_push ..) ?_
  split
  · exact Ends.pure hforward
  · exact orGone_ends (fun _ => Ends.pure hforward) fun _ _ => hforward

end

/-- A departure is looked for until a listing no longer shows the resource or the deadline has
come. Nothing else in a listing has a say. A member without an id shows a resource only if that
has the empty one, as none has that was read from a text. -/
theorem hasLeft_concludes {p : Patience Rat} (htimeout : 0 < p.timeout) (hperiod : 0 < p.period)
    {setting : Setting Rat W} (hlimit : ⌈p.timeout / p.period⌉₊ + 1 ≤ setting.pollLimit)
    {listing : String → Action Rat W (Option (List View.Member))} {id : ResourceId}
    (hlisting : (listing id.group).IsForward setting) (session : Session Rat W) :
    Ends setting session (Departure.hasLeft p listing id) (fun events outcome _ =>
      ∃ looking course answer looked closing,
        Waited p (LooksFor setting listing id) (fun _ _ => p.period) session looking answer looked
            course ∧
          Departed p id answer closing outcome ∧ events = looking ++ closing) ∧
      (∀ members others, Alike id members others →
        Departure.isAbsent id (some members) = Departure.isAbsent id (some others)) ∧
      (∀ member : View.Member, member.id = none → (member.HasId id ↔ id.text = "")) ∧
      ∀ text, ResourceId.parse? text = some id → id.text ≠ "" := by
  refine ⟨Ends.bind (Patience.await_waited ⟨htimeout, hperiod⟩ hlimit
    (looksFor_evaluates hlisting)) ?_ ?_, fun members others halike => ?_,
    fun member hmember => hasId_iff_of_none hmember, fun text => ResourceId.text_ne_empty⟩
  · rintro looking left looked ⟨course, hwaited⟩
    cases left with
    | true => exact Ends.pure ⟨_, _, _, _, _, hwaited, .gone, rfl⟩
    | false => exact Ends.log (Ends.pure ⟨_, _, _, _, _, hwaited, .stillListed, rfl⟩)
  · rintro looking reason looked ⟨course, hwaited⟩
    exact ⟨_, _, _, _, _, hwaited, .raised, (List.append_nil _).symm⟩
  · rw [Bool.eq_iff_iff, isAbsent_iff, isAbsent_iff, halike.showsId_iff]

/-! A disk that its group lists until the deadline has come, in letters of another case, beside a
member without an id. Each listing takes a second. -/

namespace Lingering

def id : ResourceId where
  group := "rg"
  name := "d"
  text := "/subscriptions/s/resourceGroups/rg/providers/p/disks/d"

def unnamed : Model.Member := ⟨⟨none, some "e"⟩, none⟩

def recased : Model.Member :=
  ⟨⟨some "/SUBSCRIPTIONS/s/resourceGroups/RG/providers/p/disks/D", none⟩, none⟩

def provider (members : List Model.Member) : Provider Rat Nat where
  answer
    | .members _, count => (⟨members.map some, none⟩, 1, count + 1)
    | request, count => Canceled.provider.answer request count
  deletesAtOnce := Kind.deletesAtOnce

def patience : Patience Rat := ⟨5, 2⟩

def setting (members : List Model.Member) : Setting Rat Nat := ⟨provider members, 4⟩

def start : Session Rat Nat := ⟨0, 0, #[]⟩

def look (id : ResourceId) : Action Rat Nat Bool := Departure.hasLeft patience Access.members id

theorem still_listed :
    (outcome ((look id).run (setting [unnamed, recased]) start)).toOption = some false ∧
      (left ((look id).run (setting [unnamed, recased]) start)).world = 3 ∧
      Ends (setting [unnamed, recased]) start (look id) fun events outcome _ =>
        ∃ looking course answer looked closing,
          Waited patience (LooksFor (setting [unnamed, recased]) Access.members id)
              (fun _ _ => patience.period) start looking answer looked course ∧
            Departed patience id answer closing outcome ∧ events = looking ++ closing :=
  ⟨by decide +kernel, by decide +kernel,
    (hasLeft_concludes (by decide +kernel) (by decide +kernel) (by decide +kernel)
      (members_isForward fun _ => zero_le_one) start).1⟩

/-- A reference may also be put together by hand, with the empty id. Then a member without an id
keeps the wait going until the deadline, which ends at once where the listing does not have it. -/
theorem member_without_id_counts :
    (outcome ((look ⟨"rg", "d", ""⟩).run (setting []) start)).toOption = some true ∧
      (outcome ((look ⟨"rg", "d", ""⟩).run (setting [unnamed]) start)).toOption = some false ∧
      ∃ member : View.Member, member.id = none ∧
        Departure.isAbsent ⟨"rg", "d", ""⟩ (some []) = true ∧
          Departure.isAbsent ⟨"rg", "d", ""⟩ (some [member]) = false :=
  ⟨by decide +kernel, by decide +kernel, ⟨⟨none, none⟩, ""⟩, rfl, rfl, rfl⟩

end Lingering

end Reclaim
