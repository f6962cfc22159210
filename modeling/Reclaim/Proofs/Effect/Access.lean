import Reclaim.Proofs.Effect.Cloud
import Reclaim.Proofs.Limits
import Mathlib.Algebra.Order.Ring.Rat

/-!
# What requests do to a cloud

Each way to ask the provider, seen from the cloud: what it finds, what it removes, and that what is
gone already is no fault.
-/

namespace Reclaim

open Reclaim.Action

variable {W : Type} {provider : Provider Rat W} {others : Cloud → Cloud → Prop}
variable {cloudOf : W → Cloud} {limit : Nat} {session : Session Rat W}

/-! ## Faults -/

theorem orGone_of_notFound {α : Type} {fault : Fault} (h : fault.SaysNotFound) {verb : String}
    {subject : Subject} {whenGone : Action Rat W α} :
    Access.orGone fault verb subject whenGone = whenGone := by
  obtain ⟨response, rfl, hcategory⟩ := h
  rw [Access.orGone, Fault.unlessGone_eq_none.mpr ⟨response, hcategory, rfl⟩]

theorem orGone_of_inUse {α : Type} {fault : Fault} (h : fault.SaysInUse) {verb : String}
    {subject : Subject} {whenGone : Action Rat W α} :
    ∃ report, Access.orGone fault verb subject whenGone = raise (.inUse report) := by
  obtain ⟨response, code, rfl, hcategory, hcode, hmem⟩ := h
  have hcontains : inUseCodes.contains code = true := List.contains_iff_mem.mpr hmem
  exact ⟨_, by rw [Access.orGone, Fault.unlessGone, if_neg hcategory, Subject.report, hcode,
    Option.any_some, if_pos hcontains]⟩

theorem orGone_effect {setting : Setting Rat W} {fault : Fault} {subject : Subject} {text : String}
    {post : Except Stop (Option Handle) → Session Rat W → Prop}
    (hfault : fault.SaysNotFound ∧ (∀ after, after.world = session.world → post (.ok none) after) ∨
      fault.SaysInUse ∧ ∀ report, post (.error (.raised (.inUse report))) session) :
    Ends setting session (Access.orGone fault "delete" subject do
      record (.noted .debug text)
      return none) fun _ outcome after => post outcome after := by
  rcases hfault with ⟨hnotFound, hgone⟩ | ⟨hinUse, hrefused⟩
  · rw [orGone_of_notFound hnotFound]
    exact ⟨[_], Array.toList_push .., hgone _ rfl⟩
  · obtain ⟨report, hreport⟩ := orGone_of_inUse hinUse
    rw [hreport]
    exact Ends.stop (hrefused report)

/-! ## The log -/

theorem record_effect {setting : Setting Rat W} {event : Event Rat} :
    Returns setting session (record event) fun events _ after =>
      events = [event] ∧ after.world = session.world ∧ after.clock = session.clock :=
  Returns.record ⟨rfl, rfl, rfl⟩

theorem ofExcept_effect {setting : Setting Rat W} {α : Type} {result : Except Fault α} {a : α}
    (h : result = .ok a) :
    Returns setting session (ofExcept result) fun events b after =>
      events = [] ∧ a = b ∧ session = after := by
  rw [h]
  exact Returns.pure ⟨rfl, rfl, rfl⟩

theorem log_effect {setting : Setting Rat W} {channel : Log.Channel} {event : String}
    {fields : Log.Fields} :
    Returns setting session (log channel event fields) fun events _ after =>
      events = [.logged ⟨channel, event, fields, none⟩] ∧ after.world = session.world ∧
        after.clock = session.clock :=
  record_effect

theorem Action.Returns.fetchingOnly (kinds : List Kind) {α : Type}
    {setting : Setting Rat W} {action : Action Rat W α}
    {post : List (Event Rat) → α → Session Rat W → Prop}
    (h : Returns setting session action post)
    (hkeeps : Always (Limits kinds fun _ _ => True) [] action) :
    Returns setting session action fun events a after =>
      post events a after ∧ ∀ kind, kind ∉ kinds → NoneFetched events kind := by
  refine h.and (Ends.mono (hkeeps setting session) ?_)
  rintro events outcome after ⟨hobeys, -⟩ kind hkind
  exact noneFetched_of_limits hobeys hkind

/-! ## Requests -/

/-- What a read of the place found, and the event that shows it. -/
def Finds (c : Cloud) (kind : Kind) (place : Place) (events : List (Event Rat)) :
    Option kind.View → Prop
  | none => c.objects kind place = none ∧
      ∃ fault, events = [.asked (.get kind place.group place.name) (.error fault)]
  | some view => ∃ object, c.Shows kind place object ∧ kind.view (some object) = .ok view ∧
      events = [.asked (.get kind place.group place.name) (.ok (some object))]

section

variable (hs : provider.Serves others cloudOf)

include hs

theorem ask_effect (request : Request) :
    Returns ⟨provider, limit⟩ session (ask request) fun events reply after =>
      events = [.asked request reply] ∧ session.clock ≤ after.clock ∧
        ∃ found, others (cloudOf session.world) found ∧
          found.Answers (cloudOf after.world) request reply := by
  obtain ⟨found, hothers, hanswers, helapsed⟩ := hs request session.world
  refine Ends.ask fun reply elapsed world hanswer => ⟨reply, rfl, rfl, ?_, found, hothers, ?_⟩
  · rw [hanswer] at helapsed
    exact le_add_of_nonneg_right helapsed
  · rw [hanswer] at hanswers
    exact hanswers

theorem get_effect (kind : Kind) (place : Place)
    (hview : ∀ found object, others (cloudOf session.world) found → found.Shows kind place object →
      ∃ view, kind.view (some object) = .ok view) :
    Returns ⟨provider, limit⟩ session (Access.get kind place.group place.name)
      fun events found after => others (cloudOf session.world) (cloudOf after.world) ∧
        Finds (cloudOf after.world) kind place events found := by
  unfold Access.get
  refine (ask_effect hs _).bind ?_
  rintro events reply after ⟨rfl, -, found, hothers, hafter, hgets⟩
  rw [← hafter] at hothers hgets
  cases reply with
  | ok object =>
    obtain ⟨object, rfl, hshows⟩ := hgets
    obtain ⟨view, hview⟩ := hview _ object hothers hshows
    dsimp only
    rw [hview]
    exact Returns.pure ⟨hothers, object, hshows, hview, rfl⟩
  | error fault =>
    obtain ⟨hnotFound, habsent⟩ := hgets
    dsimp only
    rw [orGone_of_notFound hnotFound]
    exact Returns.pure ⟨hothers, habsent, fault, rfl⟩

variable (ho : IsErosion others)

include ho

omit hs in
theorem blocks_iff {c d : Cloud} (h : others c d) {kind : Kind} {place : Place} :
    d.Blocks kind place ↔ c.Blocks kind place := by
  rw [Cloud.Blocks, Cloud.Blocks, (ho.shrinks h).inUse]

omit hs in
theorem deletes_effect {α : Type} {c found after : Cloud} (h : others c found) {kind : Kind}
    {place : Place} {reply : Except Fault α}
    (hdeletes : found.Deletes kind place.group (some place.name) after reply) :
    match reply with
    | .ok _ => Leaves others c {spot | spot = (kind, place) ∧ ¬ c.Blocks kind place} after
    | .error fault =>
      fault.SaysNotFound ∧
          Leaves others c {spot | spot = (kind, place) ∧ ¬ c.Blocks kind place} after ∨
        fault.SaysInUse ∧ c.Blocks kind place ∧ others c after := by
  cases reply with
  | ok a =>
    obtain ⟨_, ⟨⟩, -, hfree, rfl⟩ := hdeletes
    rw [blocks_iff ho h] at hfree
    have hset : {spot : Spot | spot = (kind, place) ∧ ¬ c.Blocks kind place} = {(kind, place)} := by
      ext spot
      simpa using fun _ => hfree
    dsimp only
    rw [hset]
    exact ho.without _ h
  | error fault =>
    obtain ⟨rfl, ⟨hnotFound, habsent⟩ | ⟨hinUse, _, ⟨⟩, -, hblocks⟩⟩ := hdeletes
    · refine .inl ⟨hnotFound, .of_absent ho h ?_⟩
      rintro _ _ ⟨⟨⟩, -⟩
      exact habsent _ rfl
    · exact .inr ⟨hinUse, (blocks_iff ho h).mp hblocks, h⟩

omit hs ho in
/-- How a delete at the place may end: with the resource gone, or refused for a network in use. -/
def DeleteEnds (others : Cloud → Cloud → Prop) (c : Cloud) (kind : Kind) (place : Place)
    (outcome : Except Stop (Option Handle)) (after : Cloud) : Prop :=
  (∃ handle, outcome = .ok handle ∧
    Leaves others c {spot | spot = (kind, place) ∧ ¬ c.Blocks kind place} after) ∨
  ∃ report, outcome = .error (.raised (.inUse report)) ∧ c.Blocks kind place ∧ others c after

theorem delete_effect (kind : Kind) (place : Place) :
    Ends ⟨provider, limit⟩ session (Access.delete kind place.group (some place.name))
      fun _ outcome after =>
        DeleteEnds others (cloudOf session.world) kind place outcome (cloudOf after.world) := by
  have hask : ∀ {request : Request}, Ends ⟨provider, limit⟩ session (ask request)
      fun _ outcome after => ∃ reply, outcome = .ok reply ∧
        ∃ found, others (cloudOf session.world) found ∧
          found.Answers (cloudOf after.world) request reply :=
    Ends.mono (ask_effect hs _) fun _ _ _ ⟨reply, hreply, _, _, hfound⟩ => ⟨reply, hreply, hfound⟩
  have hfailed : ∀ {after : Session Rat W} {fault : Fault} {subject : Subject} {text : String},
      (fault.SaysNotFound ∧ Leaves others (cloudOf session.world)
          {spot | spot = (kind, place) ∧ ¬ (cloudOf session.world).Blocks kind place}
          (cloudOf after.world) ∨
        fault.SaysInUse ∧ (cloudOf session.world).Blocks kind place ∧
          others (cloudOf session.world) (cloudOf after.world)) →
      Ends ⟨provider, limit⟩ after (Access.orGone fault "delete" subject do
          record (.noted .debug text)
          return none) fun _ outcome final =>
        DeleteEnds others (cloudOf session.world) kind place outcome (cloudOf final.world) := by
    intro after fault subject text heffect
    refine orGone_effect (heffect.imp ?_ ?_)
    · rintro ⟨hnotFound, hleaves⟩
      exact ⟨hnotFound, fun final hworld => .inl ⟨none, rfl, hworld ▸ hleaves⟩⟩
    · rintro ⟨hinUse, hblocks, hothers⟩
      exact ⟨hinUse, fun report => .inr ⟨report, rfl, hblocks, hothers⟩⟩
  -- Whether the delete is over at once makes no difference here.
  apply Ends.ofSetting
  split
  · refine Ends.bind hask ?_ (by rintro _ _ _ ⟨_, ⟨⟩, -⟩)
    rintro _ reply after ⟨_, ⟨⟩, found, hothers, hdeletes⟩
    have heffect := deletes_effect ho hothers hdeletes
    cases reply with
    | ok _ => exact Ends.pure (.inl ⟨none, rfl, heffect⟩)
    | error fault => exact hfailed heffect
  · refine Ends.bind hask ?_ (by rintro _ _ _ ⟨_, ⟨⟩, -⟩)
    rintro _ reply after ⟨_, ⟨⟩, found, hothers, hdeletes⟩
    have heffect := deletes_effect ho hothers hdeletes
    cases reply with
    | ok handle => exact Ends.pure (.inl ⟨handle, rfl, heffect⟩)
    | error fault => exact hfailed heffect

theorem delete_returns (kind : Kind) (place : Place) (hkind : kind ≠ .virtualNetwork) :
    Returns ⟨provider, limit⟩ session (Access.delete kind place.group (some place.name))
      fun _ _ after =>
        Leaves others (cloudOf session.world) {(kind, place)} (cloudOf after.world) := by
  refine Ends.mono (delete_effect hs ho kind place) ?_
  rintro events outcome after (⟨handle, rfl, hleaves⟩ | ⟨_, -, hblocks, -⟩)
  · refine ⟨handle, rfl, hleaves.congr fun other at' _ => ?_⟩
    simp [Cloud.Blocks, hkind]
  · exact absurd hblocks.1 hkind

omit ho in
theorem list_effect {kind : Kind} {group : String}
    (hview : ∀ object, ∃ view, kind.view (some object) = .ok view) :
    Returns ⟨provider, limit⟩ session (Access.list kind group) fun _ views after =>
      others (cloudOf session.world) (cloudOf after.world) ∧
        (∀ view ∈ views, ∃ name object, (cloudOf after.world).Shows kind ⟨group, name⟩ object ∧
          kind.view (some object) = .ok view) ∧
        ∀ name, (cloudOf after.world).objects kind ⟨group, name⟩ ≠ none → ∃ view ∈ views,
          ∃ object, (cloudOf after.world).Shows kind ⟨group, name⟩ object ∧
            kind.view (some object) = .ok view := by
  unfold Access.list
  refine (ask_effect hs _).bind ?_
  rintro events listing after ⟨-, -, found, hothers, hafter, hlists⟩
  rw [← hafter] at hothers hlists
  obtain ⟨hfailure, hitems, hcomplete⟩ | ⟨⟨fault, rfl, hnotFound⟩, hempty⟩ := hlists
  · obtain ⟨views, hviews⟩ : ∃ views, listing.items.mapM kind.view = .ok views := by
      refine View.exists_mapM fun item hitem => ?_
      obtain ⟨name, object, rfl, -⟩ := hitems item hitem
      exact hview object
    have hread : Access.readListing kind.view listing = .ok views := by
      rw [Access.readListing, hviews, hfailure]
      rfl
    rw [hread]
    refine Returns.pure ⟨hothers, fun view hmem => ?_, fun name hname => ?_⟩
    · obtain ⟨item, hitem, hof⟩ := View.exists_of_mem (View.forall₂_of_mapM hviews) hmem
      obtain ⟨name, object, rfl, hshows⟩ := hitems item hitem
      exact ⟨name, object, hshows, hof⟩
    · obtain ⟨object, hmem, hshows⟩ := hcomplete name hname
      obtain ⟨view, hviewed, hof⟩ := View.exists_of_mem_left (View.forall₂_of_mapM hviews) hmem
      exact ⟨view, hviewed, object, hshows, hof⟩
  · have hread : Access.readListing kind.view ⟨[], some fault⟩ = .error fault := rfl
    rw [hread]
    dsimp only
    rw [orGone_of_notFound hnotFound]
    exact Returns.pure ⟨hothers, fun _ hmem => absurd hmem List.not_mem_nil,
      fun name hname => absurd (hempty kind name) hname⟩

end

end Reclaim
