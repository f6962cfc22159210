import Reclaim.Proofs.Time.Trackers

/-!
# Requests, checks and walks settle

Requests take no time of their own. Following a delete takes the span of its tracker, and so does a
look for what left its group.
-/

namespace Reclaim.Scene

open Reclaim.Action

variable {W α : Type} {scene : Scene W} {budget : Rat}

/-- A result leaves over what it is worth. -/
def leftover (worth : α → Rat) : Except Stop α → Rat
  | .ok a => -worth a
  | .error _ => 0

/-! ## Requests -/

theorem orGone_eq (fault : Fault) (verb : String) (subject : Subject) (whenGone : Action Rat W α) :
    Access.orGone fault verb subject whenGone = whenGone ∨
      ∃ other, Access.orGone fault verb subject whenGone = raise other := by
  unfold Access.orGone
  split
  · exact .inl rfl
  · exact .inr ⟨_, rfl⟩

/-- An action that asks and reads the reply. What the reply is worth is left over. -/
theorem asking_settlesFor {request : Request} (hasks : scene.asks request)
    {next : request.Reply → Action Rat W α} {worth : α → Rat}
    (hnext : ∀ reply, (∃ a, next reply = pure a ∧ worth a ≤ scene.credit (.asked request reply)) ∨
      ∃ fault, next reply = raise fault) :
    scene.SettlesFor (leftover worth) (ask request >>= next) := by
  intro session hholds
  have hask : scene.SettlesFor (leftover fun reply => scene.credit (.asked request reply))
      (ask request) := .ask hasks fun _ => le_rfl
  refine Ends.bind (hask session hholds) ?_ ?_
  · rintro events reply after hasked
    have hcredit := scene.credit_nonneg (.asked request reply)
    obtain ⟨a, hpure, hworth⟩ | ⟨fault, hraise⟩ := hnext reply
    · rw [hpure]
      exact Ends.pure (hasked.last concludes_ok (neg_le_neg hworth))
    · rw [hraise]
      exact Ends.stop (hasked.last concludes_raised (neg_nonpos.mpr hcredit))
  · rintro events reason after hasked
    exact hasked.error

theorem get_settlesFor {kind : Kind} {group name : String}
    (hasks : scene.asks (.get kind group name)) {worth : Option kind.View → Rat}
    (hnone : worth none ≤ 0) (hworth : ∀ object view, kind.view object = .ok view →
      worth (some view) ≤ scene.credit (.asked (.get kind group name) (.ok object))) :
    scene.SettlesFor (leftover worth) (Access.get kind group name) := by
  refine asking_settlesFor hasks fun reply => ?_
  cases reply with
  | ok object =>
    dsimp only
    cases hview : kind.view object with
    | ok view => exact .inl ⟨some view, rfl, hworth object view hview⟩
    | error fault => exact .inr ⟨fault, rfl⟩
  | error fault =>
    refine (orGone_eq fault _ _ (pure none)).imp (fun hgone => ⟨none, hgone, ?_⟩) id
    exact hnone.trans (scene.credit_nonneg _)

theorem list_settlesFor {kind : Kind} {group : String} (hasks : scene.asks (.list kind group))
    {worth : List kind.View → Rat} (hnone : worth [] ≤ 0)
    (hworth : ∀ listing views, Access.readListing kind.view listing = .ok views →
      worth views ≤ scene.credit (.asked (.list kind group) listing)) :
    scene.SettlesFor (leftover worth) (Access.list kind group) := by
  refine asking_settlesFor hasks fun listing => ?_
  cases hread : Access.readListing kind.view listing with
  | ok views => exact .inl ⟨views, rfl, hworth listing views hread⟩
  | error fault =>
    refine (orGone_eq fault _ _ (pure [])).imp (fun hgone => ⟨[], hgone, ?_⟩) id
    exact hnone.trans (scene.credit_nonneg _)

theorem SettlesFor.free {action : Action Rat W α}
    (h : scene.SettlesFor (leftover fun _ => 0) action) : scene.Settles 0 action :=
  h.mono fun outcome => by cases outcome <;> simp [leftover]

theorem get_settles {kind : Kind} {group name : String}
    (hasks : scene.asks (.get kind group name)) : scene.Settles 0 (Access.get kind group name) :=
  (get_settlesFor hasks le_rfl fun _ _ _ => scene.credit_nonneg _).free

theorem get_shows {setting : Setting Rat W} {session : Session Rat W} {kind : Kind}
    {group name : String} :
    Ends setting session (Access.get kind group name) fun events outcome _ =>
      ∀ view, outcome = .ok (some view) → ∃ object, kind.view object = .ok view ∧
        events = [.asked (.get kind group name) (.ok object)] := by
  have hask : Ends setting session (ask (.get kind group name)) fun events outcome _ =>
      ∀ reply, outcome = .ok reply → events = [.asked (.get kind group name) reply] :=
    Ends.ask fun reply _ _ _ => by rintro _ ⟨⟩; rfl
  refine Ends.bind hask ?_ ?_
  · rintro events reply after hevents
    obtain rfl := hevents reply rfl
    cases reply with
    | ok object =>
      dsimp only
      cases hview : kind.view object with
      | ok view =>
        refine Ends.pure ?_
        rintro _ ⟨⟩
        exact ⟨object, hview, rfl⟩
      | error fault => exact Ends.stop nofun
    | error fault =>
      dsimp only
      rcases orGone_eq fault "get" ⟨kind.label, group, some name⟩ (pure none) with
        hgone | ⟨other, hraise⟩
      · rw [hgone]
        exact Ends.pure nofun
      · rw [hraise]
        exact Ends.stop nofun
  · rintro events reason after -
    nofun

theorem members_settles {group : String} (hasks : scene.asks (.members group)) :
    scene.Settles 0 (Access.members group) := by
  refine (asking_settlesFor hasks fun listing => ?_).free
  cases hread : Access.readListing View.member listing with
  | ok members => exact .inl ⟨some members, rfl, scene.credit_nonneg _⟩
  | error fault =>
    exact (orGone_eq fault _ _ (pure none)).imp
      (fun hgone => ⟨none, hgone, scene.credit_nonneg _⟩) id

theorem delete_settles {kind : Kind} {group : String} {name : Option String}
    (hdelete : scene.asks (.delete kind group name))
    (hbegin : scene.asks (.beginDelete kind group name)) :
    scene.Settles 0 (Access.delete kind group name) := by
  have hfailed : ∀ {fault : Fault} {subject : Subject} {text : String}, scene.Settles 0
      (Access.orGone fault "delete" subject (do
        record (.noted .debug text)
        return (none : Option Handle))) := by
    intro fault subject text
    rcases orGone_eq fault "delete" subject (do
      record (.noted .debug text)
      return (none : Option Handle)) with hgone | ⟨other, hraise⟩
    · rw [hgone]
      exact .before (.record (by simp)) (fun _ => .pure le_rfl) le_rfl
    · rw [hraise]
      exact .raise le_rfl
  apply Settles.ofSetting
  split
  · refine .before (.ask hdelete) (fun reply => ?_) le_rfl
    cases reply with
    | ok _ => exact .pure le_rfl
    | error fault => exact hfailed
  · refine .before (.ask hbegin) (fun reply => ?_) le_rfl
    cases reply with
    | ok handle => exact .pure le_rfl
    | error fault => exact hfailed

/-! ## Checks -/

variable {t : Teardown Rat}

theorem isConfirmed_settles (hdone : ∀ handle, scene.asks (.isDone handle))
    (hstatus : ∀ handle, scene.asks (.status handle)) (hp : t.deletion.IsPositive)
    (hlimit : t.deletion.polls ≤ scene.setting.pollLimit) {handle : Option Handle} :
    scene.Settles t.deletion.span (t.isConfirmed handle) := by
  cases handle with
  | none => exact .pure hp.span_nonneg
  | some handle =>
    have hisDone : scene.Settles 0 (Deletion.isDone handle) :=
      .before (.ask (hdone handle)) (fun _ => .ofExcept le_rfl) le_rfl
    have hword : scene.Settles 0 (Deletion.status handle) :=
      .before (.ask (hstatus handle))
        (fun _ => .before (.ofExcept le_rfl) (fun _ => .pure le_rfl) le_rfl) le_rfl
    have hunconfirmed : ∀ {event : String} {fields : Log.Fields},
        scene.Settles 0 (do log .warning event fields; return false) :=
      .before .log (fun _ => .pure le_rfl) le_rfl
    refine .followed (await_settles hisDone hp hlimit) fun done => ?_
    cases done with
    | false => exact hunconfirmed
    | true =>
      refine .before hword (fun status => ?_) le_rfl
      split
      · exact hunconfirmed
      · exact .pure le_rfl

theorem checked_settles {id : ResourceId} {check : Action Rat W Bool}
    (h : scene.Settles budget check) : scene.Settles budget (Teardown.checked id check) :=
  .rescue h fun _ => .before .log (fun _ => .pure le_rfl) le_rfl

theorem hasLeft_settles (hmembers : ∀ group, scene.asks (.members group))
    (hp : t.departure.IsPositive) (hlimit : t.departure.polls ≤ scene.setting.pollLimit)
    {id : ResourceId} : scene.Settles t.departure.span (t.hasLeft id) := by
  have hlisting : scene.Settles 0 (do return Departure.isAbsent id (← Access.members id.group)) :=
    .before (members_settles (hmembers _)) (fun _ => .pure le_rfl) le_rfl
  refine checked_settles (.followed (await_settles hlisting hp hlimit) fun left => ?_)
  cases left with
  | true => exact .pure le_rfl
  | false => exact .before .log (fun _ => .pure le_rfl) le_rfl

/-! ## One after the other -/

theorem pair_settles {first second : Rat} {β γ : Type} {action : Action Rat W α}
    {other : Action Rat W β} {join : α → β → γ} (h : scene.Settles first action)
    (hother : scene.Settles second other) (hsecond : 0 ≤ second) :
    scene.Settles (first + second) (do
      let a ← action
      let b ← other
      return join a b) :=
  .bind h (fun _ => .followed hother fun _ => .pure le_rfl) hsecond

variable {act : α → Action Rat W Bool} {items : List α}

theorem all_settles (hbudget : 0 ≤ budget) (h : ∀ a, scene.Settles budget (act a)) :
    scene.Settles (items.length * budget) (Teardown.all act items) := by
  induction items with
  | nil => exact .pure (by simp)
  | cons a rest ih =>
    rw [List.length_cons, Nat.cast_succ, add_one_mul, add_comm]
    exact pair_settles (h a) ih (mul_nonneg rest.length.cast_nonneg hbudget)

theorem failing_settles (hbudget : 0 ≤ budget) (h : ∀ a, scene.Settles budget (act a)) :
    scene.Settles (items.length * budget) (Teardown.failing act items) := by
  induction items with
  | nil => exact .pure (by simp)
  | cons a rest ih =>
    rw [List.length_cons, Nat.cast_succ, add_one_mul, add_comm]
    exact pair_settles (h a) ih (mul_nonneg rest.length.cast_nonneg hbudget)

end Reclaim.Scene
