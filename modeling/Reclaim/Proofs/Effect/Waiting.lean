import Reclaim.Proofs.Cascade.Ending
import Reclaim.Proofs.Effect.Access
import Reclaim.Proofs.Time.Requests

/-!
# Waiting does nothing to a cloud

A delete is confirmed at once, and looking for what is gone succeeds at once. Whether a resource is
still listed may take all the time there is, which is bounded.
-/

namespace Reclaim

open Reclaim.Action

variable {W : Type} {provider : Provider Rat W} {others : Cloud → Cloud → Prop}
variable {cloudOf : W → Cloud} {limit : Nat} {session : Session Rat W}
variable (hs : provider.Serves others cloudOf) (ho : IsErosion others)

include hs ho

omit hs ho in
theorem reportsFailure_succeeded : Deletion.reportsFailure "Succeeded" = false := by
  decide +kernel

omit hs ho in
theorem await_at_once {p : Patience Rat} {condition : Action Rat W Bool} (hlimit : 0 < limit)
    (h : ∀ between : Session Rat W, between.world = session.world →
      Returns ⟨provider, limit⟩ between condition fun _ done after =>
        done = true ∧ others (cloudOf session.world) (cloudOf after.world)) :
    Returns ⟨provider, limit⟩ session (p.await condition) fun _ done after =>
      done = true ∧ others (cloudOf session.world) (cloudOf after.world) := by
  obtain ⟨n, rfl⟩ := Nat.exists_eq_succ_of_ne_zero hlimit.ne'
  suffices hpoll : Returns ⟨provider, n + 1⟩ session
      (Patience.poll (session.clock + p.timeout) p.period condition (n + 1)) fun _ done after =>
        done = true ∧ others (cloudOf session.world) (cloudOf after.world) from
    Ends.of_run_eq hpoll rfl
  rw [Patience.poll]
  apply record_effect.bind
  rintro _ _ between ⟨-, hworld, -⟩
  refine (h between hworld).bind ?_
  rintro _ done after ⟨rfl, hothers⟩
  exact Returns.pure ⟨rfl, hothers⟩

theorem isConfirmed_effect {t : Teardown Rat} {handle : Option Handle} (hlimit : 0 < limit) :
    Returns ⟨provider, limit⟩ session (t.isConfirmed handle) fun _ verdict after =>
      verdict = true ∧ others (cloudOf session.world) (cloudOf after.world) := by
  cases handle with
  | none => exact Returns.pure ⟨rfl, ho.refl _⟩
  | some handle =>
    have hdone : ∀ between : Session Rat W, between.world = session.world →
        Returns ⟨provider, limit⟩ between (Deletion.isDone handle) fun _ done after =>
          done = true ∧ others (cloudOf session.world) (cloudOf after.world) := by
      intro between hworld
      refine (ask_effect hs _).bind ?_
      rintro _ reply after ⟨-, -, found, hothers, hafter, rfl⟩
      rw [hworld, ← hafter] at hothers
      exact Returns.pure ⟨rfl, hothers⟩
    refine (await_at_once hlimit hdone).bind ?_
    rintro _ _ polled ⟨rfl, hpolled⟩
    have hstatus : Returns ⟨provider, limit⟩ polled (Deletion.status handle) fun _ status after =>
        status = "Succeeded" ∧ others (cloudOf polled.world) (cloudOf after.world) := by
      refine (ask_effect hs _).bind ?_
      rintro _ reply after ⟨-, -, found, hothers, hafter, rfl⟩
      rw [← hafter] at hothers
      exact Returns.pure ⟨rfl, hothers⟩
    apply hstatus.bind
    rintro _ _ after ⟨rfl, hothers⟩
    rw [if_neg (by rw [reportsFailure_succeeded]; nofun)]
    exact Returns.pure ⟨rfl, ho.trans hpolled hothers⟩

theorem delete_confirmed {β : Type} {t : Teardown Rat} (hlimit : 0 < limit) (kind : Kind)
    (place : Place) (hkind : kind ≠ .virtualNetwork) {next : Bool → Action Rat W β}
    {post : List (Event Rat) → β → Session Rat W → Prop}
    (hnext : ∀ (events : List (Event Rat)) (after : Session Rat W),
      Leaves others (cloudOf session.world) {(kind, place)} (cloudOf after.world) →
        (∀ k, NoneFetched events k) → Returns ⟨provider, limit⟩ after (next true)
          fun more b final => post (events ++ more) b final) :
    Returns ⟨provider, limit⟩ session (Access.delete kind place.group (some place.name) >>=
      fun handle => t.isConfirmed handle >>= next) post := by
  refine ((delete_returns hs ho kind place hkind).fetchingOnly []
    (Access.delete_keeps trivial)).bind ?_
  rintro deleting handle deleted ⟨hdeleted, hdeleting⟩
  refine ((isConfirmed_effect hs ho hlimit).fetchingOnly []
    (isConfirmed_keeps limits_allowsFollowing)).bind ?_
  rintro following _ after ⟨⟨rfl, hconfirmed⟩, hfollowing⟩
  refine (hnext (deleting ++ following) after (hdeleted.then ho hconfirmed) fun k => ?_).mono ?_
  · exact (hdeleting k List.not_mem_nil).append (hfollowing k List.not_mem_nil)
  · intro more b final hpost
    rwa [List.append_assoc] at hpost

omit hs ho in
theorem escalation_at_once {e : Escalation Rat} {condition : Action Rat W Bool} (hlimit : 0 < limit)
    (h : ∀ between : Session Rat W, between.world = session.world →
      Returns ⟨provider, limit⟩ between condition fun _ done after =>
        done = true ∧ others (cloudOf session.world) (cloudOf after.world)) :
    Returns ⟨provider, limit⟩ session (e.await condition) fun _ done after =>
      done = true ∧ others (cloudOf session.world) (cloudOf after.world) := by
  obtain ⟨n, rfl⟩ := Nat.exists_eq_succ_of_ne_zero hlimit.ne'
  suffices hretry : Returns ⟨provider, n + 1⟩ session
      (Escalation.retry (session.clock + e.timeout) e.ceiling e.period condition (n + 1))
      fun _ done after => done = true ∧ others (cloudOf session.world) (cloudOf after.world) from
    Ends.of_run_eq hretry rfl
  rw [Escalation.retry]
  apply record_effect.bind
  rintro _ _ between ⟨-, hworld, -⟩
  refine (h between hworld).bind ?_
  rintro _ done after ⟨rfl, hothers⟩
  exact Returns.pure ⟨rfl, hothers⟩

theorem hasLeft_effect {t : Teardown Rat} {id : ResourceId} (hp : t.departure.IsPositive)
    (hlimit : t.departure.polls ≤ limit) :
    Returns ⟨provider, limit⟩ session (t.hasLeft id) fun _ _ after =>
      others (cloudOf session.world) (cloudOf after.world) := by
  -- Only listings are asked for, so whatever happens to the cloud is the work of others.
  let looking : Scene W := {
    setting := ⟨provider, limit⟩
    asks := fun request => ∃ group, request = .members group
    holds := fun world => others (cloudOf session.world) (cloudOf world)
    elapsed_nonneg := fun {request world} _ _ => by
      obtain ⟨found, -, -, helapsed⟩ := hs request world
      exact helapsed
    holds_answer := fun {request world} hasks hholds => by
      obtain ⟨found, hothers, hanswers, -⟩ := hs request world
      obtain ⟨group, rfl⟩ := hasks
      exact ho.trans hholds (hanswers ▸ hothers) }
  have hsettles : looking.Settles t.departure.span (t.hasLeft id) :=
    looking.hasLeft_settles (fun group => ⟨group, rfl⟩) hp hlimit
  exact (hsettles.returns checked_neverRaises (ho.refl _)).mono fun _ _ _ h => h.2

end Reclaim
