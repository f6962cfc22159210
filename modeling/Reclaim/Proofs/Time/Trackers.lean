import Reclaim.Proofs.Time.Rules
import Reclaim.Teardown
import Mathlib.Data.Rat.Floor

/-!
# Waits come to an end

Each poll but the last one is followed by a sleep, so a wait needs no more polls than there are
periods until its deadline. One tracker sleeps past the deadline by less than a period. The other
one cuts its last sleep short and comes to its end in time.
-/

namespace Reclaim

open Reclaim.Action

variable {W α : Type}

/-! ## Exact fractions -/

namespace Timescale

@[simp] theorem isPositive_rat {x : Rat} : isPositive x = true ↔ 0 < x := by
  simp [isPositive, atMost, seconds]

@[simp] theorem atMost_rat {x y : Rat} : atMost x y = true ↔ x ≤ y := decide_eq_true_iff

@[simp] theorem below_rat {x y : Rat} : below x y = true ↔ x < y := decide_eq_true_iff

@[simp] theorem minus_rat (x y : Rat) : minus x y = x - y := rfl

@[simp] theorem lengthened_rat (x : Rat) : lengthened x = x * (3 / 2) := rfl

@[simp] theorem shorter_rat (x y : Rat) : shorter x y = min x y := by
  rw [shorter, min_def]
  by_cases hlt : y < x
  · rw [if_pos (below_rat.mpr hlt), if_neg hlt.not_ge]
  · rw [if_neg (by simpa using hlt), if_pos (not_lt.mp hlt)]

end Timescale

open Timescale

/-! ## How much patience there is -/

/-- How many polls suffice until the deadline has come: one at the start, and one after each
period. -/
def Patience.polls (p : Patience Rat) : Nat := ⌈p.timeout / p.period⌉₊ + 1

/-- The longest time of a wait. The last sleep may start right before the deadline. -/
def Patience.span (p : Patience Rat) : Rat := p.timeout + p.period

structure Patience.IsPositive (p : Patience Rat) : Prop where
  timeout : 0 < p.timeout
  period : 0 < p.period

def Escalation.patience (e : Escalation Rat) : Patience Rat := ⟨e.timeout, e.period⟩

namespace Patience

variable {p : Patience Rat}

theorem make_eq_ok {timeout period : Rat} (h : make timeout period = .ok p) :
    p = ⟨timeout, period⟩ ∧ p.IsPositive := by
  unfold make at h
  split at h
  next hpositive =>
    obtain ⟨htimeout, hperiod⟩ := Bool.and_eq_true_iff.mp hpositive
    cases h
    exact ⟨rfl, isPositive_rat.mp htimeout, isPositive_rat.mp hperiod⟩
  next => cases h

theorem IsPositive.span_nonneg (hp : p.IsPositive) : 0 ≤ p.span :=
  add_nonneg hp.timeout.le hp.period.le

theorem IsPositive.deadline_le (hp : p.IsPositive) (start : Rat) :
    start + p.timeout ≤ start + (⌈p.timeout / p.period⌉₊ : Nat) * p.period := by
  have hceil := Nat.le_ceil (p.timeout / p.period)
  rw [div_le_iff₀ hp.period] at hceil
  linarith

end Patience

theorem Escalation.checked_eq_ok {e e' : Escalation Rat} (h : e.checked = .ok e') :
    e' = e ∧ e.patience.IsPositive ∧ e.period ≤ e.ceiling := by
  unfold checked at h
  split at h
  next => cases h
  next hpositive =>
    split at h
    next => cases h
    next hceiling =>
      cases h
      rw [Bool.not_eq_true, Bool.not_eq_false', Bool.and_eq_true_iff] at hpositive
      obtain ⟨htimeout, hperiod⟩ := hpositive
      refine ⟨rfl, ⟨isPositive_rat.mp htimeout, isPositive_rat.mp hperiod⟩, ?_⟩
      simpa using hceiling

namespace Scene

variable {scene : Scene W} {condition : Action Rat W Bool} {session : Session Rat W}
variable {limit polls : Nat}

/-! ## Polling -/

/-- With a poll for each period that is left until the deadline, polling comes to an end, less than
a period behind the deadline. -/
theorem poll_settled (hcondition : scene.Settles 0 condition) {deadline period : Rat}
    (hperiod : 0 < period) (hpolls : polls < limit) (hholds : scene.holds session.world)
    (hdeadline : deadline ≤ session.clock + polls * period)
    (hstart : session.clock ≤ deadline + period) :
    Ends scene.setting session (Patience.poll deadline period condition limit)
      fun events outcome after =>
        scene.Settled (deadline + period - session.clock) session events outcome after := by
  induction limit generalizing polls session with
  | zero => exact absurd hpolls (Nat.not_lt_zero _)
  | succ limit ih =>
    have htry : scene.Settles 0 (do record .polled; condition) :=
      Settles.before (.record (by simp)) (fun _ => hcondition) le_rfl
    rw [Patience.poll, ← bind_assoc]
    refine Ends.bind (htry session hholds) ?_ ?_
    · rintro tried done between (htried : scene.Settled 0 session tried (.ok done) between)
      have hforward := htried.forward
      cases done with
      | true => exact htried.return (by linarith)
      | false =>
        apply Ends.ofNow
        split
        next => exact htried.return (by linarith)
        next hlate =>
          have hearly : between.clock < deadline := by simpa using hlate
          -- A poll is left: without one the deadline would have come.
          obtain _ | polls := polls
          · rw [Nat.cast_zero, zero_mul, add_zero] at hdeadline
            linarith
          rw [Nat.cast_succ, add_mul, one_mul] at hdeadline
          refine htried.then ((sleep_settled hperiod.le htried.holds).before ?_)
            (show 0 + (deadline + period - between.clock) ≤ _ by linarith)
          rintro slept _ awake ⟨hslept, hawake⟩
          exact hslept.then (ih (Nat.lt_of_succ_lt_succ hpolls) hslept.holds (by linarith)
            (by linarith)) (by linarith)
    · rintro tried reason between (htried : scene.Settled 0 session tried (.error reason) between)
      exact htried.error.mono (by linarith)

theorem await_settles (hcondition : scene.Settles 0 condition) {p : Patience Rat}
    (hp : p.IsPositive) (hlimit : p.polls ≤ scene.setting.pollLimit) :
    scene.Settles p.span (p.await condition) := by
  intro session hholds
  have hpoll := poll_settled hcondition hp.period hlimit hholds (hp.deadline_le session.clock)
    (by linarith [hp.timeout, hp.period])
  apply Ends.ofNow
  rw [counted_rat, pure_bind]
  apply Ends.ofSetting
  refine Ends.mono hpoll fun _ _ _ hsettled => hsettled.mono ?_
  exact le_of_eq (by rw [Patience.span]; ring)

/-! ## Retrying -/

/-- With a try for each period that is left until the deadline, retrying comes to an end when the
deadline has come. -/
theorem retry_settled (hcondition : scene.Settles 0 condition) {deadline ceiling period : Rat}
    (hperiod : 0 < period) (hceiling : period ≤ ceiling) {interval : Rat}
    (hinterval : period ≤ interval) (hpolls : polls < limit) (hholds : scene.holds session.world)
    (hdeadline : deadline ≤ session.clock + polls * period) (hstart : session.clock ≤ deadline) :
    Ends scene.setting session (Escalation.retry deadline ceiling interval condition limit)
      fun events outcome after =>
        scene.Settled (deadline - session.clock) session events outcome after := by
  induction limit generalizing polls session interval with
  | zero => exact absurd hpolls (Nat.not_lt_zero _)
  | succ limit ih =>
    have htry : scene.Settles 0 (do record .polled; condition) :=
      Settles.before (.record (by simp)) (fun _ => hcondition) le_rfl
    rw [Escalation.retry, ← bind_assoc]
    refine Ends.bind (htry session hholds) ?_ ?_
    · rintro tried done between (htried : scene.Settled 0 session tried (.ok done) between)
      have hforward := htried.forward
      cases done with
      | true => exact htried.return (by linarith)
      | false =>
        apply Ends.ofNow
        simp only [minus_rat, shorter_rat, lengthened_rat, counted_rat, pure_bind]
        split
        next => exact htried.return (by linarith)
        next hlate =>
          have hearly : 0 < deadline - between.clock := by simpa using hlate
          -- A try is left: without one the deadline would have come.
          obtain _ | polls := polls
          · rw [Nat.cast_zero, zero_mul, add_zero] at hdeadline
            linarith
          rw [Nat.cast_succ, add_mul, one_mul] at hdeadline
          have hsleep : 0 ≤ min interval (deadline - between.clock) :=
            le_min (hperiod.le.trans hinterval) hearly.le
          have hcut := min_le_right interval (deadline - between.clock)
          have hlonger : period ≤ min (interval * (3 / 2)) ceiling :=
            le_min (by linarith) hceiling
          refine htried.then ((sleep_settled hsleep htried.holds).before ?_)
            (show 0 + (deadline - between.clock) ≤ _ by linarith)
          rintro slept _ awake ⟨hslept, hawake⟩
          have hleft : deadline ≤ awake.clock + polls * period := by
            rcases min_cases interval (deadline - between.clock) with ⟨hmin, -⟩ | ⟨hmin, -⟩
            · linarith
            · have := mul_nonneg (show (0 : Rat) ≤ polls from polls.cast_nonneg) hperiod.le
              linarith
          exact hslept.then (ih hlonger (Nat.lt_of_succ_lt_succ hpolls) hslept.holds hleft
            (by linarith)) (by linarith)
    · rintro tried reason between (htried : scene.Settled 0 session tried (.error reason) between)
      exact htried.error.mono (by linarith)

theorem escalation_settles (hcondition : scene.Settles 0 condition) {e : Escalation Rat}
    (he : e.patience.IsPositive) (hceiling : e.period ≤ e.ceiling)
    (hlimit : e.patience.polls ≤ scene.setting.pollLimit) :
    scene.Settles e.timeout (e.await condition) := by
  intro session hholds
  have htimeout : 0 < e.timeout := he.timeout
  have hretry := retry_settled hcondition he.period hceiling le_rfl hlimit hholds
    (he.deadline_le session.clock) (show session.clock ≤ session.clock + e.timeout by linarith)
  apply Ends.ofNow
  rw [counted_rat, pure_bind]
  apply Ends.ofSetting
  exact Ends.mono hretry fun _ _ _ hsettled => hsettled.mono (add_sub_cancel_left ..).le

end Scene

end Reclaim
