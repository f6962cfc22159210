import Reclaim.Proofs.Settings.Acceptance
import Reclaim.Proofs.Waits.Course

/-!
# Retrying, call by call

The intervals of a call grow by half up to the ceiling, and a sleep ends with the deadline at the
latest. A call that fails has tried once more then. The next call has a deadline of its own, and
starts with the period again.
-/

namespace Reclaim

open Reclaim.Action Timescale

variable {W α : Type}

/-! ## Intervals -/

namespace Escalation

variable {e : Escalation Rat}

/-- The interval behind the try that `k` others came before. -/
def interval (e : Escalation Rat) (k : Nat) : Rat := min (e.period * (3 / 2) ^ k) e.ceiling

/-- The interval, cut to the time that remains. -/
def pace (e : Escalation Rat) (deadline : Rat) (k : Nat) (now : Rat) : Rat :=
  min (e.interval k) (deadline - now)

theorem interval_zero (hceiling : e.period ≤ e.ceiling) : e.interval 0 = e.period := by
  rw [interval, pow_zero, mul_one, min_eq_left hceiling]

theorem interval_succ (hceiling : 0 ≤ e.ceiling) (k : Nat) :
    e.interval (k + 1) = min (e.interval k * (3 / 2)) e.ceiling := by
  have hgrown : e.period * (3 / 2) ^ (k + 1) = e.period * (3 / 2) ^ k * (3 / 2) := by
    rw [pow_succ, mul_assoc]
  rw [interval, interval, hgrown]
  obtain hbelow | habove := le_total (e.period * (3 / 2) ^ k) e.ceiling
  · rw [min_eq_left hbelow]
  · rw [min_eq_right habove, min_eq_right (by linarith), min_eq_right (by linarith)]

theorem period_le_interval (hperiod : 0 < e.period) (hceiling : e.period ≤ e.ceiling) (k : Nat) :
    e.period ≤ e.interval k := by
  refine le_min ?_ hceiling
  have hgrown : (1 : Rat) ≤ (3 / 2) ^ k := one_le_pow₀ (by norm_num)
  exact le_mul_of_one_le_right hperiod.le hgrown

theorem add_pace_le (deadline now : Rat) (k : Nat) : now + e.pace deadline k now ≤ deadline := by
  have hcut : e.pace deadline k now ≤ deadline - now := min_le_right _ _
  linarith

/-- A sleep that is cut short ends with the deadline, and any other one lasts a period at least. -/
theorem deadline_le_add_pace (hperiod : 0 < e.period) (hceiling : e.period ≤ e.ceiling)
    {deadline now : Rat} {k fewer : Nat}
    (h : deadline ≤ now + e.period + fewer * e.period) :
    deadline ≤ now + e.pace deadline k now + fewer * e.period := by
  have hfewer : 0 ≤ fewer * e.period := mul_nonneg (Nat.cast_nonneg _) hperiod.le
  have hinterval := period_le_interval hperiod hceiling k
  rw [pace]
  obtain ⟨hmin, -⟩ | ⟨hmin, -⟩ := min_cases (e.interval k) (deadline - now) <;>
  · rw [hmin]
    linarith

end Escalation

/-! ## One call -/

/-- The action takes no time. -/
def Action.IsInstant (setting : Setting Rat W) (action : Action Rat W α) : Prop :=
  ∀ session, (left (action.run setting session)).clock = session.clock

/-- How a call of a condition that is retried goes. -/
structure Retried (e : Escalation Rat) (setting : Setting Rat W) (condition : Action Rat W Bool)
    (session : Session Rat W) (events : List (Event Rat)) (answer : Except Stop Bool)
    (after : Session Rat W) (course : Course) : Prop extends
    Waited e.patience (Attempted setting condition) (e.pace (session.clock + e.timeout)) session
      events answer after course where
  inTime : ∀ nap ∈ course.evaluations.zip course.sleeps,
    nap.1.finished + nap.2 ≤ session.clock + e.timeout
  atDeadline : condition.IsInstant setting → answer = .ok false →
    after.clock = session.clock + e.timeout

section

variable {e : Escalation Rat} {setting : Setting Rat W} {condition : Action Rat W Bool}
variable {attempts : Attempts W} {session after : Session Rat W} {events : List (Event Rat)}
variable {course : Course} {answer : Except Stop Bool} {deadline : Rat} {k polls limit : Nat}

theorem Wait.inTime (h : Wait attempts deadline (e.pace deadline) k session events course answer
    after) : ∀ nap ∈ course.evaluations.zip course.sleeps, nap.1.finished + nap.2 ≤ deadline := by
  induction h with
  | last _ _ => exact fun _ hnap => absurd hnap (List.not_mem_nil)
  | @again k _ between _ _ _ _ _ _ _ _ ih =>
    intro nap hnap
    obtain rfl | hnap := List.mem_cons.mp hnap
    · exact Escalation.add_pace_le deadline between.clock k
    · exact ih nap hnap

theorem Wait.atDeadline (h : Wait (Attempted setting condition) deadline (e.pace deadline) k
    session events course answer after) (hinstant : condition.IsInstant setting)
    (hstart : session.clock ≤ deadline) (hfailed : answer = .ok false) :
    after.clock = deadline := by
  have hstill : ∀ {session events answer after},
      Attempted setting condition session events answer after → after.clock = session.clock :=
    fun h => h.run.2 ▸ hinstant _
  induction h with
  | last hattempt hlate => exact ((hstill hattempt).trans_le hstart).antisymm (hlate hfailed)
  | @again k _ between _ _ _ _ _ _ _ _ ih =>
    exact ih (Escalation.add_pace_le deadline between.clock k) hfailed

theorem Escalation.retry_waits (hperiod : 0 < e.period) (hceiling : e.period ≤ e.ceiling)
    (hcondition : EvaluatesAs setting condition attempts) (hpolls : polls < limit)
    (hdeadline : deadline ≤ session.clock + polls * e.period) :
    Ends setting session (retry deadline e.ceiling (e.interval k) condition limit)
      (WaitWithin attempts deadline (e.pace deadline) polls k session) := by
  induction limit generalizing polls session k with
  | zero => exact absurd hpolls (Nat.not_lt_zero _)
  | succ limit ih =>
    refine attempt_waits hcondition fun tried between htried hforward => Ends.ofNow ?_
    simp only [minus_rat, shorter_rat, lengthened_rat, counted_rat, pure_bind]
    split
    next hlate =>
      rw [Bool.not_eq_true', ← Bool.not_eq_true, isPositive_rat, sub_pos, not_lt] at hlate
      refine Ends.pure ?_
      rw [List.append_nil]
      exact .last htried fun _ => hlate
    next hearly =>
      have hearly : between.clock < deadline := by simpa using hearly
      have hleft : deadline ≤ between.clock + polls * e.period := by linarith
      obtain ⟨fewer, rfl, hnearer⟩ := polls_left hearly hleft
      refine Ends.resume (run_sleep_rat (e.pace deadline k between.clock)) (Array.toList_push ..) ?_
      -- The loop grows its interval by one step; the next one in closed form is the same.
      rw [← interval_succ (hperiod.le.trans hceiling)]
      have hrest := @ih (between.rested (e.pace deadline k between.clock)) (k + 1) fewer
        (Nat.lt_of_succ_lt_succ hpolls) (deadline_le_add_pace hperiod hceiling hnearer)
      exact Ends.mono hrest fun _ _ _ hwait => .again htried hearly hwait

theorem Escalation.await_retried (he : e.patience.IsPositive) (hceiling : e.period ≤ e.ceiling)
    (hlimit : e.patience.polls ≤ setting.pollLimit) (hcondition : condition.IsForward setting) :
    Ends setting session (e.await condition) fun events answer after =>
      ∃ course, Retried e setting condition session events answer after course := by
  have hretry := retry_waits he.period hceiling (fun _ => hcondition.attempted) hlimit
    (he.deadline_le session.clock) (k := 0)
  apply Ends.ofNow
  rw [counted_rat, pure_bind]
  apply Ends.ofSetting
  rw [← interval_zero hceiling]
  refine Ends.mono hretry fun events answer after hwait => ?_
  obtain ⟨course, hwaited⟩ := hwait.waited
  have hstart : session.clock ≤ session.clock + e.timeout := le_add_of_nonneg_right he.timeout.le
  exact ⟨course, hwaited, hwaited.wait.inTime, fun hinstant =>
    hwaited.wait.atDeadline hinstant hstart⟩

end

/-! ## Calls in a row -/

section

variable (e : Escalation Rat) (setting : Setting Rat W) (condition : α → Action Rat W Bool)

def CallAnswered (session : Session Rat W) (turn : Turn Rat α Bool) (after : Session Rat W) :
    Prop :=
  ∃ course, Retried e setting (condition turn.item) session turn.events (.ok turn.result) after
    course

/-- The condition raised, and the call with it. -/
def CallBroken (session : Session Rat W) (a : α) (events : List (Event Rat)) (reason : Stop)
    (after : Session Rat W) : Prop :=
  ∃ course, Retried e setting (condition a) session events (.error reason) after course

end

theorem await_takesTurn {e : Escalation Rat} {setting : Setting Rat W}
    {condition : α → Action Rat W Bool} (he : e.patience.IsPositive)
    (hceiling : e.period ≤ e.ceiling) (hlimit : e.patience.polls ≤ setting.pollLimit)
    (hcondition : ∀ a, (condition a).IsForward setting) :
    TakesTurn setting (CallAnswered e setting condition) (CallBroken e setting condition) id
      fun a => e.await (condition a) := by
  intro a session
  refine Ends.mono (Escalation.await_retried he hceiling hlimit (hcondition a)) ?_
  rintro events answer after ⟨course, hretried⟩
  cases answer with
  | ok done => exact .inl ⟨done, rfl, course, hretried⟩
  | error reason => exact .inr ⟨reason, rfl, course, hretried⟩

/-- Calls of a condition that is retried answer in turn, each as if it were the first. -/
theorem retries_in_turn {e : Escalation Rat} (htimeout : 0 < e.timeout) (hperiod : 0 < e.period)
    (hceiling : e.period ≤ e.ceiling) {setting : Setting Rat W}
    (hlimit : ⌈e.timeout / e.period⌉₊ + 1 ≤ setting.pollLimit)
    {condition : α → Action Rat W Bool} (hcondition : ∀ a, (condition a).IsForward setting)
    (items : List α) (session : Session Rat W) :
    e.checked = .ok e ∧
      IsRound setting session (CallAnswered e setting condition) (CallBroken e setting condition)
        items (fun turns => turns.map (·.result)) (items.mapM fun a => e.await (condition a)) := by
  have hbelow : below e.ceiling e.period = false := by
    rw [← Bool.not_eq_true, below_rat, not_lt]
    exact hceiling
  have hchecked := Escalation.checked_of_isPositive (isPositive_rat.mpr htimeout)
    (isPositive_rat.mpr hperiod) hbelow
  exact ⟨hchecked, loop_isRound List.mapM_nil (fun _ _ => List.mapM_cons) (fun _ _ => rfl)
    (await_takesTurn ⟨htimeout, hperiod⟩ hceiling hlimit hcondition) items⟩

/-! Three calls that wait for the clock to reach a goal. To look at it takes a second, and the last
goal is too far away. -/

namespace ThreeGoals

def isReached (goal : Rat) : Action Rat Unit Bool := do
  letPass 1
  return goal ≤ (← now)

def escalation : Escalation Rat := ⟨20, 4, 5⟩

def setting : Setting Rat Unit := ⟨Stubborn.provider, 6⟩

def start : Session Rat Unit := ⟨(), 0, #[]⟩

def goals : List Rat := [0, 20, 100]

def sleeps (session : Session Rat Unit) : List Rat :=
  session.trace.toList.filterMap fun
    | .slept duration => some duration
    | _ => none

theorem isReached_isForward (goal : Rat) : (isReached goal).IsForward setting := by
  intro session
  refine Ends.resume (run_letPass _ _ rfl) (List.append_nil _).symm (Ends.ofNow (Ends.pure ?_))
  exact le_add_of_nonneg_right zero_le_one

def calls : Action Rat Unit (List Bool) := goals.mapM fun goal => escalation.await (isReached goal)

theorem goals_in_turn :
    (outcome (calls.run setting start)).toOption = some [true, true, false] ∧
      sleeps (left (calls.run setting start)) = [4, 5, 5, 2, 4, 5, 5, 2] ∧
      escalation.checked = .ok escalation ∧
      IsRound setting start (CallAnswered escalation setting isReached)
        (CallBroken escalation setting isReached) goals (fun turns => turns.map (·.result)) calls :=
  ⟨by decide +kernel, by decide +kernel, retries_in_turn (by decide +kernel) (by decide +kernel)
    (by decide +kernel) (by decide +kernel) isReached_isForward goals start⟩

end ThreeGoals

end Reclaim
