import Reclaim.Proofs.Time.Trackers
import Reclaim.Proofs.Turns.Round

/-!
# The course of a wait

A tracker evaluates its condition, and sleeps before it does so again. Each evaluation but the last
one fails before the deadline, and if the last one fails too, then no longer before it. There is
one at the start, and one more for each period until the deadline at most.
-/

namespace Reclaim

open Reclaim.Action Timescale

variable {W : Type}

/-! ## Courses -/

/-- One evaluation of a condition: its answer, and when it was given. -/
structure Evaluation where
  answer : Except Stop Bool
  finished : Rat

/-- All evaluations in order, and the sleeps between them. -/
structure Course where
  evaluations : List Evaluation
  sleeps : List Rat

def Course.once (answer : Except Stop Bool) (finished : Rat) : Course := ⟨[⟨answer, finished⟩], []⟩

/-- An evaluation in vain and the sleep after it come before the course. -/
def Course.after (course : Course) (finished sleep : Rat) : Course :=
  ⟨⟨.ok false, finished⟩ :: course.evaluations, sleep :: course.sleeps⟩

def Session.rested (session : Session Rat W) (duration : Rat) : Session Rat W :=
  { session with
    clock := session.clock + duration
    trace := session.trace.push (.slept duration) }

/-- What one evaluation of a condition does. -/
abbrev Attempts (W : Type) : Type :=
  Session Rat W → List (Event Rat) → Except Stop Bool → Session Rat W → Prop

section

variable (attempts : Attempts W) (deadline : Rat) (pace : Nat → Rat → Rat)

/-- Waiting for a condition until the deadline. The `k`-th sleep lasts `pace k now`. -/
inductive Wait : Nat → Session Rat W → List (Event Rat) → Course → Except Stop Bool →
    Session Rat W → Prop
  /-- The evaluation is the last one: it does not fail, or the deadline has come by then. -/
  | last {k : Nat} {session after : Session Rat W} {events : List (Event Rat)}
      {answer : Except Stop Bool} (hattempt : attempts session events answer after)
      (hlate : answer = .ok false → deadline ≤ after.clock) :
      Wait k session events (.once answer after.clock) answer after
  /-- The evaluation is in vain, and there is time for another one. -/
  | again {k : Nat} {session between after : Session Rat W} {tried more : List (Event Rat)}
      {course : Course} {answer : Except Stop Bool}
      (hattempt : attempts session tried (.ok false) between) (hearly : between.clock < deadline)
      (hrest : Wait (k + 1) (between.rested (pace k between.clock)) more course answer after) :
      Wait k session (tried ++ .slept (pace k between.clock) :: more)
        (course.after between.clock (pace k between.clock)) answer after

end

/-- The course leads to this answer, and had no reason to end before. -/
structure Course.EndsWith (course : Course) (deadline : Rat) (answer : Except Stop Bool)
    (finished : Rat) : Prop where
  evaluated : ∃ vain, course.evaluations = vain ++ [⟨answer, finished⟩] ∧
    vain.length = course.sleeps.length ∧
      ∀ evaluation ∈ vain, evaluation.answer = .ok false ∧ evaluation.finished < deadline
  late : answer = .ok false → deadline ≤ finished

namespace Wait

variable {attempts : Attempts W} {deadline : Rat} {pace : Nat → Rat → Rat} {k : Nat}
variable {session after : Session Rat W} {events : List (Event Rat)} {course : Course}
variable {answer : Except Stop Bool}

theorem endsWith (h : Wait attempts deadline pace k session events course answer after) :
    course.EndsWith deadline answer after.clock := by
  induction h with
  | last _ hlate => exact ⟨⟨[], rfl, rfl, by simp⟩, hlate⟩
  | @again _ _ between _ _ _ _ _ _ hearly _ ih =>
    obtain ⟨⟨vain, hevaluations, hlength, hvain⟩, hlate⟩ := ih
    refine ⟨⟨⟨.ok false, between.clock⟩ :: vain, ?_, ?_, ?_⟩, hlate⟩
    · rw [Course.after, hevaluations, List.cons_append]
    · rw [List.length_cons, hlength, Course.after, List.length_cons]
    · intro evaluation hmem
      obtain rfl | hmem := List.mem_cons.mp hmem
      · exact ⟨rfl, hearly⟩
      · exact hvain evaluation hmem

end Wait

theorem Course.EndsWith.failed_iff {course : Course} {deadline finished : Rat}
    {answer : Except Stop Bool} (h : course.EndsWith deadline answer finished) :
    answer = .ok false ↔
      (∀ evaluation ∈ course.evaluations, evaluation.answer = .ok false) ∧ deadline ≤ finished := by
  obtain ⟨⟨vain, hevaluations, -, hvain⟩, hlate⟩ := h
  rw [hevaluations]
  constructor
  · rintro rfl
    refine ⟨fun evaluation hmem => ?_, hlate rfl⟩
    obtain hmem | hmem := List.mem_append.mp hmem
    · exact (hvain evaluation hmem).1
    · rw [List.mem_singleton.mp hmem]
  · rintro ⟨hall, -⟩
    exact hall ⟨answer, finished⟩ (by simp)

/-- How a wait with this patience goes, whatever the condition is. It fails exactly if all of its
evaluations do, the last one no longer before the deadline. -/
structure Waited (p : Patience Rat) (attempts : Attempts W) (pace : Nat → Rat → Rat)
    (session : Session Rat W) (events : List (Event Rat)) (answer : Except Stop Bool)
    (after : Session Rat W) (course : Course) : Prop where
  wait : Wait attempts (session.clock + p.timeout) pace 0 session events course answer after
  few : course.evaluations.length ≤ ⌈p.timeout / p.period⌉₊ + 1
  endsWith : course.EndsWith (session.clock + p.timeout) answer after.clock
  failed_iff : answer = .ok false ↔
    (∀ evaluation ∈ course.evaluations, evaluation.answer = .ok false) ∧
      session.clock + p.timeout ≤ after.clock

/-! ## Few evaluations -/

/-- A wait with an evaluation after each of so many sleeps at most. -/
def WaitWithin (attempts : Attempts W) (deadline : Rat) (pace : Nat → Rat → Rat)
    (sleeps k : Nat) (session : Session Rat W) (events : List (Event Rat))
    (answer : Except Stop Bool) (after : Session Rat W) : Prop :=
  ∃ course, Wait attempts deadline pace k session events course answer after ∧
    course.evaluations.length ≤ sleeps + 1

section

variable {attempts : Attempts W} {deadline : Rat} {pace : Nat → Rat → Rat} {sleeps k : Nat}
variable {session between after : Session Rat W} {tried more : List (Event Rat)}
variable {answer : Except Stop Bool}

theorem WaitWithin.last (hattempt : attempts session tried answer after)
    (hlate : answer = .ok false → deadline ≤ after.clock) :
    WaitWithin attempts deadline pace sleeps k session tried answer after :=
  ⟨_, .last hattempt hlate, Nat.le_add_left 1 sleeps⟩

theorem WaitWithin.again (hattempt : attempts session tried (.ok false) between)
    (hearly : between.clock < deadline)
    (hrest : WaitWithin attempts deadline pace sleeps (k + 1)
      (between.rested (pace k between.clock)) more answer after) :
    WaitWithin attempts deadline pace (sleeps + 1) k session
      (tried ++ .slept (pace k between.clock) :: more) answer after := by
  obtain ⟨course, hwait, hfew⟩ := hrest
  exact ⟨_, .again hattempt hearly hwait, Nat.succ_le_succ hfew⟩

theorem WaitWithin.waited {p : Patience Rat}
    (h : WaitWithin attempts (session.clock + p.timeout) pace ⌈p.timeout / p.period⌉₊ 0 session
      tried answer after) : ∃ course, Waited p attempts pace session tried answer after course := by
  obtain ⟨course, hwait, hfew⟩ := h
  exact ⟨course, hwait, hfew, hwait.endsWith, hwait.endsWith.failed_iff⟩

end

/-! ## Trackers -/

/-- All that one evaluation does, with the poll that announces it. -/
def Action.EvaluatesAs (setting : Setting Rat W) (condition : Action Rat W Bool)
    (attempts : Attempts W) : Prop :=
  ∀ session, Ends setting session (do record .polled; condition) fun events answer after =>
    attempts session events answer after ∧ session.clock ≤ after.clock

section

variable {setting : Setting Rat W} {condition : Action Rat W Bool} {attempts : Attempts W}
variable {session : Session Rat W} {deadline period : Rat} {k polls limit : Nat}

theorem run_sleep_rat (duration : Rat) :
    (sleep duration : Action Rat W Unit).run setting session = .ok () (session.rested duration) :=
  run_sleep _ _ (fits_rat _)

/-- Before the deadline there is a poll left, and it needs one less after the next sleep. -/
theorem polls_left {now : Rat} (hearly : now < deadline)
    (hdeadline : deadline ≤ now + polls * period) :
    ∃ fewer, polls = fewer + 1 ∧ deadline ≤ now + period + fewer * period := by
  cases polls with
  | zero =>
    rw [Nat.cast_zero, zero_mul, add_zero] at hdeadline
    exact absurd hearly hdeadline.not_gt
  | succ fewer =>
    refine ⟨fewer, rfl, ?_⟩
    rw [Nat.cast_succ, add_mul, one_mul] at hdeadline
    linarith

/-- An evaluation that succeeds or raises ends a wait. -/
theorem attempt_waits {pace : Nat → Rat → Rat} {next : Action Rat W Bool}
    (hcondition : EvaluatesAs setting condition attempts)
    (hnext : ∀ tried between, attempts session tried (.ok false) between →
      session.clock ≤ between.clock → Ends setting between next fun more answer after =>
        WaitWithin attempts deadline pace polls k session (tried ++ more) answer after) :
    Ends setting session (do
      record .polled
      if ← condition then return true
      next)
      (WaitWithin attempts deadline pace polls k session) := by
  rw [← bind_assoc]
  refine Ends.bind (hcondition session) ?_ ?_
  · rintro tried done between ⟨htried, hforward⟩
    cases done with
    | true =>
      refine Ends.pure ?_
      rw [List.append_nil]
      exact .last htried nofun
    | false => exact hnext tried between htried hforward
  · rintro tried reason between ⟨htried, -⟩
    exact .last htried nofun

theorem Patience.poll_waits (hcondition : EvaluatesAs setting condition attempts)
    (hpolls : polls < limit) (hdeadline : deadline ≤ session.clock + polls * period) :
    Ends setting session (poll deadline period condition limit)
      (WaitWithin attempts deadline (fun _ _ => period) polls k session) := by
  induction limit generalizing polls session k with
  | zero => exact absurd hpolls (Nat.not_lt_zero _)
  | succ limit ih =>
    refine attempt_waits hcondition fun tried between htried hforward => Ends.ofNow ?_
    split
    next hlate =>
      refine Ends.pure ?_
      rw [List.append_nil]
      exact .last htried fun _ => atMost_rat.mp hlate
    next hearly =>
      rw [atMost_rat, not_le] at hearly
      -- What the evaluation itself takes can only bring the deadline nearer.
      have hleft : deadline ≤ between.clock + polls * period := by linarith
      obtain ⟨fewer, rfl, hnearer⟩ := polls_left hearly hleft
      refine Ends.resume (run_sleep_rat period) (Array.toList_push ..) ?_
      have hrest := @ih (between.rested _) (k + 1) fewer (Nat.lt_of_succ_lt_succ hpolls) hnearer
      exact Ends.mono hrest fun _ _ _ hwait => .again htried hearly hwait

theorem Patience.await_waited {p : Patience Rat} (hp : p.IsPositive)
    (hlimit : p.polls ≤ setting.pollLimit) (hcondition : EvaluatesAs setting condition attempts) :
    Ends setting session (p.await condition) fun events answer after =>
      ∃ course, Waited p attempts (fun _ _ => p.period) session events answer after course := by
  apply Ends.ofNow
  rw [counted_rat, pure_bind]
  apply Ends.ofSetting
  exact Ends.mono (poll_waits hcondition hlimit (hp.deadline_le session.clock))
    fun _ _ _ hwait => hwait.waited

/-! ## Conditions that are any action -/

/-- The action never turns the clock back, and takes nothing off the trace. -/
def Action.IsForward {α : Type} (setting : Setting Rat W) (action : Action Rat W α) : Prop :=
  ∀ session, Ends setting session action fun _ _ after => session.clock ≤ after.clock

def Session.polling (session : Session Rat W) : Session Rat W :=
  { session with trace := session.trace.push .polled }

/-- After a poll is announced the action has this outcome, and adds these events. -/
structure Attempted {α : Type} (setting : Setting Rat W) (action : Action Rat W α)
    (session : Session Rat W) (events : List (Event Rat)) (result : Except Stop α)
    (after : Session Rat W) : Prop where
  run : RunsTo setting session.polling action result after
  trace : after.trace.toList = session.trace.toList ++ events

theorem Action.IsForward.attempted {α : Type} {action : Action Rat W α}
    (h : action.IsForward setting) :
    Ends setting session (do record .polled; action) fun events result after =>
      Attempted setting action session events result after ∧ session.clock ≤ after.clock := by
  refine Ends.resume (run_record ..) (Array.toList_push ..) ?_
  refine Ends.mono (Ends.runs (h session.polling).traced) ?_
  rintro events result after ⟨⟨hforward, htrace⟩, hrun⟩
  refine ⟨⟨hrun, ?_⟩, hforward⟩
  rw [htrace, Session.polling, Array.toList_push, List.append_assoc]

end

end Reclaim
