import Reclaim.Proofs.Unconfirmed.Trackers
import Reclaim.Proofs.Waits.Course

/-!
# Verdicts on a delete

A handle is asked whether it is done, once a period. If it is not done when the deadline has come,
then the delete is not confirmed, and otherwise the status decides, which is asked for once. With
replies that take no time, a handle may fail to be done as often as there are periods.
-/

namespace Reclaim

open Reclaim.Action

variable {W : Type}

/-! ## Polls -/

/-- The session after the handle was asked whether it is done. -/
def Session.askedDone (session : Session Rat W) (handle : Handle) (reply : Except Fault Bool)
    (elapsed : Rat) (world : W) : Session Rat W where
  world
  clock := session.clock + elapsed
  trace := (session.trace.push .polled).push (.asked (.isDone handle) reply)

/-- One question whether what is behind the handle is done. -/
inductive AsksDone (setting : Setting Rat W) (handle : Handle) (session : Session Rat W) :
    List (Event Rat) → Except Stop Bool → Session Rat W → Prop
  | replied {done : Bool} {elapsed : Rat} {world : W}
      (hanswer : setting.provider.answer (.isDone handle) session.world =
        (.ok done, elapsed, world)) :
      AsksDone setting handle session [.polled, .asked (.isDone handle) (.ok done)] (.ok done)
        (session.askedDone handle (.ok done) elapsed world)
  | raised {fault : Fault} {elapsed : Rat} {world : W}
      (hanswer : setting.provider.answer (.isDone handle) session.world =
        (.error fault, elapsed, world)) :
      AsksDone setting handle session [.polled, .asked (.isDone handle) (.error fault)]
        (.error (.raised fault)) (session.askedDone handle (.error fault) elapsed world)

/-- The handle is done when it is asked once more after this many times, and each time it replies at
once. -/
inductive DoneAfter (provider : Provider Rat W) (handle : Handle) : Nat → W → Prop
  | now {world after : W}
      (hanswer : provider.answer (.isDone handle) world = (.ok true, 0, after)) :
      DoneAfter provider handle 0 world
  | later {n : Nat} {world after : W}
      (hanswer : provider.answer (.isDone handle) world = (.ok false, 0, after))
      (hafter : DoneAfter provider handle n after) : DoneAfter provider handle (n + 1) world

/-- How a handle is polled until its verdict is due. -/
structure Polled (p : Patience Rat) (setting : Setting Rat W) (handle : Handle)
    (session : Session Rat W) (events : List (Event Rat)) (answer : Except Stop Bool)
    (after : Session Rat W) (course : Course) : Prop extends
    Waited p (AsksDone setting handle) (fun _ _ => p.period) session events answer after
      course where
  doneAfter : ∀ n, DoneAfter setting.provider handle n session.world →
    (answer = .ok true ↔ n ≤ ⌈p.timeout / p.period⌉₊) ∧
      (answer = .ok true → course.sleeps = List.replicate n p.period)

/-! ## Verdicts -/

/-- The status says that the delete was not carried out. A missing one does not. -/
def IsFailure (status : Option String) : Prop :=
  ∃ text, status = some text ∧ Text.lower text ∈ ["failed", "canceled", "cancelled"]

def timedOutNotice (p : Patience Rat) : Log.Entry :=
  ⟨.warning, "delete_operation_timed_out", [("timeout", Timescale.shown p.timeout)], none⟩

def failureNotice (status : String) : Log.Entry :=
  ⟨.warning, "delete_operation_failed", [("status", .str status)], none⟩

/-- What follows the polls, given what came of them. -/
inductive Concluded (p : Patience Rat) (setting : Setting Rat W) (handle : Handle)
    (polled : Session Rat W) :
    Except Stop Bool → List (Event Rat) → Except Stop Bool → Prop
  | timedOut :
      Concluded p setting handle polled (.ok false) [.logged (timedOutNotice p)] (.ok false)
  | raised {reason : Stop} : Concluded p setting handle polled (.error reason) [] (.error reason)
  | failed {status : Option String}
      (hreply : (setting.provider.answer (.status handle) polled.world).1 = .ok status)
      (hfailure : IsFailure status) :
      Concluded p setting handle polled (.ok true)
        [.asked (.status handle) (.ok status), .logged (failureNotice (status.getD ""))] (.ok false)
  | confirmed {status : Option String}
      (hreply : (setting.provider.answer (.status handle) polled.world).1 = .ok status)
      (hfailure : ¬ IsFailure status) :
      Concluded p setting handle polled (.ok true) [.asked (.status handle) (.ok status)] (.ok true)
  | unknown {fault : Fault}
      (hreply : (setting.provider.answer (.status handle) polled.world).1 = .error fault) :
      Concluded p setting handle polled (.ok true) [.asked (.status handle) (.error fault)]
        (.error (.raised fault))

theorem not_isFailure_none : ¬ IsFailure none := by
  rintro ⟨_, ⟨⟩, -⟩

theorem not_isFailure_empty : ¬ IsFailure (some "") := by
  rintro ⟨_, ⟨⟩, hmem⟩
  exact absurd hmem (by decide +kernel)

theorem reportsFailure_iff {status : Option String} :
    Deletion.reportsFailure (status.getD "") = true ↔ IsFailure status := by
  rw [Deletion.reportsFailure, List.contains_iff_mem]
  cases status with
  | none => exact iff_of_false (by decide +kernel) not_isFailure_none
  | some text =>
    refine ⟨fun hmem => ⟨text, rfl, hmem⟩, ?_⟩
    rintro ⟨_, ⟨⟩, hmem⟩
    exact hmem

section

variable {p : Patience Rat} {setting : Setting Rat W} {handle : Handle}
variable {session after : Session Rat W}
variable {events : List (Event Rat)} {course : Course} {answer : Except Stop Bool}

theorem asksDone_evaluates
    (helapsed : ∀ world, 0 ≤ (setting.provider.answer (.isDone handle) world).2.1) :
    EvaluatesAs setting (Deletion.isDone handle) (AsksDone setting handle) := by
  intro session
  refine Ends.resume (run_record ..) (Array.toList_push ..) ?_
  refine Ends.resume (run_ask ..) (Array.toList_push ..) ?_
  have hforward : session.clock ≤
      session.clock + (setting.provider.answer (.isDone handle) session.world).2.1 :=
    le_add_of_nonneg_right (helapsed session.world)
  rcases hanswer : setting.provider.answer (.isDone handle) session.world with
    ⟨fault | done, elapsed, world⟩
  · rw [hanswer] at hforward
    exact Ends.stop ⟨.raised hanswer, hforward⟩
  · rw [hanswer] at hforward
    exact Ends.pure ⟨.replied hanswer, hforward⟩

theorem Patience.IsPositive.late_iff (hp : p.IsPositive) {start : Rat} {k : Nat} :
    start + p.timeout ≤ start + k * p.period ↔ ⌈p.timeout / p.period⌉₊ ≤ k := by
  rw [add_le_add_iff_left, ← div_le_iff₀ hp.period, Nat.ceil_le]

/-- After `k` periods the handle is asked for the `k + 1`-th time. -/
theorem Wait.doneAfter (hp : p.IsPositive) {start : Rat} {k n : Nat}
    (h : Wait (AsksDone setting handle) (start + p.timeout) (fun _ _ => p.period) k session events
      course answer after)
    (hclock : session.clock = start + k * p.period) (hk : k ≤ ⌈p.timeout / p.period⌉₊)
    (hdone : DoneAfter setting.provider handle n session.world) :
    (answer = .ok true ↔ k + n ≤ ⌈p.timeout / p.period⌉₊) ∧
      (answer = .ok true → course.sleeps = List.replicate n p.period) := by
  -- The handle counts down what the polls count up, so each case is decided by both together.
  induction h generalizing n with
  | last hattempt hlate =>
    cases hattempt with
    | raised hanswer => cases hdone <;> simp_all
    | replied hanswer =>
      cases hdone with
      | now hreply =>
        obtain ⟨⟨⟩, -⟩ := Prod.mk.inj (hanswer.symm.trans hreply)
        exact ⟨iff_of_true rfl hk, fun _ => rfl⟩
      | @later n _ _ hreply _ =>
        obtain ⟨⟨⟩, hrest⟩ := Prod.mk.inj (hanswer.symm.trans hreply)
        obtain ⟨rfl, -⟩ := Prod.mk.inj hrest
        have hover := hlate rfl
        rw [Session.askedDone, add_zero, hclock, hp.late_iff] at hover
        exact ⟨iff_of_false nofun (by omega), nofun⟩
  | @again k session _ _ _ _ _ _ hattempt hearly _ ih =>
    cases hattempt with
    | replied hanswer =>
      cases hdone with
      | now hreply => cases (hanswer.symm.trans hreply)
      | @later n _ _ hreply hafter =>
        obtain ⟨-, hrest⟩ := Prod.mk.inj (hanswer.symm.trans hreply)
        obtain ⟨rfl, rfl⟩ := Prod.mk.inj hrest
        rw [Session.askedDone, add_zero, hclock, ← not_le, hp.late_iff, not_le] at hearly
        have hnext : session.clock + 0 + p.period = start + (k + 1 : Nat) * p.period := by
          rw [hclock]
          push_cast
          ring
        obtain ⟨hiff, hsleeps⟩ := ih hnext hearly hafter
        rw [show k + (n + 1) = k + 1 + n by omega]
        refine ⟨hiff, fun hdone => ?_⟩
        rw [List.replicate_succ, ← hsleeps hdone]
        rfl

/-- A handle that is done is asked for its status, which decides. -/
theorem done_concludes :
    Ends setting session (do
      let status ← Deletion.status handle
      if Deletion.reportsFailure status then
        log .warning "delete_operation_failed" [("status", .str status)]
        return false
      return true : Action Rat W Bool)
      fun closing outcome _ => Concluded p setting handle session (.ok true) closing outcome := by
  refine Ends.bind status_ends ?_ ?_
  · rintro _ status after ⟨reply, hreply, rfl, houtcome⟩
    cases reply with
    | error fault => cases houtcome
    | ok status =>
      cases houtcome
      split
      next hfailure => exact Ends.log (Ends.pure (.failed hreply (reportsFailure_iff.mp hfailure)))
      next hfailure => exact Ends.pure (.confirmed hreply (hfailure ∘ reportsFailure_iff.mpr))
  · rintro _ reason after ⟨reply, hreply, rfl, houtcome⟩
    cases reply with
    | error fault =>
      cases houtcome
      exact .unknown hreply
    | ok status => cases houtcome

theorem isDone_polled (hp : p.IsPositive) (hlimit : p.polls ≤ setting.pollLimit)
    (helapsed : ∀ world, 0 ≤ (setting.provider.answer (.isDone handle) world).2.1) :
    Ends setting session (p.await (Deletion.isDone handle)) fun events answer after =>
      ∃ course, Polled p setting handle session events answer after course := by
  refine Ends.mono (p.await_waited hp hlimit (asksDone_evaluates helapsed)) ?_
  rintro events answer after ⟨course, hwaited⟩
  refine ⟨course, hwaited, fun n hdone => ?_⟩
  simpa using hwaited.wait.doneAfter hp (by simp) (Nat.zero_le _) hdone

end

/-- A delete is followed until it is done or the deadline has come, and its verdict is what the
status says, or that it timed out. -/
theorem isConfirmed_concludes {p : Patience Rat} (htimeout : 0 < p.timeout) (hperiod : 0 < p.period)
    {setting : Setting Rat W} (hlimit : ⌈p.timeout / p.period⌉₊ + 1 ≤ setting.pollLimit)
    {handle : Handle}
    (helapsed : ∀ world, 0 ≤ (setting.provider.answer (.isDone handle) world).2.1)
    (session : Session Rat W) :
    Ends setting session (Deletion.isConfirmed p (some handle)) (fun events outcome _ =>
      ∃ polling course answer polled closing,
        Polled p setting handle session polling answer polled course ∧
          Concluded p setting handle polled answer closing outcome ∧
            events = polling ++ closing) ∧
      ¬ IsFailure none ∧ ¬ IsFailure (some "") := by
  refine ⟨Ends.bind (isDone_polled ⟨htimeout, hperiod⟩ hlimit helapsed) ?_ ?_,
    not_isFailure_none, not_isFailure_empty⟩
  · rintro polling done polled ⟨course, hpolled⟩
    cases done with
    | false => exact Ends.log (Ends.pure ⟨_, _, _, _, _, hpolled, .timedOut, rfl⟩)
    | true => exact Ends.mono done_concludes fun _ _ _ hconcluded =>
        ⟨_, _, _, _, _, hpolled, hconcluded, rfl⟩
  · rintro polling reason polled ⟨course, hpolled⟩
    exact ⟨_, _, _, _, _, hpolled, .raised, (List.append_nil _).symm⟩

/-! A delete that is done with the last poll, and was canceled. The world counts the polls until
then. -/

namespace Canceled

def provider : Provider Rat Nat where
  answer
    | .isDone _, 0 => (.ok true, 0, 0)
    | .isDone _, pending + 1 => (.ok false, 0, pending)
    | .status _, pending => (.ok (some "Canceled"), 0, pending)
    | .get _ _ _, pending => (.error (.unreachable "down"), 0, pending)
    | .list _ _, pending => (⟨[], none⟩, 0, pending)
    | .beginDelete _ _ _, pending => (.ok (some ⟨1⟩), 0, pending)
    | .delete _ _ _, pending => (.ok (), 0, pending)
    | .members _, pending => (⟨[], none⟩, 0, pending)
    | .beginDeleteGroup _, pending => (.ok none, 0, pending)
  deletesAtOnce := Kind.deletesAtOnce

def patience : Patience Rat := ⟨10, 4⟩

def setting : Setting Rat Nat := ⟨provider, 4⟩

def start : Session Rat Nat := ⟨3, 0, #[]⟩

theorem doneAfter (handle : Handle) (pending : Nat) :
    DoneAfter provider handle pending pending := by
  induction pending with
  | zero => exact .now rfl
  | succ pending ih => exact .later rfl ih

theorem instant (handle : Handle) (world : Nat) :
    0 ≤ (setting.provider.answer (.isDone handle) world).2.1 := by
  cases world <;> exact le_rfl

theorem canceled_at_last :
    DoneAfter provider ⟨1⟩ 3 start.world ∧
      (outcome ((Deletion.isConfirmed patience (some ⟨1⟩)).run setting start)).toOption =
        some false ∧
      Ends setting start (Deletion.isConfirmed patience (some ⟨1⟩)) fun events outcome _ =>
        ∃ polling course answer polled closing,
          Polled patience setting ⟨1⟩ start polling answer polled course ∧
            Concluded patience setting ⟨1⟩ polled answer closing outcome ∧
              events = polling ++ closing :=
  ⟨doneAfter ⟨1⟩ 3, by decide +kernel,
    (isConfirmed_concludes (by decide +kernel) (by decide +kernel) (by decide +kernel)
      (instant ⟨1⟩) start).1⟩

end Canceled

end Reclaim
