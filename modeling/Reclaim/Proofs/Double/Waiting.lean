import Reclaim.Cascade.Disks
import Reclaim.Proofs.Double.Arithmetic
import Reclaim.Proofs.Time.Rules
import Reclaim.Time.Seconds

/-!
# Waits on a clock of floating point numbers

Such a clock stands still when a sleep is too short for it, so that a wait comes to an end only if
its deadline is not too far away for its period. With a deadline that is no number a wait never
comes to an end, and neither does one with an infinite deadline while the clock stays finite.
-/

namespace Reclaim

open Reclaim.Action Timescale Double

/-! ## Seconds as numbers -/

namespace Seconds

open Float.Model

/-- A whole number is compared by exact value, and zero so like the number zero. -/
theorem compareWhole_zero (x : Float) :
    compareWhole 0 x = UnpackedFloat.compare (.zero .positive) x.toModel.unpack := by
  have hnan : x.isNaN = x.toModel.unpack.isNaN := rfl
  have hinf : x.isInf = x.toModel.unpack.isInf := rfl
  have hsign : Decimal.isNegative x = decide (2 ^ 63 ≤ x.toModel.toBits.toNat) := rfl
  have hzero : (Decimal.Binary.ofFloat x).m = 0 ↔ x.toModel.toBits.toNat / 2 ^ 52 % 2 ^ 11 = 0 ∧
    x.toModel.toBits.toNat % 2 ^ 52 = 0 := mantissa_eq_zero_iff
  rw [compareWhole, hnan, hinf, hsign, unpack_eq_ofFields, Decimal.Binary.fraction]
  generalize x.toModel.toBits.toNat / 2 ^ 52 % 2 ^ 11 = exponent at *
  generalize x.toModel.toBits.toNat % 2 ^ 52 = fraction at *
  generalize Decimal.Binary.ofFloat x = binary at *
  obtain ⟨m, q, narrow⟩ := binary
  dsimp only at hzero ⊢
  rw [zero_mul]
  by_cases hmax : exponent = 2047
  · rw [ofFields, if_pos hmax]
    by_cases hfraction : fraction = 0
    · rw [if_pos hfraction]
      by_cases hneg : 2 ^ 63 ≤ x.toModel.toBits.toNat
      · rw [if_pos hneg, decide_eq_true hneg]
        rfl
      · rw [if_neg hneg, decide_eq_false hneg]
        rfl
    · rw [if_neg hfraction]
      rfl
  · by_cases hm : m = 0
    · obtain ⟨rfl, rfl⟩ := hzero.mp hm
      rw [hm]
      split <;> simp [ofFields, UnpackedFloat.isNaN, UnpackedFloat.isInf, UnpackedFloat.compare]
    · have hpos : 0 < ((m * Nat.pow 2 q.toNat : ℕ) : ℤ) :=
        Int.natCast_pos.mpr (Nat.mul_pos (Nat.pos_of_ne_zero hm) (Nat.pow_pos two_pos))
      by_cases hneg : 2 ^ 63 ≤ x.toModel.toBits.toNat
      · obtain ⟨_, _, _, hfinite⟩ := ofFields_finite .negative hmax (hm ∘ hzero.mpr)
        rw [if_pos hneg, decide_eq_true hneg, hfinite, if_pos rfl]
        exact congrArg some (compare_gt_iff_gt.mpr (neg_lt_zero.mpr hpos))
      · obtain ⟨_, _, _, hfinite⟩ := ofFields_finite .positive hmax (hm ∘ hzero.mpr)
        rw [if_neg hneg, decide_eq_false hneg, hfinite, if_neg Bool.false_ne_true]
        exact congrArg some (compare_lt_iff_lt.mpr hpos)

theorem isPositive_fractional {x : Float} : isPositive (fractional x) = true ↔ ¬ x ≤ 0 := by
  change (!Seconds.atMost (fractional x) (whole 0)) = true ↔ _
  rw [Seconds.atMost, compareWhole_zero, le_iff_unpack]
  change _ ↔ ¬ (UnpackedFloat.le _ (.zero .positive)) = true
  cases x.toModel.unpack with
  | notANumber => decide
  | zero sign => exact iff_of_false Bool.false_ne_true (not_not.mpr rfl)
  | infinity sign | finite sign m e hm =>
    cases sign with
    | negative => exact iff_of_false Bool.false_ne_true (not_not.mpr rfl)
    | positive => exact iff_of_true rfl Bool.false_ne_true

variable {x y : Float}

@[simp] theorem fits_fractional : Timescale.fits (fractional x) = true := rfl

@[simp] theorem plus_fractional (d : Seconds) :
    Timescale.plus (fractional x) d = fractional (x + d.toFloat) := by
  cases d <;> rfl

@[simp] theorem minus_fractional :
    Timescale.minus (fractional x) (fractional y) = fractional (x - y) := rfl

@[simp] theorem lengthened_fractional : lengthened (fractional x) = fractional (x * 1.5) := rfl

@[simp] theorem atMost_fractional :
    Timescale.atMost (fractional x) (fractional y) = decide (x ≤ y) := rfl

@[simp] theorem below_fractional :
    Timescale.below (fractional x) (fractional y) = decide (x < y) := rfl

@[simp] theorem shorter_fractional :
    shorter (fractional x) (fractional y) = fractional (if y < x then y else x) := by
  rw [shorter, below_fractional]
  by_cases hlt : y < x <;> simp [hlt]

end Seconds

/-! ## Clocks that only go forward -/

variable {W α β : Type}

/-- Replies take no less than no time. -/
def Provider.IsPatient (provider : Provider Seconds W) : Prop :=
  ∀ request world, 0 ≤ (provider.answer request world).2.1.toFloat

/-- The clock shows this number or a larger one. -/
def Session.IsPast (session : Session Seconds W) (c : Float) : Prop :=
  ∃ x, session.clock = .fractional x ∧ 0 ≤ x ∧ value c ≤ value x

theorem Session.IsPast.mono {session : Session Seconds W} {c c' : Float} (h : session.IsPast c')
    (hle : value c ≤ value c') : session.IsPast c := by
  obtain ⟨x, hclock, hx, hpast⟩ := h
  exact ⟨x, hclock, hx, hle.trans hpast⟩

/-- No tracker runs out of polls, and the clock does not go back. -/
def Proceeds (setting : Setting Seconds W) (action : Action Seconds W α) : Prop :=
  ∀ c session, session.IsPast c → Ends setting session action fun _ outcome after =>
    Concludes outcome ∧ after.IsPast c

namespace Proceeds

variable {setting : Setting Seconds W} {action : Action Seconds W α} {next : α → Action Seconds W β}

theorem concludes (h : Proceeds setting action) {session : Session Seconds W} {c : Float}
    (hpast : session.IsPast c) :
    Ends setting session action fun _ outcome _ => Concludes outcome :=
  Ends.mono (h c session hpast) fun _ _ _ h => h.1

theorem pure {a : α} : Proceeds setting (pure a : Action Seconds W α) :=
  fun _ _ hpast => Ends.pure ⟨concludes_ok, hpast⟩

theorem raise {fault : Fault} : Proceeds setting (raise fault : Action Seconds W α) :=
  fun _ _ hpast => Ends.stop ⟨concludes_raised, hpast⟩

theorem bind (h : Proceeds setting action) (hnext : ∀ a, Proceeds setting (next a)) :
    Proceeds setting (action >>= next) := by
  intro c session hpast
  refine Ends.bind (h c session hpast) ?_ ?_
  · rintro events a after ⟨-, hafter⟩
    exact hnext a c after hafter
  · rintro events reason after ⟨hconcludes, hafter⟩
    exact ⟨hconcludes.error, hafter⟩

theorem ofExcept {result : Except Fault α} : Proceeds setting (ofExcept result) := by
  cases result with
  | ok a => exact .pure
  | error fault => exact .raise

theorem record {event : Event Seconds} : Proceeds setting (record event) :=
  fun _ _ hpast => Ends.record ⟨concludes_ok, hpast⟩

theorem ask (hpatient : setting.provider.IsPatient) {request : Request} :
    Proceeds setting (ask request) := by
  rintro c session ⟨x, hclock, hx, hle⟩
  refine Ends.ask fun reply elapsed world hanswer => ⟨concludes_ok, ?_⟩
  have helapsed : 0 ≤ elapsed.toFloat := by
    have := hpatient request session.world
    rwa [hanswer] at this
  refine ⟨x + elapsed.toFloat, ?_, Double.add_nonneg hx helapsed,
    hle.trans (value_le_add hx helapsed)⟩
  rw [hclock, Seconds.plus_fractional]

end Proceeds

/-! ## Waits that come to an end -/

section Ending

variable {setting : Setting Seconds W} {condition : Action Seconds W Bool}
variable {session : Session Seconds W} {deadline period c : Float}

theorem ticks_le_of_value_le {x y : Float} (h : value x ≤ value y) : ticks x ≤ ticks y :=
  not_lt.mp fun hlt => h.not_gt (ticks_lt_iff.mp hlt)

/-- What follows a sleep finds a clock that is no further back than before it. -/
theorem sleep_concludes {rest : Action Seconds W Bool} {x slept : Float}
    (hclock : session.clock = .fractional x) (hx : 0 ≤ x) (hslept : 0 ≤ slept)
    (hpast : value c ≤ value x)
    (hrest : ∀ later : Session Seconds W, later.IsPast (x + slept) →
      Ends setting later rest fun _ outcome after => Concludes outcome ∧ after.IsPast (x + slept)) :
    Ends setting session (do sleep (.fractional slept); rest)
      fun _ outcome after => Concludes outcome ∧ after.IsPast c := by
  have hrun := run_sleep setting session (Seconds.fits_fractional (x := slept))
  refine Ends.resume hrun (Array.toList_push ..) (Ends.mono (hrest _ ?_) fun _ _ _ h =>
    ⟨h.1, h.2.mono (hpast.trans (value_le_add hx hslept))⟩)
  refine ⟨x + slept, ?_, Double.add_nonneg hx hslept, le_rfl⟩
  rw [hclock]
  exact Seconds.plus_fractional _

/-- The clock moves at each sleep, and so there is a poll for each number up to the deadline. -/
theorem poll_concludes (hcondition : Proceeds setting condition) (hdeadline : 0 ≤ deadline)
    (hperiod : 0 ≤ period) (hreach : value deadline ≤ 2 ^ 53 * value period) {polls limit : ℕ}
    (hpolls : polls < limit) (hpast : session.IsPast c) (hleft : ticks deadline ≤ ticks c + polls) :
    Ends setting session
      (Patience.poll (.fractional deadline) (.fractional period) condition limit)
      fun _ outcome after => Concludes outcome ∧ after.IsPast c := by
  induction limit generalizing polls c session with
  | zero => exact absurd hpolls (Nat.not_lt_zero _)
  | succ limit ih =>
    have htry : Proceeds setting (do record .polled; condition) := .bind .record fun _ => hcondition
    rw [Patience.poll, ← bind_assoc]
    refine Ends.bind (htry c session hpast) ?_ fun _ _ _ h => ⟨h.1.error, h.2⟩
    rintro events done between ⟨-, hbetween⟩
    have ⟨x, hclock, hx, hle⟩ := hbetween
    cases done with
    | true => exact Ends.pure ⟨concludes_ok, hbetween⟩
    | false =>
      refine Ends.ofNow ?_
      rw [hclock, Seconds.atMost_fractional]
      split
      next => exact Ends.pure ⟨concludes_ok, hbetween⟩
      next hlate =>
        have hearly : value x < value deadline :=
          not_le.mp (hlate ∘ decide_eq_true ∘ (le_iff hdeadline hx).mpr)
        have hmoves : value x < value (x + period) :=
          value_lt_add hx hperiod (hearly.trans_le (value_le hdeadline)) (hearly.trans_le hreach)
        have hticks := ticks_lt_iff.mpr hearly
        have hticks' := ticks_lt_iff.mpr hmoves
        have hticks'' := ticks_le_of_value_le hle
        -- A poll is left: without one the deadline would have come.
        obtain _ | polls := polls
        · omega
        exact sleep_concludes hclock hx hperiod hle fun later hlater =>
          ih (Nat.lt_of_succ_lt_succ hpolls) hlater (by omega)

/-- An interval that a sleep may have: no shorter than the period. -/
structure LastsFor (period x : Float) : Prop where
  nonneg : 0 ≤ x
  long : value period ≤ value x

namespace LastsFor

variable {ceiling interval x : Float}

/-- The next interval lasts as long, be it cut to the ceiling or not. -/
theorem next (h : LastsFor period interval)
    (hceiling : ∀ longer, ceiling < longer → LastsFor period ceiling) :
    LastsFor period (if ceiling < interval * 1.5 then ceiling else interval * 1.5) := by
  split
  next hlong => exact hceiling _ hlong
  next =>
    obtain ⟨hnonneg, hlong⟩ := value_le_mul_growth h.nonneg
    exact ⟨hnonneg, h.long.trans hlong⟩

/-- Before the deadline the clock moves by such an interval, and also by the time that remains. -/
theorem moves (h : LastsFor period interval) (hdeadline : 0 ≤ deadline)
    (hfinite : value deadline < 2 ^ (1024 : ℤ)) (hreach : value deadline ≤ 2 ^ 53 * value period)
    (hx : 0 ≤ x) (hearly : value x < value deadline) :
    0 ≤ (if deadline - x < interval then deadline - x else interval) ∧
      value x < value (x + if deadline - x < interval then deadline - x else interval) := by
  split
  next => exact value_lt_add_sub hdeadline hx hfinite hearly
  next =>
    refine ⟨h.nonneg, value_lt_add hx h.nonneg (hearly.trans hfinite) ?_⟩
    calc value x < value deadline := hearly
      _ ≤ 2 ^ 53 * value period := hreach
      _ ≤ 2 ^ 53 * value interval := by gcongr; exact h.long

end LastsFor

/-- The clock moves at each sleep, also at one that is cut to the time that remains. -/
theorem retry_concludes (hcondition : Proceeds setting condition) (hdeadline : 0 ≤ deadline)
    (hfinite : value deadline < 2 ^ (1024 : ℤ)) (hreach : value deadline ≤ 2 ^ 53 * value period)
    {ceiling interval : Float} (hceiling : ∀ longer, ceiling < longer → LastsFor period ceiling)
    (hinterval : LastsFor period interval) {polls limit : ℕ} (hpolls : polls < limit)
    (hpast : session.IsPast c) (hleft : ticks deadline ≤ ticks c + polls) :
    Ends setting session
      (Escalation.retry (.fractional deadline) (.fractional ceiling) (.fractional interval)
        condition limit)
      fun _ outcome after => Concludes outcome ∧ after.IsPast c := by
  induction limit generalizing polls c session interval with
  | zero => exact absurd hpolls (Nat.not_lt_zero _)
  | succ limit ih =>
    have htry : Proceeds setting (do record .polled; condition) := .bind .record fun _ => hcondition
    rw [Escalation.retry, ← bind_assoc]
    refine Ends.bind (htry c session hpast) ?_ fun _ _ _ h => ⟨h.1.error, h.2⟩
    rintro events done between ⟨-, hbetween⟩
    have ⟨x, hclock, hx, hle⟩ := hbetween
    cases done with
    | true => exact Ends.pure ⟨concludes_ok, hbetween⟩
    | false =>
      refine Ends.ofNow ?_
      rw [hclock, Seconds.minus_fractional]
      dsimp only
      rw [Seconds.shorter_fractional, counted_of_fits Seconds.fits_fractional, pure_bind,
        Seconds.lengthened_fractional, Seconds.shorter_fractional]
      split
      next => exact Ends.pure ⟨concludes_ok, hbetween⟩
      next hlate =>
        have hremains : ¬ deadline - x ≤ 0 :=
          Seconds.isPositive_fractional.mp (by simpa using hlate)
        have hearly : value x < value deadline :=
          not_le.mp (hremains ∘ sub_nonpos hdeadline hx hfinite)
        obtain ⟨hslept, hmoves⟩ := hinterval.moves hdeadline hfinite hreach hx hearly
        have hticks := ticks_lt_iff.mpr hearly
        have hticks' := ticks_lt_iff.mpr hmoves
        have hticks'' := ticks_le_of_value_le hle
        -- A try is left: without one the deadline would have come.
        obtain _ | polls := polls
        · omega
        exact sleep_concludes hclock hx hslept hle fun later hlater =>
          ih (hinterval.next hceiling) (Nat.lt_of_succ_lt_succ hpolls) hlater (by omega)

end Ending

/-- The deadline is finite, and the clock moves at each sleep until then. -/
structure InReach (start timeout period : Float) : Prop where
  finite : (start + timeout).isFinite = true
  known : period.isNaN = false
  moves : value (start + timeout) ≤ 2 ^ 53 * value period

namespace InReach

variable {setting : Setting Seconds W} {condition : Action Seconds W Bool}
variable {session : Session Seconds W} {start timeout period ceiling : Float}

theorem deadline_nonneg (h : InReach start timeout period) (hstart : 0 ≤ start)
    (htimeout : isPositive (Seconds.fractional timeout) = true) : 0 ≤ start + timeout := by
  have hnan : timeout.isNaN = false := by
    by_contra hnan
    have := isNaN_add (x := start) (Bool.of_not_eq_false hnan)
    exact absurd h.finite (not_isFinite_of_isNaN this)
  exact Double.add_nonneg hstart
    (nonneg_of_not_nonpos (Seconds.isPositive_fractional.mp htimeout) hnan)

theorem period_nonneg (h : InReach start timeout period)
    (hperiod : isPositive (Seconds.fractional period) = true) : 0 ≤ period :=
  nonneg_of_not_nonpos (Seconds.isPositive_fractional.mp hperiod) h.known

theorem await_concludes (h : InReach start timeout period) (hstart : 0 ≤ start)
    (htimeout : isPositive (Seconds.fractional timeout) = true)
    (hperiod : isPositive (Seconds.fractional period) = true)
    (hlimit : ticks (start + timeout) < setting.pollLimit)
    (hclock : session.clock = .fractional start) (hcondition : Proceeds setting condition) :
    Ends setting session
      (Patience.await ⟨.fractional timeout, .fractional period⟩ condition)
      fun _ outcome after => Concludes outcome ∧ after.IsPast start := by
  refine Ends.ofNow ?_
  rw [counted_of_fits Seconds.fits_fractional, pure_bind, hclock, Seconds.plus_fractional]
  exact Ends.ofSetting (poll_concludes hcondition (h.deadline_nonneg hstart htimeout)
    (h.period_nonneg hperiod) h.moves hlimit ⟨start, hclock, hstart, le_rfl⟩ (Nat.le_add_left ..))

theorem retry_await_concludes (h : InReach start timeout period) (hstart : 0 ≤ start)
    (htimeout : isPositive (Seconds.fractional timeout) = true)
    (hperiod : isPositive (Seconds.fractional period) = true)
    (hceiling : isPositive (Seconds.fractional ceiling) = true)
    (hbelow : below (Seconds.fractional ceiling) (Seconds.fractional period) = false)
    (hlimit : ticks (start + timeout) < setting.pollLimit)
    (hclock : session.clock = .fractional start) (hcondition : Proceeds setting condition) :
    Ends setting session
      (Escalation.await ⟨.fractional timeout, .fractional period, .fractional ceiling⟩ condition)
      fun _ outcome after => Concludes outcome ∧ after.IsPast start := by
  have hdeadline := h.deadline_nonneg hstart htimeout
  have hlasts : ∀ longer, ceiling < longer → LastsFor period ceiling := by
    intro longer hlonger
    have hnonneg := nonneg_of_lt hlonger (Seconds.isPositive_fractional.mp hceiling)
    refine ⟨hnonneg, not_lt.mp fun hlt => ?_⟩
    exact absurd ((lt_iff hnonneg (h.period_nonneg hperiod)).mpr hlt) (of_decide_eq_false hbelow)
  refine Ends.ofNow ?_
  rw [counted_of_fits Seconds.fits_fractional, pure_bind, hclock, Seconds.plus_fractional]
  exact Ends.ofSetting (retry_concludes hcondition hdeadline
    (value_lt_of_isFinite hdeadline h.finite) h.moves hlasts ⟨h.period_nonneg hperiod, le_rfl⟩
    hlimit ⟨start, hclock, hstart, le_rfl⟩ (Nat.le_add_left ..))

end InReach

/-! ## Waits that never end -/

section Endless

variable {τ : Type} [Timescale τ] {setting : Setting τ W} {condition : Action τ W Bool}

/-- Evaluated at one of these times the condition does not hold, and it is one of them again. -/
def Fruitless (setting : Setting τ W) (times : τ → Prop) (condition : Action τ W Bool) : Prop :=
  ∀ session, times session.clock → ∃ after, condition.run setting session = .ok false after ∧
    times after.clock

variable {times : τ → Prop} {deadline period : τ} {session : Session τ W}

theorem poll_unfinished (hcondition : Fruitless setting times condition)
    (hfits : Timescale.fits period = true)
    (hnever : ∀ time, times time → atMost deadline time = false ∧ times (plus time period))
    (limit : ℕ) (hclock : times session.clock) :
    ∃ after, (Patience.poll deadline period condition limit).run setting session =
      .error .unfinished after := by
  induction limit generalizing session with
  | zero => exact ⟨session, rfl⟩
  | succ limit ih =>
    obtain ⟨between, hrun, hbetween⟩ :=
      hcondition { session with trace := session.trace.push .polled } hclock
    obtain ⟨hearly, hslept⟩ := hnever _ hbetween
    let awake : Session τ W := {
      between with
      clock := plus between.clock period
      trace := between.trace.push (.slept period) }
    obtain ⟨after, hafter⟩ := ih (show times awake.clock from hslept)
    refine ⟨after, ?_⟩
    rw [Patience.poll, run_bind, run_record]
    dsimp only
    rw [run_bind, hrun]
    simp only [Bool.false_eq_true, if_false]
    rw [run_bind, run_now]
    simp only [hearly, Bool.false_eq_true, if_false]
    rw [run_bind, run_sleep _ _ hfits]
    exact hafter

theorem retry_unfinished (intervals : τ → Prop) {ceiling interval : τ}
    (hcondition : Fruitless setting times condition)
    (hnever : ∀ interval time, intervals interval → times time →
      isPositive (minus deadline time) = true ∧ Timescale.fits interval = true ∧
        Timescale.fits (shorter interval (minus deadline time)) = true ∧
        times (plus time (shorter interval (minus deadline time))) ∧
        intervals (shorter (lengthened interval) ceiling))
    (limit : ℕ) (hinterval : intervals interval) (hclock : times session.clock) :
    ∃ after, (Escalation.retry deadline ceiling interval condition limit).run setting session =
      .error .unfinished after := by
  induction limit generalizing session interval with
  | zero => exact ⟨session, rfl⟩
  | succ limit ih =>
    obtain ⟨between, hrun, hbetween⟩ :=
      hcondition { session with trace := session.trace.push .polled } hclock
    obtain ⟨hremains, hfits, hfits', hslept, hlonger⟩ := hnever _ _ hinterval hbetween
    let awake : Session τ W := {
      between with
      clock := plus between.clock (shorter interval (minus deadline between.clock))
      trace := between.trace.push (.slept (shorter interval (minus deadline between.clock))) }
    obtain ⟨after, hafter⟩ := ih hlonger (show times awake.clock from hslept)
    refine ⟨after, ?_⟩
    rw [Escalation.retry, run_bind, run_record]
    dsimp only
    rw [run_bind, hrun]
    simp only [Bool.false_eq_true, if_false]
    rw [run_bind, run_now]
    simp only [hremains, Bool.not_true, Bool.false_eq_true, if_false]
    rw [run_bind, run_sleep _ _ hfits', counted_of_fits hfits, pure_bind]
    exact hafter

end Endless

section Deadlines

variable {setting : Setting Seconds W} {condition : Action Seconds W Bool}
variable {session : Session Seconds W} {start timeout period ceiling : Float}

/-- The times that a clock of floating point numbers shows. -/
def IsShown (time : Seconds) : Prop := ∃ x, time = .fractional x

/-- The times before infinity. -/
def IsFinite (time : Seconds) : Prop :=
  ∃ x, time = .fractional x ∧ 0 ≤ x ∧ value x < 2 ^ (1024 : ℤ)

/-- The times that are numbers. -/
def IsTime (time : Seconds) : Prop := ∃ x, time = .fractional x ∧ 0 ≤ x

theorem run_await (hclock : session.clock = .fractional start) :
    (Patience.await ⟨.fractional timeout, .fractional period⟩ condition).run setting session =
      (Patience.poll (.fractional (start + timeout)) (.fractional period) condition
        setting.pollLimit).run setting session := by
  rw [Patience.await, run_bind, run_now]
  dsimp only
  rw [counted_of_fits Seconds.fits_fractional, pure_bind, hclock, Seconds.plus_fractional, run_bind,
    run_setting]
  rfl

theorem run_retry_await (hclock : session.clock = .fractional start) :
    (Escalation.await ⟨.fractional timeout, .fractional period, .fractional ceiling⟩
      condition).run setting session =
      (Escalation.retry (.fractional (start + timeout)) (.fractional ceiling) (.fractional period)
        condition setting.pollLimit).run setting session := by
  rw [Escalation.await, run_bind, run_now]
  dsimp only
  rw [counted_of_fits Seconds.fits_fractional, pure_bind, hclock, Seconds.plus_fractional, run_bind,
    run_setting]
  rfl

theorem await_unfinished_of_isNaN (hcondition : Fruitless setting IsShown condition)
    (hclock : session.clock = .fractional start) (htimeout : timeout.isNaN = true) :
    ∃ after, (Patience.await ⟨.fractional timeout, .fractional period⟩ condition).run setting
      session = .error .unfinished after := by
  have hdeadline : (start + timeout).isNaN = true := isNaN_add htimeout
  rw [run_await hclock]
  refine poll_unfinished hcondition Seconds.fits_fractional ?_ _ ⟨start, hclock⟩
  rintro _ ⟨x, rfl⟩
  rw [Seconds.plus_fractional]
  exact ⟨decide_eq_false (not_le_of_isNaN hdeadline), _, rfl⟩

theorem retry_await_unfinished_of_isNaN (hcondition : Fruitless setting IsShown condition)
    (hclock : session.clock = .fractional start) (htimeout : timeout.isNaN = true) :
    ∃ after, (Escalation.await ⟨.fractional timeout, .fractional period, .fractional ceiling⟩
      condition).run setting session = .error .unfinished after := by
  have hdeadline : (start + timeout).isNaN = true := isNaN_add htimeout
  rw [run_retry_await hclock]
  refine retry_unfinished IsShown hcondition ?_ _ ⟨period, rfl⟩ ⟨start, hclock⟩
  rintro _ _ ⟨interval, rfl⟩ ⟨x, rfl⟩
  rw [Seconds.minus_fractional, Seconds.shorter_fractional, Seconds.plus_fractional,
    Seconds.lengthened_fractional, Seconds.shorter_fractional]
  exact ⟨Seconds.isPositive_fractional.mpr (not_le_of_isNaN (isNaN_sub hdeadline)), rfl, rfl,
    ⟨_, rfl⟩, _, rfl⟩

theorem await_unfinished_of_infinite (hcondition : Fruitless setting IsFinite condition)
    (hstart : 0 ≤ start) (hfinite : value start < 2 ^ (1024 : ℤ))
    (hclock : session.clock = .fractional start) (htimeout : 0 ≤ timeout)
    (hinf : value timeout = 2 ^ (1024 : ℤ)) (hperiod : 0 ≤ period)
    (hshort : value period < 2 ^ (970 : ℤ)) :
    ∃ after, (Patience.await ⟨.fractional timeout, .fractional period⟩ condition).run setting
      session = .error .unfinished after := by
  have hdeadline := value_add_of_infinite hstart htimeout hinf
  rw [run_await hclock]
  refine poll_unfinished hcondition Seconds.fits_fractional ?_ _ ⟨start, hclock, hstart, hfinite⟩
  rintro _ ⟨x, rfl, hx, hbefore⟩
  rw [Seconds.plus_fractional]
  refine ⟨decide_eq_false fun hle => ?_, _, rfl, Double.add_nonneg hx hperiod,
    value_add_lt hx hperiod hbefore hshort⟩
  have := (le_iff (Double.add_nonneg hstart htimeout) hx).mp hle
  rw [hdeadline] at this
  exact absurd hbefore this.not_gt

theorem retry_await_unfinished_of_infinite (hcondition : Fruitless setting IsTime condition)
    (hstart : 0 ≤ start) (hclock : session.clock = .fractional start) (htimeout : 0 ≤ timeout)
    (hinf : value timeout = 2 ^ (1024 : ℤ)) (hperiod : 0 ≤ period)
    (hceiling : isPositive (Seconds.fractional ceiling) = true) :
    ∃ after, (Escalation.await ⟨.fractional timeout, .fractional period, .fractional ceiling⟩
      condition).run setting session = .error .unfinished after := by
  have hdeadline := value_add_of_infinite hstart htimeout hinf
  have hdeadline' := Double.add_nonneg hstart htimeout
  rw [run_retry_await hclock]
  refine retry_unfinished IsTime hcondition ?_ _ ⟨period, rfl, hperiod⟩ ⟨start, hclock, hstart⟩
  rintro _ _ ⟨interval, rfl, hinterval⟩ ⟨x, rfl, hx⟩
  have hremains := not_sub_nonpos_of_infinite hdeadline' hx hdeadline
  rw [Seconds.minus_fractional, Seconds.shorter_fractional, Seconds.plus_fractional,
    Seconds.lengthened_fractional, Seconds.shorter_fractional]
  refine ⟨Seconds.isPositive_fractional.mpr hremains, rfl, rfl,
    ⟨_, rfl, Double.add_nonneg hx ?_⟩, _, rfl, ?_⟩
  · split
    next hlt => exact nonneg_of_lt hlt hremains
    next => exact hinterval
  · split
    next hlt => exact nonneg_of_lt hlt (Seconds.isPositive_fractional.mp hceiling)
    next => exact (value_le_mul_growth hinterval).1

end Deadlines

end Reclaim
