import Mathlib.Algebra.Order.Field.Power
import Mathlib.Tactic.FieldSimp
import Mathlib.Tactic.Linarith
import Mathlib.Tactic.Ring

/-!
# Rounding to 53 bits

A floating point number is `m * 2 ^ e`, and a result that needs too many bits is rounded to the
nearest number that has 53 of them, or fewer at the least exponent. The result is never further
away than half a unit of its last place, so it is not below any number of that form that the exact
value reaches.
-/

namespace Reclaim.Double

open Float.Model Float.Model.UnpackedFloat

/-! ## Residual bits -/

/-- What the mantissa and the round bit spell. -/
def spelled (em : ExtendedMantissa) : ℚ := em.mantissa + if em.roundBit then 1 / 2 else 0

/-- The residual bits place a number among the multiples of a half: it is what the mantissa and the
round bit spell unless the sticky bit is set, and then it is above by less than a half. -/
structure Represents (em : ExtendedMantissa) (x : ℚ) : Prop where
  below : spelled em ≤ x
  above : x < spelled em + 1 / 2
  sticky : em.stickyBit = false ↔ x = spelled em

namespace Represents

variable {em : ExtendedMantissa} {x : ℚ}

theorem exact (m : ℕ) : Represents (.ofMantissaAndAccuracy m .exact) m where
  below := by simp [spelled, ExtendedMantissa.ofMantissaAndAccuracy]
  above := by norm_num [spelled, ExtendedMantissa.ofMantissaAndAccuracy]
  sticky := by simp [spelled, ExtendedMantissa.ofMantissaAndAccuracy]

theorem mantissa_le (h : Represents em x) : em.mantissa ≤ x := by
  have hbelow := h.below
  unfold spelled at hbelow
  split at hbelow <;> linarith

theorem lt_mantissa_add_one (h : Represents em x) : x < em.mantissa + 1 := by
  have habove := h.above
  unfold spelled at habove
  split at habove <;> linarith

theorem eq_mantissa_iff (h : Represents em x) :
    x = em.mantissa ↔ em.roundBit = false ∧ em.stickyBit = false := by
  have hbelow := h.below
  rw [h.sticky]
  unfold spelled at hbelow ⊢
  cases hround : em.roundBit with
  | false => simp
  | true =>
    rw [hround, if_pos rfl] at hbelow
    refine iff_of_false (fun heq => ?_) (by simp)
    linarith

theorem spelled_shiftRightOne (em : ExtendedMantissa) :
    spelled em.shiftRightOne = em.mantissa / 2 := by
  have hparts : (em.mantissa : ℚ) = 2 * (em.mantissa / 2 : ℕ) + (em.mantissa % 2 : ℕ) := by
    exact_mod_cast (Nat.div_add_mod em.mantissa 2).symm
  rcases Nat.mod_two_eq_zero_or_one em.mantissa with hodd | hodd <;> rw [hodd] at hparts <;>
    simp only [spelled, ExtendedMantissa.shiftRightOne, hodd] <;> norm_num at hparts ⊢ <;> linarith

theorem shiftRightOne (h : Represents em x) : Represents em.shiftRightOne (x / 2) where
  below := by
    rw [spelled_shiftRightOne]
    linarith [h.mantissa_le]
  above := by
    rw [spelled_shiftRightOne]
    linarith [h.lt_mantissa_add_one]
  sticky := by
    rw [spelled_shiftRightOne, div_left_inj' two_ne_zero, h.eq_mantissa_iff]
    exact Bool.or_eq_false_iff

theorem shiftRight (h : Represents em x) (n : ℕ) : Represents (em >>> n) (x / 2 ^ n) := by
  induction n with
  | zero =>
    rw [pow_zero, div_one]
    exact h
  | succ n ih =>
    rw [pow_succ, ← div_div]
    exact ih.shiftRightOne

/-- The rounded mantissa is at most half a unit away. -/
theorem abs_roundedMantissa_sub_le (h : Represents em x) : |em.roundedMantissa - x| ≤ 1 / 2 := by
  obtain ⟨hbelow, habove, hsticky⟩ := h
  obtain ⟨m, round, sticky⟩ := em
  rw [abs_le]
  cases round with
  | false =>
    have hrounded : ExtendedMantissa.roundedMantissa ⟨m, false, sticky⟩ = m := by
      cases sticky <;> rfl
    simp only [spelled, Bool.false_eq_true, if_false, add_zero] at hbelow habove
    rw [hrounded]
    constructor <;> linarith
  | true =>
    simp only [spelled, if_true] at hbelow habove hsticky
    cases sticky with
    | false =>
      have hrounded : ExtendedMantissa.roundedMantissa ⟨m, true, false⟩ = m + m % 2 := rfl
      have hparity : ((m % 2 : ℕ) : ℚ) ≤ 1 := by
        exact_mod_cast Nat.lt_succ_iff.mp (m.mod_lt two_pos)
      rw [hrounded, hsticky.mp rfl, Nat.cast_add]
      constructor <;> linarith [(m % 2).cast_nonneg (α := ℚ)]
    | true =>
      have hrounded : ExtendedMantissa.roundedMantissa ⟨m, true, true⟩ = m + 1 := rfl
      rw [hrounded, Nat.cast_add, Nat.cast_one]
      constructor <;> linarith

end Represents

/-! ## The place of the last bit -/

/-- The exponent at which a number has 53 bits, or the least one. -/
theorem targetExponent_eq (m : ℕ) (e : ℤ) :
    Format.binary64.targetExponent (totalExponent m e) = max (m.log2 + e - 52) (-1074) := by
  have hmin : Format.binary64.minExponent = -1074 := rfl
  have hbits : Format.binary64.mantissaBits = 53 := rfl
  rw [Format.targetExponent, totalExponent, hmin, hbits]
  congr 1
  push_cast
  ring

theorem shiftToTargetExponent_eq {m : ℕ} {e t : ℤ} (h : max (m.log2 + e - 52) (-1074) = t)
    (hle : e ≤ t) : shiftToTargetExponent .binary64 m e .exact =
      (ExtendedMantissa.ofMantissaAndAccuracy m .exact >>> (t - e).toNat, t) := by
  rw [shiftToTargetExponent, targetExponent_eq, h, shiftToExponent]
  congr 1
  omega

theorem shiftToTargetExponent_of_lt {m : ℕ} {e : ℤ} (hm : m < 2 ^ 53)
    (he : e = -1074 ∨ -1074 ≤ e ∧ 2 ^ 52 ≤ m) : shiftToTargetExponent .binary64 m e .exact =
      (ExtendedMantissa.ofMantissaAndAccuracy m .exact, e) := by
  have hwidth : m.log2 ≤ 52 := by
    rcases Nat.eq_zero_or_pos m with rfl | hpos
    · decide
    · exact Nat.lt_succ_iff.mp ((Nat.log2_lt hpos.ne').mpr hm)
  have hplace : max ((m.log2 : ℤ) + e - 52) (-1074) = e := by
    rcases he with he | ⟨he, hfull⟩
    · omega
    · have := (Nat.le_log2 (by omega)).mpr hfull
      omega
  rw [shiftToTargetExponent_eq hplace le_rfl, sub_self]
  rfl

theorem shiftToTargetExponent_two_pow {e : ℤ} (he : -1074 ≤ e) :
    shiftToTargetExponent .binary64 (2 ^ 53) e .exact =
      (ExtendedMantissa.ofMantissaAndAccuracy (2 ^ 52) .exact, e + 1) := by
  have hplace : max (((2 ^ 53 : ℕ).log2 : ℤ) + e - 52) (-1074) = e + 1 := by
    rw [Nat.log2_two_pow]
    omega
  rw [shiftToTargetExponent_eq hplace (by omega), add_sub_cancel_left]
  rfl

/-! ## The nearest number -/

/-- The multiple `f * 2 ^ t` of the last bit's place is nearest to `x`, which needs 53 bits at this
place, or fewer at the least one. -/
structure Nearest (x : ℚ) (f : ℕ) (t : ℤ) : Prop where
  least : -1074 ≤ t
  width : f ≤ 2 ^ 53
  near : |f * 2 ^ t - x| ≤ 2 ^ t / 2
  scale : x < 2 ^ (t + 53)
  full : t = -1074 ∨ 2 ^ (t + 52) ≤ x

/-- The number `f * 2 ^ t`, with its mantissa brought back to 53 bits. -/
def placed (sign : Sign) (f : ℕ) (t : ℤ) : UnpackedFloat :=
  if hzero : f = 0 then .zero sign
  else if f < 2 ^ 53 then .finite sign f t (Nat.pos_of_ne_zero hzero)
  else .finite sign (2 ^ 52) (t + 1) (by decide)

namespace Nearest

variable {x : ℚ} {f : ℕ} {t : ℤ}

theorem le_mantissa (h : Nearest x f t) (hfull : 2 ^ (t + 52) ≤ x) : 2 ^ 52 ≤ f := by
  have hunit : (0 : ℚ) < 2 ^ t := by positivity
  have hnear := (abs_le.mp h.near).1
  rw [zpow_add₀ two_ne_zero] at hfull
  have hlt : (2 ^ 52 - 1 : ℚ) < f := by
    by_contra hle
    nlinarith
  have hlt' : 2 ^ 52 < f + 1 := by exact_mod_cast (by linarith : (2 ^ 52 : ℚ) < f + 1)
  omega

/-- What the exact value comes closer to than half a unit, the rounded one reaches. -/
theorem reaches (h : Nearest x f t) {k : ℕ} {q : ℤ} (hk : k ≤ 2 ^ 53) (hq : -1074 ≤ q)
    (hfull : q = -1074 ∨ 2 ^ (q + 52) ≤ x) (hx : (k - 1 / 2) * 2 ^ q < x) :
    (k * 2 ^ q : ℚ) ≤ f * 2 ^ t := by
  rcases lt_trichotomy q t with hlt | rfl | hlt
  · have hwide : (2 : ℚ) ^ 52 ≤ f := by
      exact_mod_cast h.le_mantissa (h.full.resolve_left (by have := h.least; omega))
    calc (k * 2 ^ q : ℚ) ≤ 2 ^ 53 * 2 ^ q := by gcongr; exact_mod_cast hk
      _ = 2 ^ 52 * 2 ^ (q + 1) := by rw [zpow_add_one₀ two_ne_zero]; ring
      _ ≤ f * 2 ^ t := by gcongr; norm_num; omega
  · have hunit : (0 : ℚ) < 2 ^ q := by positivity
    have hnear := (abs_le.mp h.near).1
    have hlt : (k : ℚ) < f + 1 := by
      by_contra hle
      nlinarith
    have hle : k ≤ f := Nat.lt_succ_iff.mp (by exact_mod_cast hlt)
    gcongr
  · -- The exact value needs more than 53 bits at the place of the rounded one.
    have hle := (hfull.resolve_left (by have := h.least; omega)).trans_lt h.scale
    have := (zpow_lt_zpow_iff_right₀ (one_lt_two (α := ℚ))).mp hle
    omega

end Nearest

/-! ## Rounding gives it -/

theorem Represents.nearest {em : ExtendedMantissa} {m n : ℕ} {e : ℤ}
    (h : Represents em (m / 2 ^ n)) (hm : 0 < m)
    (hplace : max (m.log2 + e - 52) (-1074) = e + n) :
    Nearest (m * 2 ^ e) em.roundedMantissa (e + n) := by
  have hunit : (0 : ℚ) < 2 ^ (e + n) := by positivity
  have hvalue : (m * 2 ^ e : ℚ) = m / 2 ^ n * 2 ^ (e + n) := by
    rw [zpow_add₀ two_ne_zero, zpow_natCast]
    field_simp
  have hlog : (2 ^ (m.log2 : ℤ) : ℚ) ≤ m := by
    exact_mod_cast Nat.log2_self_le hm.ne'
  have hlog' : (m : ℚ) < 2 ^ (m.log2 + 1 : ℤ) := by
    exact_mod_cast Nat.lt_log2_self
  have hscale : (m * 2 ^ e : ℚ) < 2 ^ (e + n + 53) :=
    calc (m * 2 ^ e : ℚ) < 2 ^ (m.log2 + 1 : ℤ) * 2 ^ e := by gcongr
      _ = 2 ^ (m.log2 + 1 + e : ℤ) := (zpow_add₀ two_ne_zero ..).symm
      _ ≤ 2 ^ (e + n + 53) := zpow_le_zpow_right₀ one_le_two (by omega)
  refine ⟨by omega, ?_, ?_, hscale, ?_⟩
  · have hclose := (abs_le.mp h.abs_roundedMantissa_sub_le).2
    rw [hvalue, add_comm (e + (n : ℤ)) 53, zpow_add₀ two_ne_zero 53] at hscale
    have hlt : (m / 2 ^ n : ℚ) < 2 ^ 53 := by exact_mod_cast lt_of_mul_lt_mul_right hscale hunit.le
    have hwidth : (em.roundedMantissa : ℚ) < 2 ^ 53 + 1 := by linarith
    exact Nat.lt_succ_iff.mp (by exact_mod_cast hwidth)
  · rw [hvalue, ← sub_mul, abs_mul, abs_of_pos hunit, div_eq_inv_mul (2 ^ (e + n : ℤ) : ℚ),
      ← one_div]
    exact mul_le_mul_of_nonneg_right h.abs_roundedMantissa_sub_le hunit.le
  · by_cases hleast : e + n = -1074
    · exact .inl hleast
    · right
      calc (2 : ℚ) ^ (e + n + 52) = 2 ^ (m.log2 + e : ℤ) := by congr 1; omega
        _ = 2 ^ (m.log2 : ℤ) * 2 ^ e := zpow_add₀ two_ne_zero ..
        _ ≤ m * 2 ^ e := by gcongr

/-- The second shift of a rounding only brings a mantissa back that became too wide. -/
theorem roundWithAccuracy_eq_placed {em : ExtendedMantissa} {x : ℚ} {sign : Sign} {m : ℕ} {e t : ℤ}
    (hshift : shiftToTargetExponent .binary64 m e .exact = (em, t))
    (h : Nearest x em.roundedMantissa t) :
    roundWithAccuracy .binary64 sign m e .exact = placed sign em.roundedMantissa t := by
  rw [roundWithAccuracy, hshift]
  dsimp only
  rcases h.width.lt_or_eq with hlt | heq
  · have hfull : t = -1074 ∨ -1074 ≤ t ∧ 2 ^ 52 ≤ em.roundedMantissa :=
      h.full.imp id fun hfull => ⟨h.least, h.le_mantissa hfull⟩
    rw [shiftToTargetExponent_of_lt hlt hfull]
    exact dite_congr rfl (fun _ => rfl) fun _ => (if_pos hlt).symm
  · rw [heq, shiftToTargetExponent_two_pow h.least]
    rfl

/-- Rounding gives the nearest number, unless bits are missing at the end. -/
theorem roundWithAccuracy_nearest (sign : Sign) {m : ℕ} {e : ℤ} (hm : 0 < m)
    (he : e ≤ -1074 ∨ 52 ≤ m.log2) :
    ∃ f t, Nearest (m * 2 ^ e) f t ∧
      roundWithAccuracy .binary64 sign m e .exact = placed sign f t := by
  obtain ⟨n, hplace⟩ : ∃ n : ℕ, max ((m.log2 : ℤ) + e - 52) (-1074) = e + n :=
    ⟨(max ((m.log2 : ℤ) + e - 52) (-1074) - e).toNat, by omega⟩
  have hshift := shiftToTargetExponent_eq hplace (by omega)
  rw [add_sub_cancel_left, Int.toNat_natCast] at hshift
  have hnearest := ((Represents.exact m).shiftRight n).nearest hm hplace
  exact ⟨_, _, hnearest, roundWithAccuracy_eq_placed hshift hnearest⟩

theorem round_nearest (sign : Sign) {m : ℕ} (e : ℤ) (hm : 0 < m) :
    ∃ f t, Nearest (m * 2 ^ e) f t ∧ UnpackedFloat.round .binary64 sign m e = placed sign f t := by
  -- Zeros at the end are added as far as the place of the last bit.
  obtain ⟨n, hn⟩ : ∃ n : ℕ, (e - max ((m.log2 : ℤ) + e - 52) (-1074)).toNat = n := ⟨_, rfl⟩
  have hlog : (m * 2 ^ n).log2 = m.log2 + n := by
    obtain ⟨hle, hlt⟩ := (Nat.log2_eq_iff hm.ne').mp rfl
    refine (Nat.log2_eq_iff (by positivity)).mpr ⟨?_, ?_⟩
    · rw [pow_add]
      gcongr
    · rw [add_right_comm, pow_add]
      gcongr
  have hround : UnpackedFloat.round .binary64 sign m e =
      roundWithAccuracy .binary64 sign (m * 2 ^ n) (e - n) .exact := by
    rw [UnpackedFloat.round, targetExponent_eq, decreaseExponent, hn, Nat.shiftLeft_eq]
  have hvalue : (m * 2 ^ e : ℚ) = (m * 2 ^ n : ℕ) * 2 ^ (e - n) := by
    rw [zpow_sub₀ two_ne_zero, zpow_natCast]
    push_cast
    field_simp
  rw [hround, hvalue]
  exact roundWithAccuracy_nearest sign (by positivity) (by omega)

end Reclaim.Double
