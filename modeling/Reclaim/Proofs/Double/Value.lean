import Mathlib
import Reclaim.Decimal.Binary
import Reclaim.Proofs.Double.Rounding

/-!
# Exact values of floating point numbers

Numbers that are not negative are ordered as their exact values are. A result that is out of range
becomes infinity, which counts as the power of two behind the finite numbers. The library's lemmas
on packed numbers come only with the library as a whole.
-/

namespace Reclaim.Double

open Float.Model Float.Model.UnpackedFloat

/-! ## Parts -/

/-- The exact value without the sign. -/
def magnitude : UnpackedFloat → ℚ
  | .infinity _ => 2 ^ (1024 : ℤ)
  | .notANumber | .zero _ => 0
  | .finite _ m e _ => m * 2 ^ e

def IsNonneg : UnpackedFloat → Prop
  | .infinity sign | .finite sign .. => sign = .positive
  | .zero _ => True
  | .notANumber => False

def IsNonpos : UnpackedFloat → Prop
  | .infinity sign | .finite sign .. => sign = .negative
  | .zero _ => True
  | .notANumber => False

/-- The mantissa has 53 bits, or fewer at the least exponent. -/
def IsCanonical : UnpackedFloat → Prop
  | .finite _ m e _ => m < 2 ^ 53 ∧ (e = -1074 ∨ -1074 ≤ e ∧ 2 ^ 52 ≤ m)
  | _ => True

/-- The exponent is not too large for a finite number. -/
def IsInRange : UnpackedFloat → Prop
  | .finite _ _ e _ => e ≤ 971
  | _ => True

section Placed

variable {x : ℚ} {f : ℕ} {t : ℤ} {sign : Sign}

theorem magnitude_placed (h : f ≤ 2 ^ 53) : magnitude (placed sign f t) = f * 2 ^ t := by
  unfold placed
  split
  next hzero => simp [magnitude, hzero]
  next =>
    split
    next => rfl
    next hwide =>
      obtain rfl : f = 2 ^ 53 := by omega
      rw [magnitude, zpow_add_one₀ two_ne_zero]
      push_cast
      ring

theorem Nearest.isCanonical (h : Nearest x f t) : IsCanonical (placed sign f t) := by
  unfold placed
  split
  next => trivial
  next =>
    split
    next hlt => exact ⟨hlt, h.full.imp id fun hfull => ⟨h.least, h.le_mantissa hfull⟩⟩
    next => exact ⟨by norm_num, .inr ⟨by have := h.least; omega, le_rfl⟩⟩

theorem isNonneg_placed : IsNonneg (placed .positive f t) := by
  unfold placed
  split
  next => trivial
  next => split <;> rfl

theorem isNonpos_placed : IsNonpos (placed .negative f t) := by
  unfold placed
  split
  next => trivial
  next => split <;> rfl

end Placed

/-! ## Order -/

theorem finite_lt_of_lt {m m' : ℕ} {e e' : ℤ} (hm : m < 2 ^ 53) (hm' : 2 ^ 52 ≤ m') (he : e < e') :
    (m * 2 ^ e : ℚ) < m' * 2 ^ e' :=
  calc (m * 2 ^ e : ℚ) < 2 ^ 53 * 2 ^ e := by gcongr; exact_mod_cast hm
    _ = 2 ^ 52 * 2 ^ (e + 1) := by rw [zpow_add_one₀ two_ne_zero]; ring
    _ ≤ m' * 2 ^ e' := by
      gcongr
      · exact_mod_cast hm'
      · exact one_le_two
      · omega

theorem finite_lt_two_pow {m : ℕ} {e : ℤ} (hm : m < 2 ^ 53) (he : e ≤ 971) :
    (m * 2 ^ e : ℚ) < 2 ^ (1024 : ℤ) :=
  calc (m * 2 ^ e : ℚ) < 2 ^ (53 : ℤ) * 2 ^ e := by gcongr; exact_mod_cast hm
    _ = 2 ^ (53 + e) := (zpow_add₀ two_ne_zero ..).symm
    _ ≤ 2 ^ (1024 : ℤ) := zpow_le_zpow_right₀ one_le_two (by omega)

theorem two_pow_le_finite {m : ℕ} {e : ℤ} (hm : 2 ^ 52 ≤ m) (he : 971 < e) :
    (2 ^ (1024 : ℤ) : ℚ) ≤ m * 2 ^ e :=
  calc (2 ^ (1024 : ℤ) : ℚ) ≤ 2 ^ (52 + e) := zpow_le_zpow_right₀ one_le_two (by omega)
    _ = 2 ^ (52 : ℤ) * 2 ^ e := zpow_add₀ two_ne_zero ..
    _ ≤ m * 2 ^ e := by gcongr; exact_mod_cast hm

theorem compare_finite {m m' : ℕ} {e e' : ℤ} {hm : 0 < m} {hm' : 0 < m'}
    (hcm : IsCanonical (.finite .positive m e hm))
    (hcm' : IsCanonical (.finite .positive m' e' hm')) :
    (compare e e').then (compare m m') = compare (m * 2 ^ e : ℚ) (m' * 2 ^ e') := by
  obtain ⟨hwidth, hplace⟩ := hcm
  obtain ⟨hwidth', hplace'⟩ := hcm'
  rcases lt_trichotomy e e' with hlt | rfl | hgt
  · rw [compare_lt_iff_lt.mpr hlt]
    exact (compare_lt_iff_lt.mpr (finite_lt_of_lt hwidth (by omega) hlt)).symm
  · rw [compare_eq_iff_eq.mpr (rfl : e = e)]
    have hunit : (0 : ℚ) < 2 ^ e := by positivity
    rcases lt_trichotomy m m' with hlt | rfl | hgt
    · have hlt' : (m * 2 ^ e : ℚ) < m' * 2 ^ e := by gcongr
      rw [compare_lt_iff_lt.mpr hlt, compare_lt_iff_lt.mpr hlt']
      rfl
    · rw [compare_eq_iff_eq.mpr (rfl : m = m), compare_eq_iff_eq.mpr rfl]
      rfl
    · have hgt' : (m' * 2 ^ e : ℚ) < m * 2 ^ e := by gcongr
      rw [compare_gt_iff_gt.mpr hgt, compare_gt_iff_gt.mpr hgt']
      rfl
  · rw [compare_gt_iff_gt.mpr hgt]
    exact (compare_gt_iff_gt.mpr (finite_lt_of_lt hwidth' (by omega) hgt)).symm

variable {a b : UnpackedFloat}

theorem magnitude_nonneg (a : UnpackedFloat) : 0 ≤ magnitude a := by
  cases a <;> simp only [magnitude] <;> positivity

theorem magnitude_le (hc : IsCanonical a) (hr : IsInRange a) : magnitude a ≤ 2 ^ (1024 : ℤ) := by
  cases a with
  | infinity sign => exact le_rfl
  | finite sign m e hm => exact (finite_lt_two_pow hc.1 hr).le
  | _ => exact zpow_nonneg zero_le_two _

theorem compare_eq (ha : IsNonneg a) (hb : IsNonneg b) (hca : IsCanonical a) (hcb : IsCanonical b)
    (hra : IsInRange a) (hrb : IsInRange b) :
    a.compare b = some (compare (magnitude a) (magnitude b)) := by
  have hinf : (0 : ℚ) < 2 ^ (1024 : ℤ) := by positivity
  cases a with
  | notANumber => exact ha.elim
  | infinity sign =>
    cases ha
    cases b with
    | notANumber => exact hb.elim
    | infinity sign =>
      cases hb
      exact congrArg some (compare_eq_iff_eq.mpr rfl).symm
    | zero sign => exact congrArg some (compare_gt_iff_gt.mpr hinf).symm
    | finite sign m e hm =>
      exact congrArg some (compare_gt_iff_gt.mpr (finite_lt_two_pow hcb.1 hrb)).symm
  | zero sign =>
    cases b with
    | notANumber => exact hb.elim
    | infinity sign =>
      cases hb
      exact congrArg some (compare_lt_iff_lt.mpr hinf).symm
    | zero sign' => exact congrArg some (compare_eq_iff_eq.mpr rfl).symm
    | finite sign m e hm =>
      cases hb
      have hpos : (0 : ℚ) < m * 2 ^ e := by positivity
      exact congrArg some (compare_lt_iff_lt.mpr hpos).symm
  | finite sign m e hm =>
    cases ha
    cases b with
    | notANumber => exact hb.elim
    | infinity sign =>
      cases hb
      exact congrArg some (compare_lt_iff_lt.mpr (finite_lt_two_pow hca.1 hra)).symm
    | zero sign =>
      have hpos : (0 : ℚ) < m * 2 ^ e := by positivity
      exact congrArg some (compare_gt_iff_gt.mpr hpos).symm
    | finite sign m' e' hm' =>
      cases hb
      exact congrArg some (compare_finite hca hcb)

theorem le_zero {sign : Sign} (h : IsNonpos a) : a.le (.zero sign) = true := by
  cases a with
  | notANumber => exact h.elim
  | zero sign => rfl
  | infinity sign | finite sign m e hm =>
    cases h
    rfl

/-! ## Packing -/

/-- What is left of a number once it is packed. -/
def clipped : UnpackedFloat → UnpackedFloat
  | .finite sign m e hm => if e ≤ 971 then .finite sign m e hm else .infinity sign
  | u => u

theorem toNat_one_append (m : BitVec 52) : (1#1 ++ m).toNat = 2 ^ 52 + m.toNat := by
  rw [BitVec.toNat_append, ← Nat.shiftLeft_add_eq_or_of_lt m.isLt]
  rfl

/-- The words of numbers with 53 bits. -/
theorem unpack_normal {sign : Sign} {m k : ℕ} (hm : 2 ^ 52 ≤ m) (hwidth : m < 2 ^ 53)
    (hk : 1 ≤ k) (hrange : k < 2047) :
    UnpackedFloat.unpack .binary64 (packComponents .binary64 sign (BitVec.ofNat 11 k)
      (BitVec.ofNat 52 m)) = .finite sign m (k - 1075) (by omega) := by
  have hkey : (BitVec.ofNat 11 k).toNat = k := Nat.mod_eq_of_lt (by omega)
  have hmax : BitVec.ofNat 11 k ≠ -1#11 := fun heq => by
    have := congrArg BitVec.toNat heq
    rw [hkey] at this
    exact absurd this hrange.ne
  have hzero : BitVec.ofNat 11 k ≠ 0#11 := fun heq => by
    have := congrArg BitVec.toNat heq
    rw [hkey] at this
    exact absurd this (by rw [BitVec.toNat_zero]; omega)
  have hmantissa : (1#1 ++ BitVec.ofNat 52 m).toNat = m := by
    rw [toNat_one_append, BitVec.toNat_ofNat]
    omega
  simp only [UnpackedFloat.unpack, unpackExponent_packComponents, unpackMantissa_packComponents,
    unpackSign_packComponents, Sign.ofBitVec_toBitVec]
  rw [if_neg hmax, if_neg hzero]
  congr 1
  rw [hkey]
  rfl

/-- The words of numbers with fewer bits. -/
theorem unpack_subnormal {sign : Sign} {m : ℕ} (hm : 0 < m) (hwidth : m < 2 ^ 52) :
    UnpackedFloat.unpack .binary64 (packComponents .binary64 sign 0#11 (BitVec.ofNat 52 m)) =
      .finite sign m (-1074) hm := by
  have hmantissa : (BitVec.ofNat 52 m).toNat = m := Nat.mod_eq_of_lt hwidth
  have hzero : BitVec.ofNat 52 m ≠ 0#52 := fun heq => by
    have := congrArg BitVec.toNat heq
    rw [hmantissa] at this
    exact absurd this hm.ne'
  simp only [UnpackedFloat.unpack, unpackExponent_packComponents, unpackMantissa_packComponents,
    unpackSign_packComponents, Sign.ofBitVec_toBitVec]
  rw [if_neg (by decide), if_pos trivial, dif_neg hzero]
  congr 1

theorem unpack_pack (u : UnpackedFloat) (h : IsCanonical u) :
    (Float.Model.pack u).unpack = clipped u := by
  cases u with
  | notANumber => rfl
  | infinity sign => cases sign <;> rfl
  | zero sign => cases sign <;> rfl
  | finite sign m e hm =>
    obtain ⟨hwidth, hplace⟩ := h
    obtain ⟨k, hk⟩ : ∃ k : ℕ, e + 1075 = k := ⟨(e + 1075).toNat, by omega⟩
    have hbiased : (e + Format.binary64.exponentBias +
        Format.binary64.mantissaBitsWithoutImplicit).toNat = k := by
      change (e + 1023 + 52).toNat = k
      omega
    have hcapacity : 2 ^ Format.binary64.exponentBits = 2048 := rfl
    change UnpackedFloat.unpack .binary64 (UnpackedFloat.pack .binary64 _) = _
    rw [UnpackedFloat.pack, hbiased, clipped]
    by_cases hrange : e ≤ 971
    · rw [if_pos hrange, if_neg (by omega)]
      by_cases hfull : 2 ^ 52 ≤ m
      · have hlog : m.log2 + 1 = Format.binary64.mantissaBits := by
          rw [(Nat.log2_eq_iff hm.ne').mpr ⟨hfull, hwidth⟩]
          rfl
        rw [if_pos hlog, unpack_normal hfull hwidth (by omega) (by omega)]
        congr 1
        omega
      · have hlog : m.log2 + 1 ≠ Format.binary64.mantissaBits := by
          have := (Nat.log2_lt hm.ne').mpr (not_le.mp hfull)
          change m.log2 + 1 ≠ 53
          omega
        obtain rfl : e = -1074 := by omega
        rw [if_neg hlog]
        exact unpack_subnormal hm (not_le.mp hfull)
    · rw [if_neg hrange, if_pos (by omega)]
      cases sign <;> rfl

theorem magnitude_clipped {u : UnpackedFloat} (h : IsCanonical u) :
    magnitude (clipped u) = min (magnitude u) (2 ^ (1024 : ℤ)) := by
  have hinf : (0 : ℚ) ≤ 2 ^ (1024 : ℤ) := by positivity
  cases u with
  | notANumber => exact (min_eq_left hinf).symm
  | infinity sign => exact (min_self _).symm
  | zero sign => exact (min_eq_left hinf).symm
  | finite sign m e hm =>
    rw [clipped]
    split
    next hrange => exact (min_eq_left (finite_lt_two_pow h.1 hrange).le).symm
    next hrange =>
      exact (min_eq_right (two_pow_le_finite (by have := h.2; omega) (not_le.mp hrange))).symm

theorem isNonneg_clipped {u : UnpackedFloat} (h : IsNonneg u) : IsNonneg (clipped u) := by
  cases u with
  | finite sign m e hm =>
    rw [clipped]
    split <;> exact h
  | _ => exact h

theorem isNonpos_clipped {u : UnpackedFloat} (h : IsNonpos u) : IsNonpos (clipped u) := by
  cases u with
  | finite sign m e hm =>
    rw [clipped]
    split <;> exact h
  | _ => exact h

/-! ## Words -/

/-- The number with these fields of its word. -/
def ofFields (sign : Sign) (exponent fraction : ℕ) : UnpackedFloat :=
  if exponent = 2047 then if fraction = 0 then .infinity sign else .notANumber
  else if exponent = 0 then
    if hzero : fraction = 0 then .zero sign
    else .finite sign fraction (-1074) (Nat.pos_of_ne_zero hzero)
  else .finite sign (2 ^ 52 + fraction) (exponent - 1075) (by positivity)

theorem ofFields_finite (sign : Sign) {exponent fraction : ℕ} (hmax : exponent ≠ 2047)
    (hzero : ¬ (exponent = 0 ∧ fraction = 0)) :
    ∃ m e hm, ofFields sign exponent fraction = .finite sign m e hm := by
  rw [ofFields, if_neg hmax]
  by_cases hexponent : exponent = 0
  · rw [if_pos hexponent, dif_neg fun hfraction => hzero ⟨hexponent, hfraction⟩]
    exact ⟨_, _, _, rfl⟩
  · rw [if_neg hexponent]
    exact ⟨_, _, _, rfl⟩

theorem unpackSign_eq (x : Float.Model) : Sign.ofBitVec (@unpackSign .binary64 x.toBits.toBitVec) =
    if 2 ^ 63 ≤ x.toBits.toNat then .negative else .positive := by
  have hlt := x.toBits.toNat_lt
  have hsign : (@unpackSign .binary64 x.toBits.toBitVec).toNat = x.toBits.toNat / 2 ^ 63 % 2 := by
    simp [unpackSign, Nat.shiftRight_eq_div_pow]
  simp only [Sign.ofBitVec, ← BitVec.toNat_inj, hsign, BitVec.toNat_zero]
  split <;> split <;> first | rfl | omega

theorem unpack_eq_ofFields (x : Float.Model) :
    x.unpack = ofFields (if 2 ^ 63 ≤ x.toBits.toNat then .negative else .positive)
      (x.toBits.toNat / 2 ^ 52 % 2 ^ 11) (x.toBits.toNat % 2 ^ 52) := by
  rw [← unpackSign_eq]
  have hmantissa : (@unpackMantissa .binary64 x.toBits.toBitVec).toNat =
      x.toBits.toNat % 2 ^ 52 := by simp [unpackMantissa]
  have hexponent : (@unpackExponent .binary64 x.toBits.toBitVec).toNat =
      x.toBits.toNat / 2 ^ 52 % 2 ^ 11 := by simp [unpackExponent, Nat.shiftRight_eq_div_pow]
  have hbias : (Format.binary64.exponentBias + (52 : ℕ) : ℤ) = 1075 := rfl
  have hmax : (-1#11).toNat = 2047 := rfl
  rw [Float.Model.unpack, UnpackedFloat.unpack, ofFields, ← hmantissa, ← hexponent]
  simp only [← BitVec.toNat_inj, hmax, BitVec.toNat_zero, toNat_one_append, hbias]
  congr 1
  split
  next hzero =>
    simp only [hzero]
    rfl
  next => rfl

theorem ofFields_spec {sign : Sign} {exponent fraction : ℕ} (he : exponent < 2 ^ 11)
    (hf : fraction < 2 ^ 52) :
    IsCanonical (ofFields sign exponent fraction) ∧
      IsInRange (ofFields sign exponent fraction) := by
  unfold ofFields
  split
  next => split <;> exact ⟨trivial, trivial⟩
  next =>
    split
    next =>
      split
      next => exact ⟨trivial, trivial⟩
      next => exact ⟨⟨by omega, .inl rfl⟩, show (-1074 : ℤ) ≤ 971 by decide⟩
    next =>
      refine ⟨⟨by omega, .inr ⟨by omega, by omega⟩⟩, ?_⟩
      change (exponent - 1075 : ℤ) ≤ 971
      omega

theorem unpack_spec (x : Float.Model) : IsCanonical x.unpack ∧ IsInRange x.unpack := by
  rw [unpack_eq_ofFields]
  exact ofFields_spec (Nat.mod_lt _ (by positivity)) (Nat.mod_lt _ (by positivity))

/-- The exact value of a number that is not negative. Infinity counts as the power of two behind
the finite numbers. -/
def value (x : Float) : ℚ := (Decimal.Binary.ofFloat x).m * 2 ^ (Decimal.Binary.ofFloat x).q

theorem mantissa_eq_zero_iff {x : Float} : (Decimal.Binary.ofFloat x).m = 0 ↔
    x.toBits.toNat / 2 ^ 52 % 2 ^ 11 = 0 ∧ x.toBits.toNat % 2 ^ 52 = 0 := by
  rw [Decimal.Binary.ofFloat, Decimal.Binary.ofBits]
  split
  next hzero => exact (and_iff_right hzero).symm
  next hzero =>
    exact iff_of_false (Nat.ne_of_gt (Nat.add_pos_left (by decide) _)) fun h => hzero h.1

theorem ofFields_value {sign : Sign} {exponent fraction : ℕ}
    (h : ofFields sign exponent fraction ≠ .notANumber) :
    magnitude (ofFields sign exponent fraction) =
      if exponent = 0 then (fraction * 2 ^ (-1074 : ℤ) : ℚ)
      else (2 ^ 52 + fraction : ℕ) * 2 ^ (exponent - 1075 : ℤ) := by
  unfold ofFields at h ⊢
  split
  next hmax =>
    split
    next hzero =>
      subst hmax hzero
      have hlead : ((2 ^ 52 + 0 : ℕ) : ℚ) = 2 ^ (52 : ℤ) := by norm_cast
      rw [if_neg (by decide), hlead, ← zpow_add₀ two_ne_zero]
      rfl
    next hzero => exact absurd (by rw [if_pos hmax, if_neg hzero]) h
  next =>
    split
    next =>
      split
      next hzero => simp [magnitude, hzero]
      next => rfl
    next => rfl

theorem value_eq {x : Float} (h : x.toModel.unpack ≠ .notANumber) :
    value x = magnitude x.toModel.unpack := by
  rw [unpack_eq_ofFields] at h ⊢
  rw [ofFields_value h, value, Decimal.Binary.ofFloat]
  split
  next hzero =>
    have hbits : Decimal.Binary.ofBits x.toBits = ⟨x.toBits.toNat % 2 ^ 52, -1074, false⟩ :=
      if_pos hzero
    rw [hbits]
    rfl
  next hzero =>
    have hbits : Decimal.Binary.ofBits x.toBits = ⟨2 ^ 52 + x.toBits.toNat % 2 ^ 52, _, _⟩ :=
      if_neg hzero
    rw [hbits]
    rfl

end Reclaim.Double
