import Reclaim.Proofs.Double.Value

/-!
# Sums, differences and growth

A sum is not below what is added to, and is above it unless what is added is too small: less than
the part of it that 53 bits tell apart. A clock that counts in floating point numbers moves exactly
while its sleeps are not as small as that.
-/

namespace Reclaim.Double

open Float.Model Float.Model.UnpackedFloat

/-! ## The exact result and the nearest number -/

theorem normalize_pos {n : ℤ} (h : 0 < n) (e : ℤ) :
    ∃ f t, Nearest (n * 2 ^ e) f t ∧
      UnpackedFloat.normalize .binary64 n e .positive = placed .positive f t := by
  obtain ⟨n, rfl⟩ : ∃ m : ℕ, n = m := ⟨n.toNat, by omega⟩
  rw [UnpackedFloat.normalize, compare_gt_iff_gt.mpr h]
  exact round_nearest .positive e (by omega)

theorem normalize_nonpos {n : ℤ} (h : n ≤ 0) (e : ℤ) :
    IsCanonical (UnpackedFloat.normalize .binary64 n e .positive) ∧
      IsNonpos (UnpackedFloat.normalize .binary64 n e .positive) := by
  rw [UnpackedFloat.normalize]
  rcases h.lt_or_eq with hlt | rfl
  · rw [compare_lt_iff_lt.mpr hlt]
    obtain ⟨f, t, hnearest, hround⟩ := round_nearest .negative e (m := (-n).toNat) (by omega)
    dsimp only
    rw [hround]
    exact ⟨hnearest.isCanonical, isNonpos_placed⟩
  · exact ⟨trivial, trivial⟩

section Finite

variable {m m' : ℕ} {e e' : ℤ} {hm : 0 < m} {hm' : 0 < m'}

theorem shiftLeft_mul_two_pow {low : ℤ} (h : low ≤ e) :
    ((m <<< (e - low).toNat : ℕ) * 2 ^ low : ℚ) = m * 2 ^ e := by
  obtain ⟨n, rfl⟩ : ∃ n : ℕ, e = low + n := ⟨(e - low).toNat, by omega⟩
  rw [add_sub_cancel_left, Int.toNat_natCast, Nat.shiftLeft_eq, zpow_add₀ two_ne_zero, zpow_natCast]
  push_cast
  ring

theorem shiftLeft_pos (n : ℕ) (hm : 0 < m) : 0 < m <<< n := by
  rw [Nat.shiftLeft_eq]
  positivity

theorem add_finite (hm : 0 < m) (hm' : 0 < m') (e e' : ℤ) :
    ∃ f t, Nearest (m * 2 ^ e + m' * 2 ^ e') f t ∧
    add .binary64 (.finite .positive m e hm) (.finite .positive m' e' hm') =
      placed .positive f t := by
  have hpos : 0 < (m <<< (e - min e e').toNat : ℕ) + (m' <<< (e' - min e e').toNat : ℕ) :=
    Nat.add_pos_left (shiftLeft_pos _ hm) _
  have h := normalize_pos (Int.natCast_pos.mpr hpos) (min e e')
  rw [Int.cast_natCast, Nat.cast_add, add_mul, shiftLeft_mul_two_pow (min_le_left e e'),
    shiftLeft_mul_two_pow (min_le_right e e')] at h
  exact h

/-- The mantissas of a difference, brought to one exponent. -/
theorem sub_eq_normalize (hm : 0 < m) (hm' : 0 < m') (e e' : ℤ) :
    ∃ n : ℤ, (n * 2 ^ min e e' : ℚ) = m * 2 ^ e - m' * 2 ^ e' ∧
      sub .binary64 (.finite .positive m e hm) (.finite .positive m' e' hm') =
        UnpackedFloat.normalize .binary64 n (min e e') .positive := by
  refine ⟨(m <<< (e - min e e').toNat : ℕ) - (m' <<< (e' - min e e').toNat : ℕ), ?_, rfl⟩
  rw [Int.cast_sub, Int.cast_natCast, Int.cast_natCast, sub_mul,
    shiftLeft_mul_two_pow (min_le_left e e'), shiftLeft_mul_two_pow (min_le_right e e')]

theorem sub_finite (h : (m' * 2 ^ e' : ℚ) < m * 2 ^ e) :
    ∃ f t, Nearest (m * 2 ^ e - m' * 2 ^ e') f t ∧
      sub .binary64 (.finite .positive m e hm) (.finite .positive m' e' hm') =
        placed .positive f t := by
  obtain ⟨n, hvalue, hsub⟩ := sub_eq_normalize hm hm' e e'
  have hpos : (0 : ℚ) < n := pos_of_mul_pos_left (by linarith) (by positivity)
  rw [hsub, ← hvalue]
  exact normalize_pos (by exact_mod_cast hpos) _

theorem sub_finite_nonpos (h : (m * 2 ^ e : ℚ) ≤ m' * 2 ^ e') :
    IsCanonical (sub .binary64 (.finite .positive m e hm) (.finite .positive m' e' hm')) ∧
      IsNonpos (sub .binary64 (.finite .positive m e hm) (.finite .positive m' e' hm')) := by
  obtain ⟨n, hvalue, hsub⟩ := sub_eq_normalize hm hm' e e'
  have hle : (n : ℚ) ≤ 0 := nonpos_of_mul_nonpos_left (by linarith) (by positivity)
  rw [hsub]
  exact normalize_nonpos (by exact_mod_cast hle) _

end Finite

/-! ## What rounding keeps -/

section Kept

variable {x : ℚ} {f m : ℕ} {t e : ℤ} {sign : Sign} {hm : 0 < m}

theorem Nearest.le_of_le (h : Nearest x f t) (hc : IsCanonical (.finite sign m e hm))
    (hx : (m * 2 ^ e : ℚ) ≤ x) : (m * 2 ^ e : ℚ) ≤ f * 2 ^ t := by
  obtain ⟨hwidth, hplace⟩ := hc
  have hunit : (0 : ℚ) < 2 ^ e := by positivity
  refine h.reaches hwidth.le (by omega) (hplace.imp id fun hfull => ?_) (by linarith)
  calc (2 ^ (e + 52) : ℚ) = (2 ^ 52 : ℕ) * 2 ^ e := by
        rw [add_comm, zpow_add₀ two_ne_zero]
        norm_cast
    _ ≤ m * 2 ^ e := by gcongr; exact hfull.2
    _ ≤ x := hx

/-- A number is passed as soon as the exact value is more than half a unit above it. -/
theorem Nearest.lt_of_lt (h : Nearest x f t) (hc : IsCanonical (.finite sign m e hm))
    (hx : (m * 2 ^ e + 2 ^ e / 2 : ℚ) < x) : (m * 2 ^ e : ℚ) < f * 2 ^ t := by
  obtain ⟨hwidth, hplace⟩ := hc
  have hunit : (0 : ℚ) < 2 ^ e := by positivity
  have hnext : ((m + 1 : ℕ) * 2 ^ e : ℚ) ≤ f * 2 ^ t := by
    refine h.reaches hwidth (by omega) (hplace.imp id fun hfull => ?_) ?_
    · calc (2 ^ (e + 52) : ℚ) = (2 ^ 52 : ℕ) * 2 ^ e := by
            rw [add_comm, zpow_add₀ two_ne_zero]
            norm_cast
        _ ≤ m * 2 ^ e := by gcongr; exact hfull.2
        _ ≤ x := by linarith
    · push_cast
      linarith
  push_cast at hnext
  linarith

theorem Nearest.two_pow_le (h : Nearest x f t) {k : ℤ} (hk : -1074 ≤ k) (hx : 2 ^ k ≤ x) :
    (2 ^ k : ℚ) ≤ f * 2 ^ t := by
  obtain ⟨n, q, hn, hq, hvalue⟩ : ∃ (n : ℕ) (q : ℤ), n ≤ 52 ∧
      (q = -1074 ∨ -1074 ≤ q ∧ n = 52) ∧ k = n + q := by
    by_cases hsmall : k ≤ -1022
    · exact ⟨(k + 1074).toNat, -1074, by omega, .inl rfl, by omega⟩
    · exact ⟨52, k - 52, le_rfl, .inr ⟨by omega, rfl⟩, by omega⟩
  have hpow : (2 ^ k : ℚ) = (2 ^ n : ℕ) * 2 ^ q := by
    rw [hvalue, zpow_add₀ two_ne_zero, zpow_natCast]
    push_cast
    rfl
  have hunit : (0 : ℚ) < 2 ^ q := by positivity
  rw [hpow] at hx ⊢
  refine h.reaches (Nat.pow_le_pow_right two_pos (by omega)) (by omega)
    (hq.imp id fun hfull => ?_) (by linarith)
  rw [show q + 52 = k by omega, hpow]
  exact hx

/-- Only from half a unit above the largest finite number on a result is out of range. -/
theorem Nearest.lt_two_pow (h : Nearest x f t) (hx : x < 2 ^ (1024 : ℤ) - 2 ^ (970 : ℤ)) :
    (f * 2 ^ t : ℚ) < 2 ^ (1024 : ℤ) := by
  have hhalf : (0 : ℚ) < 2 ^ (970 : ℤ) := zpow_pos two_pos _
  have hwide : (f * 2 ^ t : ℚ) ≤ 2 ^ (53 + t) := by
    rw [zpow_add₀ two_ne_zero]
    gcongr
    exact_mod_cast h.width
  rcases lt_or_ge t 971 with hlt | hge
  · exact hwide.trans_lt (zpow_lt_zpow_right₀ one_lt_two (by omega))
  · have hfull := h.full.resolve_left (by omega)
    have htop : t + 52 < 1024 := by
      refine (zpow_lt_zpow_iff_right₀ (one_lt_two (α := ℚ))).mp (hfull.trans_lt (hx.trans ?_))
      exact sub_lt_self _ hhalf
    obtain rfl : t = 971 := by omega
    have hnear := (abs_le.mp h.near).2
    have hunit : (2 ^ (971 : ℤ) : ℚ) = 2 * 2 ^ (970 : ℤ) := zpow_one_add₀ two_ne_zero 970
    generalize (2 : ℚ) ^ (970 : ℤ) = half at *
    generalize (2 : ℚ) ^ (1024 : ℤ) = top at *
    linarith

theorem finite_le {m : ℕ} {e : ℤ} (hm : m < 2 ^ 53) (he : e ≤ 971) :
    (m * 2 ^ e : ℚ) ≤ 2 ^ (1024 : ℤ) - 2 ^ (971 : ℤ) := by
  have hm' : (m : ℚ) ≤ 2 ^ (53 : ℤ) - 1 := by
    have : (m + 1 : ℚ) ≤ 2 ^ 53 := by exact_mod_cast hm
    norm_num at this ⊢
    linarith
  calc (m * 2 ^ e : ℚ) ≤ (2 ^ (53 : ℤ) - 1) * 2 ^ (971 : ℤ) := by
        gcongr
        exact one_le_two
    _ = 2 ^ (53 + 971 : ℤ) - 2 ^ (971 : ℤ) := by rw [sub_mul, one_mul, zpow_add₀ two_ne_zero]

/-- Half a unit of a number is below whatever the number is not `2 ^ 53` times as large as. -/
theorem half_unit_lt {y : ℚ} (hc : IsCanonical (.finite sign m e hm)) (hy : 2 ^ (-1074 : ℤ) ≤ y)
    (hlt : (m * 2 ^ e : ℚ) < 2 ^ 53 * y) : (2 ^ e / 2 : ℚ) < y := by
  obtain ⟨hwidth, rfl | hfull⟩ := hc
  · have hunit : (0 : ℚ) < 2 ^ (-1074 : ℤ) := by positivity
    linarith
  · have hunit : (0 : ℚ) < 2 ^ e := by positivity
    have hle : (2 ^ 52 * 2 ^ e : ℚ) ≤ m * 2 ^ e := by gcongr; exact_mod_cast hfull.2
    linarith

theorem two_pow_le_finite_of_canonical (hc : IsCanonical (.finite sign m e hm)) :
    (2 ^ (-1074 : ℤ) : ℚ) ≤ m * 2 ^ e :=
  calc (2 ^ (-1074 : ℤ) : ℚ) ≤ 2 ^ e := zpow_le_zpow_right₀ one_le_two (by have := hc.2; omega)
    _ ≤ m * 2 ^ e := le_mul_of_one_le_left (by positivity) (by exact_mod_cast hm)

end Kept

variable {a b : UnpackedFloat}

theorem add_isNonneg (ha : IsNonneg a) (hb : IsNonneg b) (hca : IsCanonical a)
    (hcb : IsCanonical b) :
    IsCanonical (add .binary64 a b) ∧ IsNonneg (add .binary64 a b) := by
  cases a with
  | notANumber => exact ha.elim
  | infinity sign =>
    cases ha
    cases b with
    | notANumber => exact hb.elim
    | infinity sign =>
      cases hb
      exact ⟨trivial, rfl⟩
    | _ => exact ⟨trivial, rfl⟩
  | zero sign =>
    cases b with
    | notANumber => exact hb.elim
    | zero sign' => cases sign <;> cases sign' <;> exact ⟨trivial, trivial⟩
    | _ => exact ⟨hcb, hb⟩
  | finite sign m e hm =>
    cases ha
    cases b with
    | notANumber => exact hb.elim
    | finite sign m' e' hm' =>
      cases hb
      obtain ⟨f, t, hnearest, hadd⟩ := add_finite hm hm' e e'
      rw [hadd]
      exact ⟨hnearest.isCanonical, isNonneg_placed⟩
    | infinity sign => exact ⟨trivial, hb⟩
    | zero sign => exact ⟨hca, rfl⟩

theorem le_add (ha : IsNonneg a) (hb : IsNonneg b) (hca : IsCanonical a) (hra : IsInRange a) :
    magnitude a ≤ magnitude (add .binary64 a b) := by
  cases a with
  | notANumber => exact ha.elim
  | infinity sign =>
    cases ha
    cases b with
    | notANumber => exact hb.elim
    | infinity sign =>
      cases hb
      exact le_rfl
    | _ => exact le_rfl
  | zero sign => exact magnitude_nonneg _
  | finite sign m e hm =>
    cases ha
    cases b with
    | notANumber => exact hb.elim
    | finite sign m' e' hm' =>
      cases hb
      obtain ⟨f, t, hnearest, hadd⟩ := add_finite hm hm' e e'
      rw [hadd, magnitude_placed hnearest.width]
      exact hnearest.le_of_le hca (le_add_of_nonneg_right (by positivity))
    | infinity sign => exact (finite_lt_two_pow hca.1 hra).le
    | zero sign => exact le_rfl

theorem lt_add (ha : IsNonneg a) (hb : IsNonneg b) (hca : IsCanonical a) (hcb : IsCanonical b)
    (hfinite : magnitude a < 2 ^ (1024 : ℤ)) (hlt : magnitude a < 2 ^ 53 * magnitude b) :
    magnitude a < magnitude (add .binary64 a b) := by
  cases a with
  | notANumber => exact ha.elim
  | infinity sign => exact absurd hfinite (lt_irrefl _)
  | zero sign =>
    cases b with
    | notANumber => exact hb.elim
    | zero sign' => simp [magnitude] at hlt
    | _ => exact pos_of_mul_pos_right hlt (by positivity)
  | finite sign m e hm =>
    cases ha
    have hpos : (0 : ℚ) < m * 2 ^ e := by positivity
    cases b with
    | notANumber => exact hb.elim
    | finite sign m' e' hm' =>
      cases hb
      obtain ⟨f, t, hnearest, hadd⟩ := add_finite hm hm' e e'
      rw [hadd, magnitude_placed hnearest.width]
      have hhalf := half_unit_lt hca (two_pow_le_finite_of_canonical hcb) hlt
      exact hnearest.lt_of_lt hca (by linarith)
    | infinity sign => exact hfinite
    | zero sign =>
      rw [magnitude, magnitude, mul_zero] at hlt
      exact absurd hlt hpos.not_gt

/-- Sums with numbers that are not too large stay finite. -/
theorem add_lt_two_pow (ha : IsNonneg a) (hb : IsNonneg b) (hca : IsCanonical a)
    (hra : IsInRange a) (hfinite : magnitude a < 2 ^ (1024 : ℤ))
    (hshort : magnitude b < 2 ^ (970 : ℤ)) : magnitude (add .binary64 a b) < 2 ^ (1024 : ℤ) := by
  have hshort' : (2 ^ (970 : ℤ) : ℚ) < 2 ^ (1024 : ℤ) :=
    zpow_lt_zpow_right₀ one_lt_two (by decide)
  cases a with
  | notANumber => exact ha.elim
  | infinity sign => exact absurd hfinite (lt_irrefl _)
  | zero sign =>
    cases b with
    | notANumber => exact hb.elim
    | zero sign' => cases sign <;> cases sign' <;> exact hfinite
    | _ => exact hshort.trans hshort'
  | finite sign m e hm =>
    cases ha
    cases b with
    | notANumber => exact hb.elim
    | infinity sign => exact absurd hshort hshort'.not_gt
    | zero sign => exact hfinite
    | finite sign m' e' hm' =>
      cases hb
      obtain ⟨f, t, hnearest, hadd⟩ := add_finite hm hm' e e'
      rw [hadd, magnitude_placed hnearest.width]
      refine hnearest.lt_two_pow ?_
      have hle := finite_le hca.1 hra
      have hhalf : (2 ^ (971 : ℤ) : ℚ) = 2 * 2 ^ (970 : ℤ) := zpow_one_add₀ two_ne_zero 970
      change (m' * 2 ^ e' : ℚ) < _ at hshort
      generalize (2 : ℚ) ^ (970 : ℤ) = half at *
      generalize (2 : ℚ) ^ (1024 : ℤ) = top at *
      linarith

/-- A positive difference tells at least a unit of the smaller number. -/
theorem two_pow_le_sub {m m' : ℕ} {e e' : ℤ} {hm : 0 < m} {hm' : 0 < m'}
    (hc : IsCanonical (.finite .positive m e hm)) (hc' : IsCanonical (.finite .positive m' e' hm'))
    (hlt : (m' * 2 ^ e' : ℚ) < m * 2 ^ e) : (2 ^ e' : ℚ) ≤ m * 2 ^ e - m' * 2 ^ e' := by
  have hunit : (0 : ℚ) < 2 ^ e' := by positivity
  have hle : e' ≤ e := by
    by_contra hgt
    exact absurd hlt (finite_lt_of_lt hc.1 (by have := hc'.2; have := hc.2; omega)
      (not_le.mp hgt)).not_gt
  obtain ⟨n, rfl⟩ : ∃ n : ℕ, e = n + e' := ⟨(e - e').toNat, by omega⟩
  rw [zpow_add₀ two_ne_zero, zpow_natCast, ← mul_assoc] at hlt ⊢
  have hnat : m' + 1 ≤ m * 2 ^ n := by exact_mod_cast lt_of_mul_lt_mul_right hlt hunit.le
  have hcast : (m' + 1 : ℚ) ≤ m * 2 ^ n := by exact_mod_cast hnat
  nlinarith

/-- What is left until a later time is positive, and moves the clock. -/
theorem sub_of_lt (ha : IsNonneg a) (hb : IsNonneg b) (hca : IsCanonical a) (hcb : IsCanonical b)
    (hfinite : magnitude a < 2 ^ (1024 : ℤ)) (hlt : magnitude b < magnitude a) :
    IsCanonical (sub .binary64 a b) ∧ IsNonneg (sub .binary64 a b) ∧
      magnitude b < 2 ^ 53 * magnitude (sub .binary64 a b) := by
  cases a with
  | notANumber => exact ha.elim
  | infinity sign => exact absurd hfinite (lt_irrefl _)
  | zero sign => exact absurd hlt (magnitude_nonneg b).not_gt
  | finite sign m e hm =>
    cases ha
    cases b with
    | notANumber => exact hb.elim
    | infinity sign => exact absurd hfinite hlt.not_gt
    | zero sign =>
      refine ⟨hca, rfl, ?_⟩
      have hpos : (0 : ℚ) < m * 2 ^ e := by positivity
      exact mul_pos (by positivity) hpos
    | finite sign m' e' hm' =>
      cases hb
      obtain ⟨f, t, hnearest, hsub⟩ : ∃ f t, Nearest (m * 2 ^ e - m' * 2 ^ e') f t ∧
          sub .binary64 (.finite .positive m e hm) (.finite .positive m' e' hm') =
            placed .positive f t := sub_finite hlt
      rw [hsub, magnitude_placed hnearest.width]
      refine ⟨hnearest.isCanonical, isNonneg_placed, ?_⟩
      have hunit := hnearest.two_pow_le (by have := hcb.2; omega) (two_pow_le_sub hca hcb hlt)
      calc (m' * 2 ^ e' : ℚ) < 2 ^ 53 * 2 ^ e' := by gcongr; exact_mod_cast hcb.1
        _ ≤ 2 ^ 53 * (f * 2 ^ t) := by gcongr

theorem sub_of_le (ha : IsNonneg a) (hb : IsNonneg b) (hcb : IsCanonical b)
    (hfinite : magnitude a < 2 ^ (1024 : ℤ)) (hle : magnitude a ≤ magnitude b) :
    IsCanonical (sub .binary64 a b) ∧ IsNonpos (sub .binary64 a b) := by
  cases a with
  | notANumber => exact ha.elim
  | infinity sign => exact absurd hfinite (lt_irrefl _)
  | zero sign =>
    cases b with
    | notANumber => exact hb.elim
    | zero sign' => cases sign <;> cases sign' <;> exact ⟨trivial, trivial⟩
    | infinity sign' =>
      cases hb
      exact ⟨trivial, rfl⟩
    | finite sign' m e hm =>
      cases hb
      exact ⟨hcb, rfl⟩
  | finite sign m e hm =>
    cases ha
    have hpos : (0 : ℚ) < m * 2 ^ e := by positivity
    cases b with
    | notANumber => exact hb.elim
    | infinity sign =>
      cases hb
      exact ⟨trivial, rfl⟩
    | zero sign => exact absurd hle hpos.not_ge
    | finite sign m' e' hm' =>
      cases hb
      exact sub_finite_nonpos hle

/-! ## Growth by half -/

/-- One and a half. -/
def growth : UnpackedFloat := .finite .positive (3 * 2 ^ 51) (-52) (by decide)

theorem mul_growth (ha : IsNonneg a) (hca : IsCanonical a) :
    IsCanonical (mul .binary64 a growth) ∧ IsNonneg (mul .binary64 a growth) ∧
      magnitude a ≤ magnitude (mul .binary64 a growth) := by
  cases a with
  | notANumber => exact ha.elim
  | infinity sign =>
    cases ha
    exact ⟨trivial, rfl, le_rfl⟩
  | zero sign => exact ⟨trivial, trivial, le_rfl⟩
  | finite sign m e hm =>
    cases ha
    have hlog : 52 ≤ (m * (3 * 2 ^ 51)).log2 := (Nat.le_log2 (by positivity)).mpr (by omega)
    obtain ⟨f, t, hnearest, hround⟩ :=
      roundWithAccuracy_nearest .positive (e := e + -52) (by positivity) (.inr hlog)
    have hmul : mul .binary64 (.finite .positive m e hm) growth = placed .positive f t := hround
    have hvalue : ((m * (3 * 2 ^ 51) : ℕ) * 2 ^ (e + -52) : ℚ) = m * 2 ^ e * (3 / 2) := by
      rw [zpow_add₀ two_ne_zero]
      push_cast
      norm_num
      ring
    rw [hvalue] at hnearest
    rw [hmul, magnitude_placed hnearest.width]
    refine ⟨hnearest.isCanonical, isNonneg_placed, hnearest.le_of_le hca ?_⟩
    have hpos : (0 : ℚ) < m * 2 ^ e := by positivity
    linarith

/-! ## Floating point numbers -/

section Numbers

variable {x y : Float}

theorem le_iff_unpack : x ≤ y ↔ x.toModel.unpack.le y.toModel.unpack = true := by
  change x.le y = true ↔ _
  exact decide_eq_true_iff

theorem lt_iff_unpack : x < y ↔ x.toModel.unpack.lt y.toModel.unpack = true := by
  change x.lt y = true ↔ _
  exact decide_eq_true_iff

theorem nonneg_iff : 0 ≤ x ↔ IsNonneg x.toModel.unpack := by
  rw [le_iff_unpack]
  change (UnpackedFloat.zero .positive).le x.toModel.unpack = true ↔ _
  cases x.toModel.unpack with
  | notANumber => exact iff_of_false nofun id
  | zero sign => exact iff_of_true rfl trivial
  | infinity sign | finite sign m e hm =>
    cases sign with
    | negative => exact iff_of_false Bool.false_ne_true nofun
    | positive => exact iff_of_true rfl rfl

theorem value_of_nonneg (hx : 0 ≤ x) : value x = magnitude x.toModel.unpack :=
  value_eq fun hnan => by
    have := nonneg_iff.mp hx
    rw [hnan] at this
    exact this

theorem value_le (hx : 0 ≤ x) : value x ≤ 2 ^ (1024 : ℤ) := by
  rw [value_of_nonneg hx]
  exact magnitude_le (unpack_spec _).1 (unpack_spec _).2

theorem compare_unpack (hx : 0 ≤ x) (hy : 0 ≤ y) :
    x.toModel.unpack.compare y.toModel.unpack = some (compare (value x) (value y)) := by
  rw [value_of_nonneg hx, value_of_nonneg hy]
  exact compare_eq (nonneg_iff.mp hx) (nonneg_iff.mp hy) (unpack_spec _).1 (unpack_spec _).1
    (unpack_spec _).2 (unpack_spec _).2

theorem le_iff (hx : 0 ≤ x) (hy : 0 ≤ y) : x ≤ y ↔ value x ≤ value y := by
  rw [le_iff_unpack, UnpackedFloat.le, compare_unpack hx hy, ← compare_le_iff_le]
  cases compare (value x) (value y) <;> decide

theorem lt_iff (hx : 0 ≤ x) (hy : 0 ≤ y) : x < y ↔ value x < value y := by
  rw [lt_iff_unpack, UnpackedFloat.lt, compare_unpack hx hy, ← compare_lt_iff_lt]
  cases compare (value x) (value y) <;> decide

/-! ### Sums -/

/-- The number that packing leaves of a result. -/
theorem of_result {u : UnpackedFloat} (hx : x.toModel = Float.Model.pack u) (hc : IsCanonical u)
    (hu : IsNonneg u) : 0 ≤ x ∧ value x = min (magnitude u) (2 ^ (1024 : ℤ)) := by
  have hunpack : x.toModel.unpack = clipped u := by rw [hx, unpack_pack u hc]
  have hnonneg : 0 ≤ x := nonneg_iff.mpr (hunpack ▸ isNonneg_clipped hu)
  exact ⟨hnonneg, by rw [value_of_nonneg hnonneg, hunpack, magnitude_clipped hc]⟩

theorem add_nonneg (hx : 0 ≤ x) (hy : 0 ≤ y) : 0 ≤ x + y := by
  obtain ⟨hc, hu⟩ := add_isNonneg (nonneg_iff.mp hx) (nonneg_iff.mp hy) (unpack_spec _).1
    (unpack_spec _).1
  exact (of_result rfl hc hu).1

theorem value_add (hx : 0 ≤ x) (hy : 0 ≤ y) : value (x + y) =
    min (magnitude (add .binary64 x.toModel.unpack y.toModel.unpack)) (2 ^ (1024 : ℤ)) := by
  obtain ⟨hc, hu⟩ := add_isNonneg (nonneg_iff.mp hx) (nonneg_iff.mp hy) (unpack_spec _).1
    (unpack_spec _).1
  exact (of_result rfl hc hu).2

theorem value_le_add (hx : 0 ≤ x) (hy : 0 ≤ y) : value x ≤ value (x + y) := by
  rw [value_add hx hy]
  refine le_min ?_ (value_le hx)
  rw [value_of_nonneg hx]
  exact le_add (nonneg_iff.mp hx) (nonneg_iff.mp hy) (unpack_spec _).1 (unpack_spec _).2

/-- A number grows by what it is less than `2 ^ 53` times as large as. -/
theorem value_lt_add (hx : 0 ≤ x) (hy : 0 ≤ y) (hfinite : value x < 2 ^ (1024 : ℤ))
    (hlt : value x < 2 ^ 53 * value y) : value x < value (x + y) := by
  rw [value_add hx hy]
  refine lt_min ?_ hfinite
  rw [value_of_nonneg hx] at hfinite hlt ⊢
  rw [value_of_nonneg hy] at hlt
  exact lt_add (nonneg_iff.mp hx) (nonneg_iff.mp hy) (unpack_spec _).1 (unpack_spec _).1 hfinite hlt

theorem value_add_lt (hx : 0 ≤ x) (hy : 0 ≤ y) (hfinite : value x < 2 ^ (1024 : ℤ))
    (hshort : value y < 2 ^ (970 : ℤ)) : value (x + y) < 2 ^ (1024 : ℤ) := by
  rw [value_add hx hy]
  rw [value_of_nonneg hx] at hfinite
  rw [value_of_nonneg hy] at hshort
  exact (min_le_left ..).trans_lt (add_lt_two_pow (nonneg_iff.mp hx) (nonneg_iff.mp hy)
    (unpack_spec _).1 (unpack_spec _).2 hfinite hshort)

/-! ### Differences -/

theorem sub_nonpos (hx : 0 ≤ x) (hy : 0 ≤ y) (hfinite : value x < 2 ^ (1024 : ℤ))
    (hle : value x ≤ value y) : x - y ≤ 0 := by
  rw [value_of_nonneg hx] at hfinite hle
  rw [value_of_nonneg hy] at hle
  obtain ⟨hc, hu⟩ := sub_of_le (nonneg_iff.mp hx) (nonneg_iff.mp hy) (unpack_spec _).1 hfinite hle
  rw [le_iff_unpack]
  change (Float.Model.pack (sub .binary64 x.toModel.unpack y.toModel.unpack)).unpack.le
    (.zero .positive) = true
  rw [unpack_pack _ hc]
  exact le_zero (isNonpos_clipped hu)

/-- What is left until a later time moves a clock. -/
theorem value_lt_add_sub (hx : 0 ≤ x) (hy : 0 ≤ y) (hfinite : value x < 2 ^ (1024 : ℤ))
    (hlt : value y < value x) : 0 ≤ x - y ∧ value y < value (y + (x - y)) := by
  have hfinite' := hlt.trans hfinite
  have hmagnitude : magnitude x.toModel.unpack < 2 ^ (1024 : ℤ) := by rwa [← value_of_nonneg hx]
  have hmagnitude' : magnitude y.toModel.unpack < magnitude x.toModel.unpack := by
    rwa [← value_of_nonneg hx, ← value_of_nonneg hy]
  obtain ⟨hc, hu, hmoves⟩ := sub_of_lt (nonneg_iff.mp hx) (nonneg_iff.mp hy) (unpack_spec _).1
    (unpack_spec _).1 hmagnitude hmagnitude'
  obtain ⟨hnonneg, hvalue⟩ := of_result (x := x - y) rfl hc hu
  refine ⟨hnonneg, value_lt_add hy hnonneg hfinite' ?_⟩
  rw [hvalue, mul_min_of_nonneg _ _ (by positivity)]
  refine lt_min (by rwa [value_of_nonneg hy]) (hfinite'.trans_le ?_)
  exact le_mul_of_one_le_left (by positivity) (by norm_num)

/-! ### Growth -/

theorem value_le_mul_growth (hx : 0 ≤ x) : 0 ≤ x * 1.5 ∧ value x ≤ value (x * 1.5) := by
  obtain ⟨hc, hu, hle⟩ := mul_growth (nonneg_iff.mp hx) (unpack_spec _).1
  have hgrowth : (1.5 : Float).toModel.unpack = growth := rfl
  rw [← hgrowth] at hc hu hle
  obtain ⟨hnonneg, hvalue⟩ := of_result (x := x * 1.5) rfl hc hu
  refine ⟨hnonneg, ?_⟩
  rw [hvalue]
  exact le_min (by rwa [value_of_nonneg hx]) (value_le hx)

/-! ### Bounds -/

/-- Every exact value is a multiple of the least one. -/
def ticks (x : Float) : ℕ :=
  (Decimal.Binary.ofFloat x).m * 2 ^ ((Decimal.Binary.ofFloat x).q + 1074).toNat

theorem value_eq_ticks (x : Float) : value x = ticks x * 2 ^ (-1074 : ℤ) := by
  have hq : -1074 ≤ (Decimal.Binary.ofFloat x).q := by
    rw [Decimal.Binary.ofFloat, Decimal.Binary.ofBits]
    split
    next => exact le_rfl
    next hzero =>
      change -1074 ≤ ((x.toBits.toNat / Nat.pow 2 52 % Nat.pow 2 11 : ℕ) : ℤ) - 1075
      omega
  obtain ⟨n, hn⟩ : ∃ n : ℕ, (Decimal.Binary.ofFloat x).q = n + -1074 :=
    ⟨((Decimal.Binary.ofFloat x).q + 1074).toNat, by omega⟩
  rw [value, ticks, hn, zpow_add₀ two_ne_zero, zpow_natCast, neg_add_cancel_right,
    Int.toNat_natCast, Nat.cast_mul, Nat.cast_pow, Nat.cast_ofNat, mul_assoc]

theorem ticks_lt_iff : ticks x < ticks y ↔ value x < value y := by
  have hunit : (0 : ℚ) < 2 ^ (-1074 : ℤ) := zpow_pos two_pos _
  rw [value_eq_ticks x, value_eq_ticks y, mul_lt_mul_iff_left₀ hunit, Nat.cast_lt]

/-! ### What is no number, and infinity -/

theorem isNaN_iff : x.isNaN = true ↔ x.toModel.unpack = .notANumber := UnpackedFloat.isNaN_iff

theorem isNaN_add (hy : y.isNaN = true) : (x + y).isNaN = true := by
  rw [isNaN_iff] at hy
  have hadd : add .binary64 x.toModel.unpack y.toModel.unpack = .notANumber := by
    rw [hy]
    cases x.toModel.unpack <;> rfl
  change (Float.Model.pack (add .binary64 x.toModel.unpack y.toModel.unpack)).isNaN = true
  rw [hadd]
  rfl

theorem isNaN_sub (hx : x.isNaN = true) : (x - y).isNaN = true := by
  rw [isNaN_iff] at hx
  have hsub : sub .binary64 x.toModel.unpack y.toModel.unpack = .notANumber := by
    rw [hx]
    cases y.toModel.unpack <;> rfl
  change (Float.Model.pack (sub .binary64 x.toModel.unpack y.toModel.unpack)).isNaN = true
  rw [hsub]
  rfl

theorem not_le_of_isNaN (hx : x.isNaN = true) : ¬ x ≤ y := by
  rw [isNaN_iff] at hx
  rw [le_iff_unpack, hx]
  exact Bool.false_ne_true

theorem not_lt_of_isNaN (hx : x.isNaN = true) : ¬ x < y := by
  rw [isNaN_iff] at hx
  rw [lt_iff_unpack, hx]
  exact Bool.false_ne_true

theorem nonneg_of_not_nonpos (hx : ¬ x ≤ 0) (hnan : x.isNaN = false) : 0 ≤ x := by
  have hnan' : x.toModel.unpack ≠ .notANumber := fun h => by
    rw [isNaN_iff.mpr h] at hnan
    cases hnan
  rw [le_iff_unpack] at hx
  rw [nonneg_iff]
  cases hunpack : x.toModel.unpack with
  | notANumber => exact absurd hunpack hnan'
  | zero sign => trivial
  | infinity sign | finite sign m e hm =>
    rw [hunpack] at hx
    cases sign with
    | negative => exact absurd rfl hx
    | positive => rfl

/-- What compares with another number is a number. -/
theorem nonneg_of_lt (h : x < y) (hx : ¬ x ≤ 0) : 0 ≤ x := by
  refine nonneg_of_not_nonpos hx ?_
  by_contra hnan
  exact not_lt_of_isNaN (Bool.of_not_eq_false hnan) h

theorem not_isFinite_of_isNaN (hx : x.isNaN = true) : ¬ x.isFinite = true := by
  rw [isNaN_iff] at hx
  change ¬ x.toModel.unpack.isFinite = true
  rw [hx]
  exact Bool.false_ne_true

theorem value_lt_of_isFinite (hx : 0 ≤ x) (hfinite : x.isFinite = true) :
    value x < 2 ^ (1024 : ℤ) := by
  change x.toModel.unpack.isFinite = true at hfinite
  obtain ⟨hc, hr⟩ := unpack_spec x.toModel
  rw [value_of_nonneg hx]
  cases hunpack : x.toModel.unpack with
  | finite sign m e hm =>
    rw [hunpack] at hc hr
    exact finite_lt_two_pow hc.1 hr
  | zero sign => exact zpow_pos two_pos _
  | _ =>
    rw [hunpack] at hfinite
    cases hfinite

theorem value_of_isInf (hx : 0 ≤ x) (hinf : x.isInf = true) : value x = 2 ^ (1024 : ℤ) := by
  change x.toModel.unpack.isInf = true at hinf
  rw [value_of_nonneg hx]
  cases hunpack : x.toModel.unpack with
  | infinity sign => rfl
  | _ =>
    rw [hunpack] at hinf
    cases hinf

theorem isNaN_of_isInf (hinf : x.isInf = true) : x.isNaN = false := by
  change x.toModel.unpack.isInf = true at hinf
  change x.toModel.unpack.isNaN = false
  cases hunpack : x.toModel.unpack with
  | notANumber =>
    rw [hunpack] at hinf
    cases hinf
  | _ => rfl

theorem unpack_of_infinite (hx : 0 ≤ x) (hinf : value x = 2 ^ (1024 : ℤ)) :
    x.toModel.unpack = .infinity .positive := by
  have hnonneg := nonneg_iff.mp hx
  obtain ⟨hc, hr⟩ := unpack_spec x.toModel
  have htop : (0 : ℚ) < 2 ^ (1024 : ℤ) := zpow_pos two_pos _
  rw [value_of_nonneg hx] at hinf
  cases hunpack : x.toModel.unpack with
  | notANumber =>
    rw [hunpack] at hnonneg
    exact hnonneg.elim
  | infinity sign =>
    rw [hunpack] at hnonneg
    cases hnonneg
    rfl
  | zero sign =>
    rw [hunpack] at hinf
    exact absurd hinf htop.ne
  | finite sign m e hm =>
    rw [hunpack] at hinf hc hr
    exact absurd hinf (finite_lt_two_pow hc.1 hr).ne

theorem value_add_of_infinite (hx : 0 ≤ x) (hy : 0 ≤ y) (hinf : value y = 2 ^ (1024 : ℤ)) :
    value (x + y) = 2 ^ (1024 : ℤ) := by
  have hnonneg := nonneg_iff.mp hx
  rw [value_add hx hy, unpack_of_infinite hy hinf]
  cases hunpack : x.toModel.unpack with
  | notANumber =>
    rw [hunpack] at hnonneg
    exact hnonneg.elim
  | infinity sign =>
    rw [hunpack] at hnonneg
    cases hnonneg
    exact min_self _
  | _ => exact min_self _

/-- From an infinite time nothing can be taken away. -/
theorem not_sub_nonpos_of_infinite (hx : 0 ≤ x) (hy : 0 ≤ y) (hinf : value x = 2 ^ (1024 : ℤ)) :
    ¬ x - y ≤ 0 := by
  have hnonneg := nonneg_iff.mp hy
  have hunpack : (x - y).toModel.unpack =
      clipped (sub .binary64 (.infinity .positive) y.toModel.unpack) := by
    rw [← unpack_of_infinite hx hinf]
    refine unpack_pack _ ?_
    rw [unpack_of_infinite hx hinf]
    cases y.toModel.unpack with
    | infinity sign => cases sign <;> trivial
    | _ => trivial
  rw [le_iff_unpack, hunpack]
  cases hy' : y.toModel.unpack with
  | notANumber => exact Bool.false_ne_true
  | infinity sign =>
    rw [hy'] at hnonneg
    cases hnonneg
    exact Bool.false_ne_true
  | _ => exact Bool.false_ne_true

end Numbers

end Reclaim.Double
