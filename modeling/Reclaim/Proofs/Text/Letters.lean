import Reclaim.Text.Blank
import Reclaim.Text.Lowercase
import Mathlib.Data.List.Forall2

/-!
# Letters and their case

The lower case of a text depends on the surroundings of a letter in one place only, the end of a
word. It never depends on the case of the letters around, and its length never depends on them.
-/

namespace Reclaim.Text

/-! ## The letters of ASCII -/

theorem toNat_toLower (c : Char) :
    c.toLower.toNat = if 65 ≤ c.toNat ∧ c.toNat ≤ 90 then c.toNat + 32 else c.toNat := by
  unfold Char.toLower
  split
  next h =>
    have hfirst : 65 ≤ c.toNat := UInt32.le_iff_toNat_le.mp h.1
    have hlast : c.toNat ≤ 90 := UInt32.le_iff_toNat_le.mp h.2
    rw [if_pos ⟨hfirst, hlast⟩]
    change (c.val + 32).toNat = _
    rw [UInt32.toNat_add]
    change (c.toNat + 32) % 2 ^ 32 = _
    omega
  next h =>
    rw [if_neg]
    rintro ⟨hfirst, hlast⟩
    exact h ⟨UInt32.le_iff_toNat_le.mpr hfirst, UInt32.le_iff_toNat_le.mpr hlast⟩

theorem toNat_toUpper (c : Char) :
    c.toUpper.toNat = if 97 ≤ c.toNat ∧ c.toNat ≤ 122 then c.toNat - 32 else c.toNat := by
  unfold Char.toUpper
  split
  next h =>
    have hfirst : 97 ≤ c.toNat := UInt32.le_iff_toNat_le.mp h.1
    have hlast : c.toNat ≤ 122 := UInt32.le_iff_toNat_le.mp h.2
    rw [if_pos ⟨hfirst, hlast⟩]
    change (c.val + (65 - 97)).toNat = _
    rw [UInt32.toNat_add]
    change (c.toNat + 4294967264) % 2 ^ 32 = _
    omega
  next h =>
    rw [if_neg]
    rintro ⟨hfirst, hlast⟩
    exact h ⟨UInt32.le_iff_toNat_le.mpr hfirst, UInt32.le_iff_toNat_le.mpr hlast⟩

theorem isLower_iff (c : Char) : c.isLower = true ↔ 97 ≤ c.toNat ∧ c.toNat ≤ 122 := by
  unfold Char.isLower
  simp only [Bool.and_eq_true, decide_eq_true_eq]
  exact and_congr UInt32.le_iff_toNat_le UInt32.le_iff_toNat_le

/-! ## Tables of code points -/

def RangeTable.codes (table : RangeTable) : List Nat :=
  table.flatMap fun range => List.range' range.1 (range.2 + 1 - range.1)

theorem RangeTable.covers_iff {table : RangeTable} {c : Char} :
    table.covers c = true ↔ ∃ range ∈ table, range.1 ≤ c.toNat ∧ c.toNat ≤ range.2 := by
  unfold RangeTable.covers
  simp only [List.any_eq_true, Bool.and_eq_true, decide_eq_true_eq]

theorem RangeTable.mem_codes_of_covers {table : RangeTable} {c : Char}
    (h : table.covers c = true) : c.toNat ∈ table.codes := by
  obtain ⟨range, hrange, hcovers⟩ := covers_iff.mp h
  refine List.mem_flatMap.mpr ⟨range, hrange, ?_⟩
  rw [List.mem_range'_1]
  omega

/-- What holds of the listed code points holds of the characters that the table covers. -/
theorem RangeTable.of_covers {P : Char → Prop} {table : RangeTable}
    (h : ∀ n ∈ table.codes, P (Char.ofNat n)) {c : Char} (hc : table.covers c = true) : P c := by
  have hcode := h c.toNat (mem_codes_of_covers hc)
  rwa [Char.ofNat_toNat] at hcode

theorem RangeTable.le_of_covers {table : RangeTable} {n : Nat} (h : ∀ range ∈ table, n ≤ range.1)
    {c : Char} (hc : table.covers c = true) : n ≤ c.toNat := by
  obtain ⟨range, hrange, hfirst, -⟩ := covers_iff.mp hc
  exact Nat.le_trans (h range hrange) hfirst

/-- Tables whose ranges lie apart cover no character in common. -/
theorem RangeTable.covers_of_apart {table other : RangeTable}
    (h : ∀ range ∈ table, ∀ range' ∈ other, range.2 < range'.1 ∨ range'.2 < range.1) {c : Char}
    (hc : table.covers c = true) : other.covers c = false := by
  by_contra hother
  obtain ⟨range, hrange, hcovers⟩ := covers_iff.mp hc
  obtain ⟨range', hrange', hcovers'⟩ := covers_iff.mp (Bool.not_eq_false _ ▸ hother)
  have hapart := h range hrange range' hrange'
  omega

/-! ## Texts with letters -/

theorem lowerChar_ne_nil (c : Char) : lowerChar c ≠ [] := by
  unfold lowerChar
  split
  · exact List.cons_ne_nil _ _
  · split <;> exact List.cons_ne_nil _ _

theorem lower_ne_empty {s : String} (h : s ≠ "") : lower s ≠ "" := by
  intro hlower
  have hnil := String.ofList_eq_empty_iff.mp hlower
  cases hs : s.toList with
  | nil => exact h (String.toList_eq_nil_iff.mp hs)
  | cons c rest =>
    rw [hs, lowerAfter, List.append_eq_nil_iff] at hnil
    split at hnil
    · cases hnil.1
    · exact lowerChar_ne_nil c hnil.1

/-! ## Characters without case -/

/-- A character that stays in lower case what it is. -/
def IsPlain (c : Char) : Prop := lowerChar c = [c] ∧ c.toNat ≠ 0x03A3

theorem isPlain_slash : IsPlain '/' := by
  constructor <;> decide

theorem isPlain_of_isBlank {c : Char} (h : isBlank c = true) : IsPlain c := by
  have hcodes : ∀ n ∈ blanks.codes,
      lowerChar (Char.ofNat n) = [Char.ofNat n] ∧ (Char.ofNat n).toNat ≠ 0x03A3 := by
    decide +kernel
  exact RangeTable.of_covers hcodes h

/-- How many characters the lower case of a text has. -/
def lowerLength (cs : List Char) : Nat := (cs.flatMap lowerChar).length

theorem length_lowerChar_sigma : (lowerChar '\u03A3').length = 1 := by decide +kernel

theorem exists_lowerAfter_append (before text rest : List Char) :
    ∃ lowered, lowered.length = lowerLength text ∧
      lowerAfter before (text ++ rest) = lowered ++ lowerAfter (text.reverse ++ before) rest := by
  induction text generalizing before with
  | nil => exact ⟨[], rfl, rfl⟩
  | cons c text ih =>
    obtain ⟨lowered, hlength, hlowered⟩ := ih (c :: before)
    have hreverse : (c :: text).reverse ++ before = text.reverse ++ c :: before := by simp
    rw [List.cons_append, lowerAfter, hlowered, hreverse]
    refine ⟨_, ?_, (List.append_assoc _ _ _).symm⟩
    unfold lowerLength at *
    rw [List.length_append, hlength, List.flatMap_cons, List.length_append]
    split
    · next hsigma =>
      have hc : c = '\u03A3' := by
        simp only [Bool.and_eq_true, decide_eq_true_eq] at hsigma
        exact Char.toNat_inj.mp hsigma.1
      rw [hc, length_lowerChar_sigma, List.length_singleton]
    · rfl

theorem lowerAfter_plain {text : List Char} (h : ∀ c ∈ text, IsPlain c)
    (before rest : List Char) :
    lowerAfter before (text ++ rest) = text ++ lowerAfter (text.reverse ++ before) rest := by
  induction text generalizing before with
  | nil => rfl
  | cons c text ih =>
    obtain ⟨hc, hsigma⟩ := h c List.mem_cons_self
    have hrest := ih (fun d hd => h d (List.mem_cons_of_mem _ hd)) (c :: before)
    rw [List.cons_append, lowerAfter, hrest]
    simp [hc, hsigma]

theorem lowerAfter_eq_self {text : List Char} (h : ∀ c ∈ text, IsPlain c) (before : List Char) :
    lowerAfter before text = text := by
  simpa [lowerAfter] using lowerAfter_plain h before []

/-! ## The case of ASCII letters -/

def SameLetter (c d : Char) : Prop := c.toLower = d.toLower

/-- The texts differ at most in the case of ASCII letters. -/
def SameButCase (text other : List Char) : Prop := List.Forall₂ SameLetter text other

def IsLetterCode (n : Nat) : Prop := 65 ≤ n ∧ n ≤ 90 ∨ 97 ≤ n ∧ n ≤ 122

instance : DecidablePred IsLetterCode :=
  fun n => inferInstanceAs (Decidable (65 ≤ n ∧ n ≤ 90 ∨ 97 ≤ n ∧ n ≤ 122))

theorem SameLetter.eq_or {c d : Char} (h : SameLetter c d) :
    c = d ∨ IsLetterCode c.toNat ∧ IsLetterCode d.toNat := by
  have hcode := congrArg Char.toNat h
  rw [toNat_toLower, toNat_toLower] at hcode
  rw [← Char.toNat_inj]
  unfold IsLetterCode
  split at hcode <;> split at hcode <;> omega

theorem SameLetter.eq_iff {c d : Char} (h : SameLetter c d) {n : Nat} (hn : ¬ IsLetterCode n) :
    c.toNat = n ↔ d.toNat = n := by
  rcases h.eq_or with rfl | ⟨hc, hd⟩
  · rfl
  · constructor
    · rintro rfl
      exact absurd hc hn
    · rintro rfl
      exact absurd hd hn

theorem SameButCase.isLetterCode {text other : List Char} (h : SameButCase text other)
    (hother : ∀ d ∈ other, IsLetterCode d.toNat) : ∀ c ∈ text, IsLetterCode c.toNat := by
  induction h with
  | nil => exact List.forall_mem_nil _
  | @cons c d rest others hletter _ ih =>
    obtain ⟨hd, hothers⟩ := List.forall_mem_cons.mp hother
    refine List.forall_mem_cons.mpr ⟨?_, ih hothers⟩
    rcases hletter.eq_or with rfl | ⟨hc, -⟩
    · exact hd
    · exact hc

theorem sameButCase_iff {cs word : List Char} (h : word.map Char.toLower = word) :
    SameButCase cs word ↔ cs.map Char.toLower = word := by
  rw [← List.forall₂_eq_eq_eq, ← h, List.forall₂_map_left_iff, List.forall₂_map_right_iff, h]
  rfl

theorem covers_of_isLetterCode {c : Char} (h : IsLetterCode c.toNat) :
    ignorable.covers c = false ∧ cased.covers c = true := by
  have hcodes : ∀ n < 123, (65 ≤ n ∧ n ≤ 90 ∨ 97 ≤ n ∧ n ≤ 122) →
      ignorable.covers (Char.ofNat n) = false ∧ cased.covers (Char.ofNat n) = true := by
    decide +kernel
  unfold IsLetterCode at h
  have hc := hcodes c.toNat (by omega) h
  rw [Char.ofNat_toNat] at hc
  exact hc

theorem SameLetter.covers_eq {c d : Char} (h : SameLetter c d) :
    ignorable.covers c = ignorable.covers d ∧ cased.covers c = cased.covers d := by
  rcases h.eq_or with rfl | ⟨hc, hd⟩
  · exact ⟨rfl, rfl⟩
  · obtain ⟨hignorable, hcased⟩ := covers_of_isLetterCode hc
    obtain ⟨hignorable', hcased'⟩ := covers_of_isLetterCode hd
    rw [hignorable, hignorable', hcased, hcased']
    exact ⟨rfl, rfl⟩

theorem SameLetter.lowerChar_eq {c d : Char} (h : SameLetter c d) : lowerChar c = lowerChar d := by
  rcases h.eq_or with rfl | ⟨hc, hd⟩
  · rfl
  · unfold IsLetterCode at hc hd
    unfold lowerChar
    rw [if_pos (by omega), if_pos (by omega)]
    exact congrArg (fun c => [c]) h

theorem SameButCase.meetsLetter_eq {text other : List Char} (h : SameButCase text other) :
    meetsLetter text = meetsLetter other := by
  unfold meetsLetter
  induction h with
  | nil => rfl
  | @cons c d rest others hletter _ ih =>
    obtain ⟨hignorable, hcased⟩ := hletter.covers_eq
    simp only [List.dropWhile_cons, hignorable]
    by_cases hd : ignorable.covers d = true
    · simp only [if_pos hd]
      exact ih
    · simp only [if_neg hd]
      exact hcased

theorem SameButCase.lowerAfter_eq {text other : List Char} (h : SameButCase text other)
    {before before' : List Char} (hbefore : SameButCase before before') :
    lowerAfter before text = lowerAfter before' other := by
  induction h generalizing before before' with
  | nil => rfl
  | @cons c d rest others hletter hrest ih =>
    have hends : endsWord before rest = endsWord before' others := by
      unfold endsWord
      rw [hbefore.meetsLetter_eq, SameButCase.meetsLetter_eq hrest]
    have hsigma := hletter.eq_iff (n := 0x03A3) (by unfold IsLetterCode; omega)
    have hlater := ih (List.Forall₂.cons hletter hbefore)
    simp only [lowerAfter, hends, hsigma, hletter.lowerChar_eq, hlater]

theorem lower_eq_of_sameButCase {s t : String} (h : SameButCase s.toList t.toList) :
    lower s = lower t := by
  unfold lower
  rw [h.lowerAfter_eq .nil]

end Reclaim.Text
