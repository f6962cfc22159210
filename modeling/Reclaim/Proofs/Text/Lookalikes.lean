import Reclaim.Proofs.Text.Cutting
import Reclaim.Proofs.Text.Letters

/-!
# Characters that look alike

Two characters from outside ASCII have an ASCII letter in their lower case, and the letters are `i`
and `k`. So a word without these two letters is the lower case of its own ASCII spellings only.
-/

namespace Reclaim.Text

/-! ## What lower case takes into ASCII -/

theorem CaseRun.image?_eq_some {run : CaseRun} {n m : Nat} (h : run.image? n = some m) :
    run.first ≤ n ∧ n ≤ run.last ∧ m = run.target + (n - run.first) := by
  unfold CaseRun.image? at h
  split at h
  next hcovers =>
    simp only [Bool.and_eq_true, decide_eq_true_eq] at hcovers
    exact ⟨hcovers.1.1, hcovers.1.2, (Option.some.inj h).symm⟩
  next => cases h

/-- Every run stays outside ASCII, and clear of what is no character, but for the kelvin sign. -/
theorem lowerRuns_targets : ∀ run ∈ lowerRuns,
    0x80 ≤ run.target ∧ run.target + (run.last - run.first) < 0xD800 ∨
      0xE000 ≤ run.target ∧ run.target + (run.last - run.first) < 0x110000 ∨
        run.first = 0x212A ∧ run.last = 0x212A ∧ run.target = 0x6B := by
  decide +kernel

theorem toNat_ofNat {n : Nat} (h : n.isValidChar) : (Char.ofNat n).toNat = n := by
  rw [Char.ofNat, dif_pos h]
  rfl

theorem mapped?_lowerRuns {c d : Char} (h : mapped? lowerRuns c = some d) :
    0x80 ≤ d.toNat ∨ c = '\u212A' ∧ d = 'k' := by
  obtain ⟨code, hcode, rfl⟩ := Option.map_eq_some_iff.mp h
  obtain ⟨run, hrun, himage⟩ := List.exists_of_findSome?_eq_some hcode
  obtain ⟨hfirst, hlast, rfl⟩ := CaseRun.image?_eq_some himage
  rcases lowerRuns_targets run hrun with hlow | hhigh | ⟨hkelvin, hsame, htarget⟩
  · left
    rw [toNat_ofNat (.inl (by omega))]
    omega
  · left
    rw [toNat_ofNat (.inr (by omega))]
    omega
  · right
    have hc : c.toNat = 0x212A := by omega
    refine ⟨Char.toNat_inj.mp hc, ?_⟩
    rw [hc, hkelvin, htarget]

/-- What lower case holds of ASCII comes from ASCII, from the dotted capital I or from the kelvin
sign. -/
theorem ascii_of_mem_lowerChar {c d : Char} (h : d ∈ lowerChar c) (hd : d.toNat < 0x80) :
    c.toNat < 0x80 ∨ c = '\u0130' ∧ d = 'i' ∨ c = '\u212A' ∧ d = 'k' := by
  unfold lowerChar at h
  split at h
  next hc => exact .inl hc
  next hc =>
    split at h
    next hdotted =>
      refine .inr (.inl ⟨Char.toNat_inj.mp hdotted, ?_⟩)
      rcases List.mem_cons.mp h with rfl | hmark
      · rfl
      · rw [List.mem_singleton.mp hmark] at hd
        exact absurd hd (by decide)
    next =>
      rw [List.mem_singleton] at h
      cases hmapped : mapped? lowerRuns c with
      | none =>
        rw [hmapped, Option.getD_none] at h
        exact absurd (h ▸ hd) hc
      | some e =>
        rw [hmapped, Option.getD_some] at h
        subst h
        exact .inr (.inr ((mapped?_lowerRuns hmapped).resolve_left (by omega)))

/-- A character grows in lower case only if it is the dotted capital I. -/
theorem length_lowerChar {c : Char} (h : c ≠ '\u0130') : (lowerChar c).length = 1 := by
  have hdotted : c.toNat ≠ 0x0130 := fun hcode => h (Char.toNat_inj.mp hcode)
  rw [lowerChar, if_neg hdotted]
  split <;> rfl

/-! ## Lookalikes -/

/-- What a display may leave out, the characters without a width among them. -/
def invisible : RangeTable :=
  [ (0x00AD, 0x00AD), (0x034F, 0x034F), (0x061C, 0x061C), (0x115F, 0x1160), (0x17B4, 0x17B5),
    (0x180B, 0x180F), (0x200B, 0x200F), (0x202A, 0x202E), (0x2060, 0x206F), (0x3164, 0x3164),
    (0xFE00, 0xFE0F), (0xFEFF, 0xFEFF), (0xFFA0, 0xFFA0), (0xFFF0, 0xFFF8), (0x1BCA0, 0x1BCA3),
    (0x1D173, 0x1D17A), (0xE0000, 0xE0FFF) ]

/-- A character that could pass for a letter of ASCII, or for nothing at all. -/
inductive IsLookalike (c : Char) : Prop
  | grows (h : (lowerChar c).length ≠ 1)
  | lowersToLetter (houtside : 0x80 ≤ c.toNat) {d : Char} (hd : d ∈ lowerChar c)
      (hletter : IsLetterCode d.toNat)
  | hides (h : invisible.covers c = true)

theorem isLookalike_iff {c : Char} :
    IsLookalike c ↔ c = '\u0130' ∨ c = '\u212A' ∨ invisible.covers c = true := by
  constructor
  · rintro (hgrows | ⟨houtside, hd, hletter⟩ | hhides)
    · exact .inl (Decidable.not_imp_comm.mp length_lowerChar hgrows)
    · unfold IsLetterCode at hletter
      rcases ascii_of_mem_lowerChar hd (by omega) with hascii | ⟨hdotted, -⟩ | ⟨hkelvin, -⟩
      · omega
      · exact .inl hdotted
      · exact .inr (.inl hkelvin)
    · exact .inr (.inr hhides)
  · rintro (rfl | rfl | hhides)
    · exact .grows (by decide +kernel)
    · exact .lowersToLetter (by decide) (d := 'k') (by decide +kernel) (by decide)
    · exact .hides hhides

/-! ## Blanks -/

/-- The white space of Unicode, and the four information separators. -/
def whiteSpace : List Char :=
  [ '\t', '\n', '\u000B', '\u000C', '\r', '\u001C', '\u001D', '\u001E', '\u001F', ' ', '\u0085',
    '\u00A0', '\u1680', '\u2000', '\u2001', '\u2002', '\u2003', '\u2004', '\u2005', '\u2006',
    '\u2007', '\u2008', '\u2009', '\u200A', '\u2028', '\u2029', '\u202F', '\u205F', '\u3000' ]

theorem isBlank_iff {c : Char} : isBlank c = true ↔ c ∈ whiteSpace := by
  constructor
  · intro h
    have hcodes : ∀ n ∈ blanks.codes, Char.ofNat n ∈ whiteSpace := by decide +kernel
    exact RangeTable.of_covers hcodes h
  · exact List.all_eq_true.mp (by decide) c

theorem not_isBlank_of_visible {c : Char} (hfirst : 0x21 ≤ c.toNat) (hlast : c.toNat < 0x80) :
    isBlank c = false := by
  have hcodes : ∀ n ∈ blanks.codes, n < 0x21 ∨ 0x80 ≤ n := by decide +kernel
  by_contra hblank
  have hcode := hcodes c.toNat (RangeTable.mem_codes_of_covers (Bool.not_eq_false _ ▸ hblank))
  omega

theorem not_isBlank_of_isLetterCode {c : Char} (h : IsLetterCode c.toNat) : isBlank c = false := by
  unfold IsLetterCode at h
  exact not_isBlank_of_visible (by omega) (by omega)

theorem IsLookalike.not_isBlank {c : Char} (h : IsLookalike c) : isBlank c = false := by
  rcases isLookalike_iff.mp h with rfl | rfl | hhides
  · decide
  · decide
  · exact RangeTable.covers_of_apart (by decide) hhides

theorem IsLookalike.not_isLetterCode {c : Char} (h : IsLookalike c) : ¬ IsLetterCode c.toNat := by
  have houtside : 0x80 ≤ c.toNat := by
    rcases isLookalike_iff.mp h with rfl | rfl | hhides
    · decide
    · decide
    · exact RangeTable.le_of_covers (by decide) hhides
  unfold IsLetterCode
  omega

/-! ## Words in lower case -/

theorem toNat_lt_of_toLower {c : Char} (h : c.toLower.toNat < 0x80) : c.toNat < 0x80 := by
  rw [toNat_toLower] at h
  split at h <;> omega

theorem lowerChar_of_ascii {c : Char} (h : c.toNat < 0x80) : lowerChar c = [c.toLower] := if_pos h

theorem lowerAfter_of_ascii {cs : List Char} (h : ∀ c ∈ cs, c.toNat < 0x80) (before : List Char) :
    lowerAfter before cs = cs.map Char.toLower := by
  induction cs generalizing before with
  | nil => rfl
  | cons c rest ih =>
    obtain ⟨hc, hrest⟩ := List.forall_mem_cons.mp h
    have hsigma : c.toNat ≠ 0x03A3 := by omega
    rw [lowerAfter, ih hrest, lowerChar_of_ascii hc]
    simp [hsigma]

/-- Each character leaves something of its lower case behind, or the final form of a sigma. -/
theorem exists_mem_lowerAfter {cs : List Char} {c : Char} (h : c ∈ cs) (before : List Char) :
    ∃ d ∈ lowerAfter before cs, d ∈ lowerChar c ∨ d = '\u03C2' := by
  induction cs generalizing before with
  | nil => cases h
  | cons first rest ih =>
    rw [lowerAfter]
    rcases List.mem_cons.mp h with rfl | hrest
    · split
      · exact ⟨'\u03C2', by simp, .inr rfl⟩
      · obtain ⟨d, hd⟩ := List.exists_mem_of_ne_nil _ (lowerChar_ne_nil c)
        exact ⟨d, List.mem_append_left _ hd, .inl hd⟩
    · obtain ⟨d, hd, hform⟩ := ih hrest (first :: before)
      exact ⟨d, List.mem_append_right _ hd, hform⟩

/-- A word of ASCII without the letters that other characters take in lower case. -/
def IsUnmistakable (word : List Char) : Prop := ∀ d ∈ word, d.toNat < 0x80 ∧ d ≠ 'i' ∧ d ≠ 'k'

theorem IsUnmistakable.ascii_of_lowerAfter {cs before : List Char}
    (h : IsUnmistakable (lowerAfter before cs)) : ∀ c ∈ cs, c.toNat < 0x80 := by
  intro c hc
  obtain ⟨d, hd, hform⟩ := exists_mem_lowerAfter hc before
  obtain ⟨hascii, hi, hk⟩ := h d hd
  rcases hform with hmem | rfl
  · rcases ascii_of_mem_lowerChar hmem hascii with hc | ⟨-, rfl⟩ | ⟨-, rfl⟩
    · exact hc
    · exact absurd rfl hi
    · exact absurd rfl hk
  · exact absurd hascii (by decide)

theorem lowerAfter_eq_iff {word : List Char} (h : IsUnmistakable word) (before cs : List Char) :
    lowerAfter before cs = word ↔ cs.map Char.toLower = word := by
  constructor
  · rintro rfl
    exact (lowerAfter_of_ascii h.ascii_of_lowerAfter before).symm
  · rintro rfl
    refine lowerAfter_of_ascii (fun c hc => ?_) before
    exact toNat_lt_of_toLower (h c.toLower (List.mem_map_of_mem hc)).1

end Reclaim.Text
