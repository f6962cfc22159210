import Reclaim.Text.Blank
import Reclaim.Text.Segments
import Mathlib.Data.List.DropRight

/-!
# Cutting text

The segments of a text give the text back, and a trimmed text is what stands between the blanks.
-/

namespace Reclaim.Text

/-! ## Segments -/

variable {separator : Char} {cs : List Char}

theorem exists_segments (separator : Char) (cs : List Char) :
    ∃ first others, segments separator cs = first :: others := by
  induction cs with
  | nil => exact ⟨[], [], rfl⟩
  | cons c rest ih =>
    obtain ⟨first, others, hrest⟩ := ih
    unfold segments
    split
    · exact ⟨[], _, rfl⟩
    · exact ⟨c :: first, others, by rw [hrest]⟩

theorem segments_separator (separator : Char) (cs : List Char) :
    segments separator (separator :: cs) = [] :: segments separator cs := by
  simp [segments]

theorem segments_cons_of_ne {c : Char} (hc : c ≠ separator) {first : List Char}
    {others : List (List Char)} (h : segments separator cs = first :: others) :
    segments separator (c :: cs) = (c :: first) :: others := by
  simp [segments, hc, h]

theorem segments_append (a b : List Char) :
    segments separator (a ++ separator :: b) = segments separator a ++ segments separator b := by
  induction a with
  | nil => simp [segments]
  | cons c rest ih =>
    obtain ⟨first, others, hrest⟩ := exists_segments separator rest
    by_cases hc : c = separator
    · subst hc
      simp [segments_separator, ih]
    · rw [hrest, List.cons_append] at ih
      rw [List.cons_append, segments_cons_of_ne hc ih, segments_cons_of_ne hc hrest,
        List.cons_append]

theorem segments_of_notMem (h : separator ∉ cs) : segments separator cs = [cs] := by
  induction cs with
  | nil => rfl
  | cons c rest ih =>
    simp only [List.mem_cons, not_or] at h
    exact segments_cons_of_ne (Ne.symm h.1) (ih h.2)

theorem segments_of_append {a : List Char} (h : separator ∉ a) (b : List Char) :
    segments separator (a ++ separator :: b) = a :: segments separator b := by
  rw [segments_append, segments_of_notMem h, List.singleton_append]

theorem notMem_of_mem_segments {a : List Char} (h : a ∈ segments separator cs) :
    separator ∉ a := by
  induction cs generalizing a with
  | nil =>
    have ha : a = [] := by simpa [segments] using h
    simp [ha]
  | cons c rest ih =>
    obtain ⟨first, others, hrest⟩ := exists_segments separator rest
    by_cases hc : c = separator
    · subst hc
      rw [segments_separator] at h
      rcases List.mem_cons.mp h with rfl | h
      · simp
      · exact ih h
    · rw [segments_cons_of_ne hc hrest] at h
      have hfirst : separator ∉ first := ih (hrest ▸ List.mem_cons_self)
      rcases List.mem_cons.mp h with rfl | h
      · simpa [Ne.symm hc] using hfirst
      · exact ih (hrest ▸ List.mem_cons_of_mem _ h)

/-- The segments, each of the others behind a separator, are the text. -/
theorem eq_of_segments {first : List Char} {others : List (List Char)}
    (h : segments separator cs = first :: others) :
    cs = first ++ others.flatMap (separator :: ·) := by
  induction cs generalizing first others with
  | nil =>
    obtain ⟨rfl, rfl⟩ : [] = first ∧ [] = others := by simpa [segments] using h
    rfl
  | cons c rest ih =>
    obtain ⟨next, more, hrest⟩ := exists_segments separator rest
    have hjoin := ih hrest
    by_cases hc : c = separator
    · subst hc
      rw [segments_separator, hrest] at h
      obtain ⟨rfl, rfl⟩ := List.cons.inj h
      simp [← hjoin]
    · rw [segments_cons_of_ne hc hrest] at h
      obtain ⟨rfl, rfl⟩ := List.cons.inj h
      simp [← hjoin]

/-! ## Trimming -/

theorem trim_eq (cs : List Char) : trim cs = (cs.dropWhile isBlank).rdropWhile isBlank := rfl

/-- Blanks around a text, and the text between them. -/
theorem exists_trim (cs : List Char) :
    ∃ before after, cs = before ++ trim cs ++ after ∧
      (∀ c ∈ before, isBlank c = true) ∧ ∀ c ∈ after, isBlank c = true := by
  refine ⟨cs.takeWhile isBlank, (cs.dropWhile isBlank).rtakeWhile isBlank, ?_, ?_, ?_⟩
  · rw [trim_eq, List.append_assoc, List.rdropWhile_append_rtakeWhile,
      List.takeWhile_append_dropWhile]
  · exact fun c hc => List.mem_takeWhile_imp hc
  · exact fun c hc => List.mem_rtakeWhile_imp hc

theorem trim_surrounded {before word after : List Char} (hne : word ≠ [])
    (hbefore : ∀ c ∈ before, isBlank c = true) (hword : ∀ c ∈ word, isBlank c = false)
    (hafter : ∀ c ∈ after, isBlank c = true) : trim (before ++ word ++ after) = word := by
  have hstart : (word ++ after).dropWhile isBlank = word ++ after := by
    obtain ⟨first, rest, rfl⟩ := List.exists_cons_of_ne_nil hne
    exact List.dropWhile_cons_of_neg (by simp [hword first List.mem_cons_self])
  have hend : (word ++ after).rdropWhile isBlank = word.rdropWhile isBlank := by
    rw [List.rdropWhile, List.reverse_append, List.dropWhile_append_of_pos (by simpa using hafter)]
    rfl
  have hkept : word.rdropWhile isBlank = word := by
    rw [List.rdropWhile_eq_self_iff]
    intro hne
    simp [hword _ (List.getLast_mem hne)]
  rw [trim_eq, List.append_assoc, List.dropWhile_append_of_pos hbefore, hstart, hend, hkept]

theorem not_isBlank_of_getLast?_trim {c : Char} (h : (trim cs).getLast? = some c) :
    isBlank c = false := by
  have hne : trim cs ≠ [] := by
    intro hnil
    simp [hnil] at h
  have hlast : (trim cs).getLast hne = c := by
    rw [List.getLast?_eq_some_getLast hne] at h
    exact Option.some.inj h
  have := List.rdropWhile_last_not isBlank (cs.dropWhile isBlank) hne
  rw [← hlast]
  exact Bool.eq_false_iff.mpr this

end Reclaim.Text
