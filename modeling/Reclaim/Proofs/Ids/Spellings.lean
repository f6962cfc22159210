import Reclaim.Proofs.Ids.Grammar
import Reclaim.Proofs.Cloud.Mention

/-!
# Spellings of one id

Blanks around an id and one slash at its end do not count when the id is read. In lower case they
stay: two spellings of the same path have the same lower case only if they are the same text.
-/

namespace Reclaim.ResourceId

/-- What is left of a text without the blanks around it and one slash at its end. -/
def bare (s : String) : List Char :=
  let text := Text.trim s.toList
  if text.getLast? = some '/' then text.dropLast else text

variable {s s' : String} {id id' : ResourceId}

/-! ## The path in a text -/

theorem Path.getLast?_ne_slash {text group name : List Char} (h : Path text group name) :
    text.getLast? ≠ some '/' := by
  obtain ⟨⟨hne, hslash⟩, before, rfl⟩ := h.ends
  intro hlast
  rw [List.getLast?_append_of_ne_nil _ (by simp), List.getLast?_cons_of_ne_nil hne] at hlast
  exact hslash (List.mem_of_getLast? hlast)

theorem Path.exists_cons {text group name : List Char} (h : Path text group name) :
    ∃ rest, text = '/' :: rest := by
  cases h with
  | root hroot =>
    cases hroot
    exact ⟨_, rfl⟩
  | member hroot =>
    cases hroot
    exact ⟨_, rfl⟩

theorem Written.path_bare {group name : List Char} (h : Written (Text.trim s.toList) group name) :
    Path (bare s) group name ∧ ∃ slash, Text.trim s.toList = bare s ++ slash ∧
      (slash = [] ∨ slash = ['/']) := by
  unfold bare
  rcases h with hpath | ⟨path, htext, hpath⟩
  · simp only [if_neg hpath.getLast?_ne_slash]
    exact ⟨hpath, [], by simp, .inl rfl⟩
  · simp only [htext, List.getLast?_concat, if_true, List.dropLast_concat]
    exact ⟨hpath, ['/'], rfl, .inr rfl⟩

theorem path_bare (h : parse? s = some id) : Path (bare s) id.group.toList id.name.toList :=
  (parse?_eq_some_iff.mp h).2.path_bare.1

/-- Spellings of one path name the same place. -/
theorem place_eq_of_bare_eq (h : parse? s = some id) (h' : parse? s' = some id')
    (hbare : bare s = bare s') : id.place = id'.place := by
  have hread := (path_bare h).read.1
  rw [hbare, (path_bare h').read.1] at hread
  obtain ⟨hgroup, hname⟩ := Prod.mk.inj (Option.some.inj hread)
  unfold place
  rw [String.toList_inj.mp hgroup, String.toList_inj.mp hname]

/-! ## The lower case of a spelling -/

/-- An accepted text: blanks, a path that starts with a slash, and characters without case. -/
theorem exists_spelling (h : parse? s = some id) :
    ∃ before rest behind, bare s = '/' :: rest ∧
      s.toList = before ++ '/' :: (rest ++ behind) ∧
        (∀ c ∈ before, Text.isBlank c = true) ∧ ∀ c ∈ behind, Text.IsPlain c := by
  obtain ⟨hpath, slash, htrim, hslash⟩ := (parse?_eq_some_iff.mp h).2.path_bare
  obtain ⟨rest, hrest⟩ := hpath.exists_cons
  obtain ⟨before, after, htext, hbefore, hafter⟩ := Text.exists_trim s.toList
  refine ⟨before, rest, slash ++ after, hrest, ?_, hbefore, ?_⟩
  · rw [htext, htrim, hrest]
    simp
  · intro c hc
    rcases List.mem_append.mp hc with hc | hc
    · rcases hslash with rfl | rfl
      · cases hc
      · rw [List.mem_singleton.mp hc]
        exact Text.isPlain_slash
    · exact Text.isPlain_of_isBlank (hafter c hc)

theorem exists_lowerAfter_spelling {before behind : List Char}
    (hbefore : ∀ c ∈ before, Text.isBlank c = true) (hbehind : ∀ c ∈ behind, Text.IsPlain c)
    (rest : List Char) :
    ∃ lowered, lowered.length = Text.lowerLength rest ∧
      Text.lowerAfter [] (before ++ '/' :: (rest ++ behind)) =
        before ++ '/' :: (lowered ++ behind) := by
  have hplain : ∀ c ∈ before ++ ['/'], Text.IsPlain c := by
    intro c hc
    rcases List.mem_append.mp hc with hc | hc
    · exact Text.isPlain_of_isBlank (hbefore c hc)
    · rw [List.mem_singleton.mp hc]
      exact Text.isPlain_slash
  obtain ⟨lowered, hlength, hlowered⟩ :=
    Text.exists_lowerAfter_append ((before ++ ['/']).reverse ++ []) rest behind
  refine ⟨lowered, hlength, ?_⟩
  rw [List.append_cons, Text.lowerAfter_plain hplain, hlowered, Text.lowerAfter_eq_self hbehind,
    List.append_assoc, List.singleton_append]

theorem takeWhile_isBlank {before : List Char} (h : ∀ c ∈ before, Text.isBlank c = true)
    (rest : List Char) : (before ++ '/' :: rest).takeWhile Text.isBlank = before := by
  rw [List.takeWhile_append_of_pos h, List.takeWhile_cons_of_neg (by decide), List.append_nil]

/-- Different spellings of one path differ in lower case. -/
theorem eq_of_lower_eq (h : parse? s = some id) (h' : parse? s' = some id')
    (hbare : bare s = bare s') (hlower : Text.lower s = Text.lower s') : s = s' := by
  obtain ⟨before, rest, behind, hpath, htext, hbefore, hbehind⟩ := exists_spelling h
  obtain ⟨before', rest', behind', hpath', htext', hbefore', hbehind'⟩ := exists_spelling h'
  obtain rfl : rest = rest' := by
    rw [hpath, hpath'] at hbare
    exact (List.cons.inj hbare).2
  obtain ⟨lowered, hlength, hlowered⟩ := exists_lowerAfter_spelling hbefore hbehind rest
  obtain ⟨lowered', hlength', hlowered'⟩ := exists_lowerAfter_spelling hbefore' hbehind' rest
  have hsame : before ++ '/' :: (lowered ++ behind) = before' ++ '/' :: (lowered' ++ behind') := by
    unfold Text.lower at hlower
    rw [← hlowered, ← hlowered', ← htext, ← htext']
    exact String.ofList_injective hlower
  obtain rfl : before = before' := by
    have hblanks := congrArg (List.takeWhile Text.isBlank) hsame
    rwa [takeWhile_isBlank hbefore, takeWhile_isBlank hbefore'] at hblanks
  have htail : lowered ++ behind = lowered' ++ behind' :=
    (List.cons.inj (List.append_cancel_left hsame)).2
  obtain ⟨-, rfl⟩ := List.append_inj htail (hlength.trans hlength'.symm)
  rw [← String.toList_inj, htext, htext']

end Reclaim.ResourceId
