import Reclaim.ResourceId
import Reclaim.Proofs.Text.Cutting
import Reclaim.Proofs.Text.Letters
import Mathlib.Data.List.Forall2

/-!
# The grammar of resource ids

An id is written character by character as the grammar says. The reader, which works on segments,
accepts exactly what the grammar admits, and finds the same group and name in it.
-/

namespace Reclaim.ResourceId

/-! ## The grammar -/

/-- A letter of a keyword, in either case or in one of the forms that count as the same letter. -/
def IsLetter (c letter : Char) : Prop :=
  c = letter ∨ c = letter.toUpper ∨ (letter = 's' ∧ c = '\u017F') ∨
    (letter = 'i' ∧ (c = '\u0130' ∨ c = '\u0131'))

def Spells (word : List Char) (keyword : String) : Prop :=
  List.Forall₂ IsLetter word keyword.toList

def IsSegment (segment : List Char) : Prop := segment ≠ [] ∧ '/' ∉ segment

inductive Root : List Char → List Char → Prop
  | intro {subscriptions subscription groups group : List Char}
      (hsubscriptions : Spells subscriptions "subscriptions")
      (hsubscription : IsSegment subscription)
      (hgroups : Spells groups "resourcegroups")
      (hgroup : IsSegment group) :
      Root ('/' :: subscriptions ++ '/' :: subscription ++ '/' :: groups ++ '/' :: group) group

/-- One or more types, each with a name behind it, and the last of the names. -/
inductive Pairs : List Char → List Char → Prop
  | one {type name : List Char} (htype : IsSegment type) (hname : IsSegment name) :
      Pairs ('/' :: type ++ '/' :: name) name
  | more {type name rest last : List Char} (htype : IsSegment type) (hname : IsSegment name)
      (hrest : Pairs rest last) : Pairs ('/' :: type ++ '/' :: name ++ rest) last

/-- A path, with the group and the name that it gives. -/
inductive Path : List Char → List Char → List Char → Prop
  | root {root group : List Char} (hroot : Root root group) : Path root group group
  | member {root group providers provider pairs name : List Char} (hroot : Root root group)
      (hproviders : Spells providers "providers") (hprovider : IsSegment provider)
      (hpairs : Pairs pairs name) :
      Path (root ++ '/' :: providers ++ '/' :: provider ++ pairs) group name

/-- A path that one slash may follow. -/
def Written (text group name : List Char) : Prop :=
  Path text group name ∨ ∃ path, text = path ++ ['/'] ∧ Path path group name

/-- What stands behind the last slash, apart from slashes at the end. -/
def lastPiece (text : List Char) : List Char := (text.rdropWhile (· = '/')).rtakeWhile (· ≠ '/')

/-! ## Keywords -/

theorem foldLetter_eq_iff {c letter : Char} (h : letter.isLower = true) :
    foldLetter c = letter ↔ IsLetter c letter := by
  rw [Text.isLower_iff] at h
  have hs : 's'.toNat = 115 := rfl
  have hi : 'i'.toNat = 105 := rfl
  have hlong : '\u017F'.toNat = 383 := rfl
  have hdotted : '\u0130'.toNat = 304 := rfl
  have hdotless : '\u0131'.toNat = 305 := rfl
  unfold foldLetter IsLetter
  simp only [← Char.toNat_inj, Text.toNat_toUpper, if_pos h, hs, hi, hlong, hdotted, hdotless,
    Bool.or_eq_true, decide_eq_true_eq]
  split
  next hc => omega
  next hc =>
    split
    next hc' => omega
    next hc' =>
      rw [Text.toNat_toLower]
      split <;> omega

theorem isKeyword_iff {keyword : String} (h : ∀ letter ∈ keyword.toList, letter.isLower = true)
    {word : List Char} : isKeyword keyword word = true ↔ Spells word keyword := by
  unfold isKeyword Spells
  rw [beq_iff_eq]
  generalize keyword.toList = letters at h
  induction word generalizing letters with
  | nil => cases letters <;> simp
  | cons c rest ih =>
    cases letters with
    | nil => simp
    | cons letter letters =>
      have hhead := foldLetter_eq_iff (c := c) (h letter List.mem_cons_self)
      have hrest := ih letters fun l hl => h l (List.mem_cons_of_mem _ hl)
      simp [hhead, hrest]

theorem Spells.slash_notMem {word : List Char} {keyword : String}
    (h : ∀ letter ∈ keyword.toList, letter.isLower = true) (hword : Spells word keyword) :
    '/' ∉ word := by
  unfold Spells at hword
  generalize keyword.toList = letters at h hword
  induction hword with
  | nil => simp
  | @cons c letter rest letters hletter _ ih =>
    have hlower := h letter List.mem_cons_self
    have hne : c ≠ '/' := by
      rintro rfl
      have hfold : '/' = letter := (foldLetter_eq_iff hlower).mpr hletter
      rw [← hfold] at hlower
      cases hlower
    have hrest := ih fun l hl => h l (List.mem_cons_of_mem _ hl)
    simp [hne.symm, hrest]

theorem lower_subscriptions : ∀ letter ∈ "subscriptions".toList, letter.isLower = true :=
  List.all_eq_true.mp (by decide)

theorem lower_resourcegroups : ∀ letter ∈ "resourcegroups".toList, letter.isLower = true :=
  List.all_eq_true.mp (by decide)

theorem lower_providers : ∀ letter ∈ "providers".toList, letter.isLower = true :=
  List.all_eq_true.mp (by decide)

/-! ## What is written is read -/

theorem lastName?_more {type name last : List Char} {rest : List (List Char)}
    (htype : type ≠ []) (hname : name ≠ []) (h : lastName? rest = some last) :
    lastName? (type :: name :: rest) = some last := by
  match rest, h with
  | [segment], h =>
    simp [lastName?] at h
  | first :: second :: more, h =>
    rw [lastName?, if_neg]
    · exact h
    · simp [htype, hname]
    · simp
    · simp

theorem Pairs.read {text last : List Char} (h : Pairs text last) :
    ∃ rest, text = '/' :: rest ∧ lastName? (Text.segments '/' rest) = some last ∧
      lastName? (Text.segments '/' rest ++ [[]]) = some last := by
  induction h with
  | @one type name htype hname =>
    refine ⟨type ++ '/' :: name, by simp, ?_, ?_⟩
    · rw [Text.segments_of_append htype.2, Text.segments_of_notMem hname.2]
      simp [lastName?, htype.1, hname.1]
    · rw [Text.segments_of_append htype.2, Text.segments_of_notMem hname.2]
      simp [lastName?, htype.1, hname.1]
  | @more type name rest last htype hname _ ih =>
    obtain ⟨behind, rfl, hlast, hslash⟩ := ih
    refine ⟨type ++ '/' :: (name ++ '/' :: behind), by simp, ?_, ?_⟩
    · rw [Text.segments_of_append htype.2, Text.segments_of_append hname.2]
      exact lastName?_more htype.1 hname.1 hlast
    · rw [Text.segments_of_append htype.2, Text.segments_of_append hname.2]
      exact lastName?_more htype.1 hname.1 hslash

theorem Root.read {root group : List Char} (h : Root root group) {text : List Char}
    {rest : List (List Char)} (htext : Text.segments '/' text = Text.segments '/' root ++ rest) :
    parts? text = (nameBehind? group rest).map (group, ·) := by
  cases h with
  | @intro subscriptions subscription groups group hsubscriptions hsubscription hgroups hgroup =>
    have hroot : Text.segments '/'
        ('/' :: subscriptions ++ '/' :: subscription ++ '/' :: groups ++ '/' :: group) =
          [[], subscriptions, subscription, groups, group] := by
      simp only [List.cons_append, List.append_assoc, Text.segments_separator]
      rw [Text.segments_of_append (hsubscriptions.slash_notMem lower_subscriptions),
        Text.segments_of_append hsubscription.2,
        Text.segments_of_append (hgroups.slash_notMem lower_resourcegroups),
        Text.segments_of_notMem hgroup.2]
    have hfirst := (isKeyword_iff lower_subscriptions).mpr hsubscriptions
    have hsecond := (isKeyword_iff lower_resourcegroups).mpr hgroups
    rw [hroot] at htext
    simp [parts?, htext, hfirst, hsecond, hsubscription.1, hgroup.1]

theorem Path.read {text group name : List Char} (h : Path text group name) :
    parts? text = some (group, name) ∧ parts? (text ++ ['/']) = some (group, name) := by
  cases h with
  | root hroot =>
    constructor
    · rw [hroot.read (List.append_nil _).symm]
      rfl
    · rw [hroot.read (Text.segments_append _ _)]
      rfl
  | @member root group providers provider pairs name hroot hproviders hprovider hpairs =>
    obtain ⟨rest, rfl, hlast, hslash⟩ := hpairs.read
    have hkeyword := (isKeyword_iff lower_providers).mpr hproviders
    have hbehind : ∀ behind, Text.segments '/'
        (root ++ '/' :: (providers ++ '/' :: (provider ++ '/' :: behind))) =
          Text.segments '/' root ++ providers :: provider :: Text.segments '/' behind := by
      intro behind
      rw [Text.segments_append,
        Text.segments_of_append (hproviders.slash_notMem lower_providers),
        Text.segments_of_append hprovider.2]
    constructor
    · have hsegments := hbehind rest
      rw [show root ++ '/' :: providers ++ '/' :: provider ++ '/' :: rest =
        root ++ '/' :: (providers ++ '/' :: (provider ++ '/' :: rest)) by simp]
      rw [hroot.read hsegments]
      simp [nameBehind?, hkeyword, hprovider.1, hlast]
    · have hsegments := hbehind (rest ++ '/' :: [])
      rw [show root ++ '/' :: providers ++ '/' :: provider ++ '/' :: rest ++ ['/'] =
        root ++ '/' :: (providers ++ '/' :: (provider ++ '/' :: (rest ++ '/' :: []))) by simp]
      rw [hroot.read hsegments, Text.segments_append]
      simp [nameBehind?, hkeyword, hprovider.1, hslash, Text.segments]

/-! ## What is read is written -/

theorem isSegment_pair {type name : List Char} {rest : List (List Char)}
    (hempty : ¬(type.isEmpty || name.isEmpty) = true)
    (hslash : ∀ segment ∈ type :: name :: rest, '/' ∉ segment) :
    IsSegment type ∧ IsSegment name := by
  simp only [Bool.or_eq_true, List.isEmpty_iff, not_or] at hempty
  exact ⟨⟨hempty.1, hslash type (by simp)⟩, hempty.2, hslash name (by simp)⟩

/-- The recursion of the reader: the last pair, alone or before a slash, or a pair before others. -/
theorem pairs_of_lastName? {pairs : List (List Char)} {last : List Char}
    (h : lastName? pairs = some last) (hslash : ∀ segment ∈ pairs, '/' ∉ segment) :
    Pairs (pairs.flatMap ('/' :: ·)) last ∨
      ∃ path, pairs.flatMap ('/' :: ·) = path ++ ['/'] ∧ Pairs path last := by
  fun_induction lastName? pairs with
  | case1 type name hempty => cases h
  | case2 type name hempty =>
    obtain ⟨htype, hname⟩ := isSegment_pair hempty hslash
    cases h
    left
    simpa using Pairs.one htype hname
  | case3 type name hempty => cases h
  | case4 type name hempty =>
    obtain ⟨htype, hname⟩ := isSegment_pair hempty hslash
    cases h
    right
    exact ⟨_, by simp, Pairs.one htype hname⟩
  | case5 type name rest _ _ hempty => cases h
  | case6 type name rest _ _ hempty ih =>
    obtain ⟨htype, hname⟩ := isSegment_pair hempty hslash
    rcases ih h fun segment hsegment => hslash segment (by simp [hsegment]) with
      hrest | ⟨path, hpath, hrest⟩
    · left
      simpa using Pairs.more htype hname hrest
    · right
      refine ⟨'/' :: type ++ '/' :: name ++ path, ?_, Pairs.more htype hname hrest⟩
      simp [hpath]
  | case7 => cases h

theorem root_of_segments {text subscriptions subscription groups group : List Char}
    {rest : List (List Char)}
    (hsegments : Text.segments '/' text =
      [] :: subscriptions :: subscription :: groups :: group :: rest)
    (hkeys : (isKeyword "subscriptions" subscriptions && !subscription.isEmpty &&
      isKeyword "resourcegroups" groups && !group.isEmpty) = true) :
    ∃ root, Root root group ∧ text = root ++ rest.flatMap ('/' :: ·) := by
  have hslash : ∀ segment ∈ [subscription, group], '/' ∉ segment := by
    intro segment hsegment
    refine Text.notMem_of_mem_segments (?_ : _ ∈ Text.segments '/' text)
    rw [hsegments]
    simp only [List.mem_cons, List.not_mem_nil, or_false] at hsegment
    rcases hsegment with rfl | rfl <;> simp
  simp only [Bool.and_eq_true, Bool.not_eq_true', List.isEmpty_eq_false_iff] at hkeys
  obtain ⟨⟨⟨hfirst, hsubscription⟩, hsecond⟩, hgroup⟩ := hkeys
  refine ⟨_, Root.intro ((isKeyword_iff lower_subscriptions).mp hfirst)
    ⟨hsubscription, hslash _ (by simp)⟩ ((isKeyword_iff lower_resourcegroups).mp hsecond)
    ⟨hgroup, hslash _ (by simp)⟩, ?_⟩
  rw [Text.eq_of_segments hsegments]
  simp

theorem written_of_nameBehind? {root group name : List Char} {rest : List (List Char)}
    (hroot : Root root group) (hname : nameBehind? group rest = some name)
    (hslash : ∀ segment ∈ rest, '/' ∉ segment) :
    Written (root ++ rest.flatMap ('/' :: ·)) group name := by
  match rest with
  | [] =>
    obtain rfl : group = name := Option.some.inj hname
    left
    simpa using Path.root hroot
  | [[]] =>
    obtain rfl : group = name := Option.some.inj hname
    right
    exact ⟨root, by simp, Path.root hroot⟩
  | [_ :: _] => cases hname
  | keyword :: provider :: pairs =>
    rw [nameBehind?] at hname
    split at hname
    · next hkeys =>
      simp only [Bool.and_eq_true, Bool.not_eq_true', List.isEmpty_eq_false_iff] at hkeys
      obtain ⟨hkeyword, hprovider⟩ := hkeys
      have hspells := (isKeyword_iff lower_providers).mp hkeyword
      have hsegment : IsSegment provider := ⟨hprovider, hslash provider (by simp)⟩
      rcases pairs_of_lastName? hname fun segment hs => hslash segment (by simp [hs]) with
        hpairs | ⟨path, hpath, hpairs⟩
      · left
        simpa using Path.member hroot hspells hsegment hpairs
      · right
        refine ⟨_, ?_, Path.member hroot hspells hsegment hpairs⟩
        simp [hpath]
    · cases hname

/-- The reader accepts what the grammar admits, and finds what the grammar says is there. -/
theorem parts?_eq_some_iff {text group name : List Char} :
    parts? text = some (group, name) ↔ Written text group name := by
  constructor
  · intro h
    unfold parts? at h
    split at h
    · next subscriptions subscription groups found rest hsegments =>
      split at h
      · next hkeys =>
        obtain ⟨root, hroot, htext⟩ := root_of_segments hsegments hkeys
        obtain ⟨behind, hbehind, hpair⟩ := Option.map_eq_some_iff.mp h
        obtain ⟨rfl, rfl⟩ := Prod.mk.inj hpair
        rw [htext]
        refine written_of_nameBehind? hroot hbehind fun segment hsegment => ?_
        refine Text.notMem_of_mem_segments (?_ : _ ∈ Text.segments '/' text)
        rw [hsegments]
        simp [hsegment]
      · cases h
    · cases h
  · rintro (hpath | ⟨path, rfl, hpath⟩)
    · exact hpath.read.1
    · exact hpath.read.2

/-! ## The name -/

theorem Pairs.ends {text last : List Char} (h : Pairs text last) :
    IsSegment last ∧ ∃ before, text = before ++ '/' :: last := by
  induction h with
  | @one type name htype hname => exact ⟨hname, '/' :: type, rfl⟩
  | @more type name rest last htype hname _ ih =>
    obtain ⟨hlast, before, rfl⟩ := ih
    exact ⟨hlast, '/' :: type ++ '/' :: name ++ before, by simp⟩

theorem Path.ends {text group name : List Char} (h : Path text group name) :
    IsSegment name ∧ ∃ before, text = before ++ '/' :: name := by
  cases h with
  | root hroot =>
    cases hroot with
    | intro _ _ _ hgroup => exact ⟨hgroup, _, rfl⟩
  | member _ _ _ hpairs =>
    obtain ⟨hname, before, rfl⟩ := hpairs.ends
    exact ⟨hname, _, (List.append_assoc _ _ _).symm⟩

theorem lastPiece_append {name : List Char} (hname : IsSegment name) (before : List Char) :
    lastPiece (before ++ '/' :: name) = name := by
  have hkept : (before ++ '/' :: name).rdropWhile (· = '/') = before ++ '/' :: name := by
    rw [List.rdropWhile_eq_self_iff]
    intro hne hslash
    have hlast : (before ++ '/' :: name).getLast hne = name.getLast hname.1 := by
      rw [List.getLast_append_of_ne_nil hne (by simp), List.getLast_cons hname.1]
    rw [hlast, decide_eq_true_eq] at hslash
    exact hname.2 (hslash ▸ List.getLast_mem hname.1)
  have hother : ∀ c ∈ name.reverse, decide (c ≠ '/') = true := by
    intro c hc
    rw [List.mem_reverse] at hc
    have hne : c ≠ '/' := by
      rintro rfl
      exact hname.2 hc
    simpa using hne
  unfold lastPiece
  rw [hkept, List.rtakeWhile, List.reverse_append, List.reverse_cons, List.append_assoc,
    List.takeWhile_append_of_pos hother]
  simp

/-- The name in an id is what stands behind its last slash, a slash at the end apart. -/
theorem Written.lastPiece_eq {text group name : List Char} (h : Written text group name) :
    IsSegment name ∧ lastPiece text = name := by
  rcases h with hpath | ⟨path, rfl, hpath⟩
  · obtain ⟨hname, before, rfl⟩ := hpath.ends
    exact ⟨hname, lastPiece_append hname before⟩
  · obtain ⟨hname, before, rfl⟩ := hpath.ends
    refine ⟨hname, ?_⟩
    unfold lastPiece
    rw [List.rdropWhile_concat_pos _ _ _ (by simp)]
    exact lastPiece_append hname before

/-! ## Reading -/

/-- The fault with which a value is refused as an id. -/
def refusal : Value → Fault
  | .str s => .malformedId s
  | v => .idNotText v

theorem parse?_eq_some_iff {s : String} {id : ResourceId} :
    parse? s = some id ↔
      id.text = s ∧ Written (Text.trim s.toList) id.group.toList id.name.toList := by
  unfold parse?
  rw [Option.map_eq_some_iff]
  constructor
  · rintro ⟨⟨group, name⟩, hparts, rfl⟩
    simpa using parts?_eq_some_iff.mp hparts
  · rintro ⟨rfl, hwritten⟩
    refine ⟨_, parts?_eq_some_iff.mpr hwritten, ?_⟩
    simp

theorem parse?_eq_none_iff {s : String} :
    parse? s = none ↔ ∀ group name, ¬ Written (Text.trim s.toList) group name := by
  constructor
  · intro h group name hwritten
    have hsome : parse? s = some ⟨String.ofList group, String.ofList name, s⟩ :=
      parse?_eq_some_iff.mpr ⟨rfl, by simpa using hwritten⟩
    rw [h] at hsome
    cases hsome
  · intro h
    cases hid : parse? s with
    | none => rfl
    | some id => exact absurd (parse?_eq_some_iff.mp hid).2 (h _ _)

/-- A value is read as an id exactly if it is a text that, apart from blanks around it, the grammar
admits. The id keeps the text, and holds the group and the name that the grammar finds there; the
name is also what stands behind the last slash. Every other value is refused as malformed. A line
break at the end is a blank like others, so no text is admitted for what comes before one. -/
theorem read_follows_grammar (v : Value) :
    (∀ id, read v = .ok id ↔ ∃ s, v = .str s ∧ id.text = s ∧
      Written (Text.trim s.toList) id.group.toList id.name.toList) ∧
    (∀ fault, read v = .error fault ↔ fault = refusal v ∧
      ∀ s group name, v = .str s → ¬ Written (Text.trim s.toList) group name) ∧
    (∀ id, read v = .ok id → id.name ≠ "" ∧ '/' ∉ id.name.toList ∧
      id.name.toList = lastPiece (Text.trim id.text.toList)) ∧
    ∀ s path, v = .str s → Text.trim s.toList ≠ path ++ ['\n'] := by
  have hread : ∀ s id, read (.str s) = .ok id ↔ parse? s = some id := by
    intro s id
    rw [read]
    cases parse? s <;> simp
  have hok : ∀ id, read v = .ok id ↔ ∃ s, v = .str s ∧ id.text = s ∧
      Written (Text.trim s.toList) id.group.toList id.name.toList := by
    intro id
    cases v with
    | str s =>
      rw [hread, parse?_eq_some_iff]
      constructor
      · rintro ⟨htext, hwritten⟩
        exact ⟨s, rfl, htext, hwritten⟩
      · rintro ⟨_, ⟨⟩, htext, hwritten⟩
        exact ⟨htext, hwritten⟩
    | _ => simp [read]
  refine ⟨hok, ?_, ?_, ?_⟩
  · intro fault
    cases v with
    | str s =>
      cases hid : parse? s with
      | none =>
        have hread : read (.str s) = .error (refusal (.str s)) := by simp [read, refusal, hid]
        rw [hread, Except.error.injEq, eq_comm]
        constructor
        · rintro rfl
          refine ⟨rfl, ?_⟩
          rintro _ group name ⟨⟩
          exact parse?_eq_none_iff.mp hid group name
        · exact fun h => h.1
      | some id =>
        have hwritten := (parse?_eq_some_iff.mp hid).2
        rw [(hread s id).mpr hid]
        constructor
        · rintro ⟨⟩
        · rintro ⟨-, hnone⟩
          exact absurd hwritten (hnone s _ _ rfl)
    | _ => simp [read, refusal, eq_comm]
  · intro id hid
    obtain ⟨s, rfl, rfl, hwritten⟩ := (hok id).mp hid
    obtain ⟨hname, hlast⟩ := hwritten.lastPiece_eq
    refine ⟨?_, hname.2, hlast.symm⟩
    intro hempty
    exact hname.1 (by simp [hempty])
  · intro s path _ htrim
    have hlast : (Text.trim s.toList).getLast? = some '\n' := by simp [htrim]
    have hblank := Text.not_isBlank_of_getLast?_trim hlast
    revert hblank
    decide

end Reclaim.ResourceId
