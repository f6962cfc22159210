import Reclaim.Proofs.Authorisation.Operations
import Reclaim.Proofs.Text.Lookalikes
import Reclaim.Proofs.Turns.Interfaces

/-!
# What a tag must say

A public IP counts as generated exactly if the text of its tag is the word `true`, in ASCII letters
of either case and with blanks around it. No character that only looks like a letter, or like
nothing, gets past. On this alone depends whether the delete of a public IP is requested.
-/

namespace Reclaim

open Reclaim.Action

variable {τ W : Type}

namespace Ownership

/-! ## Texts -/

/-- The word between blanks, in ASCII letters of either case. -/
def SaysTrue (s : String) : Prop :=
  ∃ before word after, s.toList = before ++ word ++ after ∧
    Text.SameButCase word "true".toList ∧ before ⊆ Text.whiteSpace ∧ after ⊆ Text.whiteSpace

theorem isLetterCode_of_sameButCase {word : List Char}
    (h : Text.SameButCase word "true".toList) : ∀ c ∈ word, Text.IsLetterCode c.toNat :=
  h.isLetterCode (by simp [Text.IsLetterCode])

theorem saysTrue_iff_trim {s : String} :
    SaysTrue s ↔ Text.SameButCase (Text.trim s.toList) "true".toList := by
  constructor
  · rintro ⟨before, word, after, htext, hword, hbefore, hafter⟩
    have hne : word ≠ [] := by
      rintro rfl
      cases hword
    have hletters : ∀ c ∈ word, Text.isBlank c = false := fun c hc =>
      Text.not_isBlank_of_isLetterCode (isLetterCode_of_sameButCase hword c hc)
    rwa [htext, Text.trim_surrounded hne (fun c hc => Text.isBlank_iff.mpr (hbefore hc)) hletters
      fun c hc => Text.isBlank_iff.mpr (hafter hc)]
  · intro hword
    obtain ⟨before, after, htext, hbefore, hafter⟩ := Text.exists_trim s.toList
    exact ⟨before, _, after, htext, hword, fun c hc => Text.isBlank_iff.mp (hbefore c hc),
      fun c hc => Text.isBlank_iff.mp (hafter c hc)⟩

theorem isUnmistakable_true : Text.IsUnmistakable "true".toList := by
  simp [Text.IsUnmistakable]

theorem isTrue_iff_trim {v : Value} :
    isTrue v = true ↔ Text.SameButCase (Text.trim v.text.toList) "true".toList := by
  rw [Text.sameButCase_iff (by decide), ← Text.lowerAfter_eq_iff isUnmistakable_true []]
  unfold isTrue Text.lower Text.strip
  rw [beq_iff_eq, ← String.toList_inj, String.toList_ofList, String.toList_ofList]

theorem isTrue_iff {v : Value} : isTrue v = true ↔ SaysTrue v.text :=
  isTrue_iff_trim.trans saysTrue_iff_trim.symm

theorem SaysTrue.blank_or_letter {s : String} (h : SaysTrue s) :
    ∀ c ∈ s.toList, Text.isBlank c = true ∨ Text.IsLetterCode c.toNat := by
  obtain ⟨before, word, after, htext, hword, hbefore, hafter⟩ := h
  intro c hc
  simp only [htext, List.mem_append] at hc
  rcases hc with (hc | hc) | hc
  · exact .inl (Text.isBlank_iff.mpr (hbefore hc))
  · exact .inr (isLetterCode_of_sameButCase hword c hc)
  · exact .inl (Text.isBlank_iff.mpr (hafter hc))

theorem not_saysTrue_of_lookalike {s : String} {c : Char} (hc : c ∈ s.toList)
    (h : Text.IsLookalike c) : ¬ SaysTrue s := by
  intro hsays
  rcases hsays.blank_or_letter c hc with hblank | hletter
  · rw [h.not_isBlank] at hblank
    cases hblank
  · exact h.not_isLetterCode hletter

/-! ## Values -/

/-- A digit, a sign or a bracket: printed in ASCII, but no letter. -/
def IsSymbol (c : Char) : Prop :=
  0x21 ≤ c.toNat ∧ c.toNat < 0x80 ∧ ¬ Text.IsLetterCode c.toNat

instance : DecidablePred IsSymbol :=
  fun c => inferInstanceAs (Decidable (0x21 ≤ c.toNat ∧ c.toNat < 0x80 ∧ ¬ _))

def HasSymbol (s : String) : Prop := ∃ c ∈ s.toList, IsSymbol c

theorem HasSymbol.not_saysTrue {s : String} (h : HasSymbol s) : ¬ SaysTrue s := by
  obtain ⟨c, hc, hfirst, hlast, hletter⟩ := h
  intro hsays
  rcases hsays.blank_or_letter c hc with hblank | hcode
  · rw [Text.not_isBlank_of_visible hfirst hlast] at hblank
    cases hblank
  · exact hletter hcode

theorem isSymbol_of_isDigit {c : Char} (h : c.isDigit = true) : IsSymbol c := by
  unfold Char.isDigit at h
  simp only [Bool.and_eq_true, decide_eq_true_eq] at h
  have hfirst : 48 ≤ c.toNat := UInt32.le_iff_toNat_le.mp h.1
  have hlast : c.toNat ≤ 57 := UInt32.le_iff_toNat_le.mp h.2
  unfold IsSymbol Text.IsLetterCode
  omega

theorem hasSymbol_nat (n : Nat) : HasSymbol (Nat.repr n) := by
  obtain ⟨c, hc⟩ := List.exists_mem_of_ne_nil (Nat.toDigits 10 n) Nat.toDigits_ne_nil
  refine ⟨c, ?_, isSymbol_of_isDigit (Nat.isDigit_of_mem_toDigits (by decide) (by decide) hc)⟩
  rwa [Nat.repr, String.toList_ofList]

theorem hasSymbol_int (n : Int) : HasSymbol (toString n) := by
  cases n with
  | ofNat n => exact hasSymbol_nat n
  | negSucc n => exact ⟨'-', by simp [toString, Int.repr], by decide⟩

/-- A number has its point, or the sign of its exponent. -/
theorem exists_symbol_numeral (n : Decimal.Numeral) : ∃ c ∈ n.chars, IsSymbol c := by
  unfold Decimal.Numeral.chars
  dsimp only
  split
  · refine ⟨'.', ?_, by decide⟩
    unfold Decimal.positional
    split <;> simp
  next hscientific =>
    generalize (_ : Int) - 1 = power
    refine ⟨if power < 0 then '-' else '+', by simp [Decimal.scientific], ?_⟩
    split <;> decide

theorem text_float_cases (x : Float) :
    Decimal.text x = "nan" ∨ Decimal.text x = "inf" ∨ HasSymbol (Decimal.text x) := by
  unfold Decimal.text
  by_cases hnan : x.isNaN = true
  · rw [if_pos hnan]
    exact .inl rfl
  rw [if_neg hnan]
  refine .inr ?_
  by_cases hinf : x.isInf = true
  · by_cases hnegative : Decimal.isNegative x = true
    · rw [if_pos hnegative]
      exact .inr ⟨'-', by simp, by decide⟩
    · rw [if_neg hnegative, if_pos hinf]
      exact .inl rfl
  · obtain ⟨c, hc, hsymbol⟩ := exists_symbol_numeral (Decimal.Binary.ofFloat x).shortest
    rw [if_neg hinf]
    exact .inr ⟨c, by simp [hc], hsymbol⟩

theorem not_saysTrue_float (x : Float) : ¬ SaysTrue (Decimal.text x) := by
  rcases text_float_cases x with hnan | hinf | hsymbol
  · rw [hnan]
    exact mt (isTrue_iff (v := .str "nan")).mpr (by decide +kernel)
  · rw [hinf]
    exact mt (isTrue_iff (v := .str "inf")).mpr (by decide +kernel)
  · exact hsymbol.not_saysTrue

/-- Of all values, only the truth value and texts can say true. -/
theorem saysTrue_text_iff {v : Value} :
    SaysTrue v.text ↔ v = .bool true ∨ ∃ s, v = .str s ∧ SaysTrue s := by
  cases v with
  | null =>
    have hnull : ¬ SaysTrue (Value.text .null) := mt isTrue_iff.mpr (by decide +kernel)
    simp [hnull]
  | bool b =>
    rw [← isTrue_iff]
    cases b with
    | false =>
      have hfalse : isTrue (.bool false) = false := by decide +kernel
      simp [hfalse]
    | true =>
      have htrue : isTrue (.bool true) = true := by decide +kernel
      simp [htrue]
  | int n =>
    have hint : ¬ SaysTrue (Value.text (.int n)) := (hasSymbol_int n).not_saysTrue
    simp [hint]
  | float x =>
    have hfloat : ¬ SaysTrue (Value.text (.float x)) := not_saysTrue_float x
    simp [hfloat]
  | str s => simp [Value.text]
  | list items =>
    have hlist : HasSymbol (Value.text (.list items)) :=
      ⟨'[', by simp [Value.text, Value.shown], by decide⟩
    simp [hlist.not_saysTrue]
  | dict entries =>
    have hdict : HasSymbol (Value.text (.dict entries)) :=
      ⟨'\x7b', by simp [Value.text, Value.shown], by decide⟩
    simp [hdict.not_saysTrue]

/-! ## Tags -/

/-- The tags hold the key, with a value whose text says true. -/
def Marked (key : String) (tags : Tags) : Prop :=
  ∃ value, tags.lookup key = some value ∧ SaysTrue value.text

theorem isGenerated_iff {key : String} {ip : Model.Tagged} :
    isGenerated key ip = true ↔ Marked key ip.tags := by
  unfold isGenerated Marked
  simp only [Option.any_eq_true, isTrue_iff]

/-! ## Deletes -/

/-- Right before its delete is requested, the IP was shown with a mark. -/
theorem marked_of_warranted {t : Teardown τ} {operation : Operation} {past : List (Event τ)}
    {group : String} {name : Option String}
    (h : Warranted t operation past (.resource .publicIp group name)) :
    ∃ shown ip, name = some shown ∧ JustShown past .publicIp ⟨group, shown⟩ ip ∧
      Marked t.generatedTag ip.tags := by
  cases name with
  | none => exact h.elim
  | some shown =>
    obtain ⟨_, _, _, ip, value, -, -, hshown, hvalue, htrue⟩ := h
    exact ⟨shown, ip, rfl, hshown, value, hvalue, isTrue_iff.mp htrue⟩

variable [Timescale τ] {t : Teardown τ} {setting : Setting τ W} {session : Session τ W}

/-- The IP can be read here, and shows a mark. -/
def ShowsMark (t : Teardown τ) (setting : Setting τ W) (session : Session τ W)
    (id : ResourceId) : Prop :=
  ∃ ip read, (Access.get .publicIp id.group id.name).run setting session = .ok (some ip) read ∧
    Marked t.generatedTag ip.tags

theorem showsMark_iff {id : ResourceId} {ip : Model.Tagged} {read : Session τ W}
    (hget : (Access.get .publicIp id.group id.name).run setting session = .ok (some ip) read) :
    ShowsMark t setting session id ↔ isGenerated t.generatedTag ip = true := by
  rw [isGenerated_iff]
  constructor
  · rintro ⟨_, _, hshown, hmarked⟩
    cases hget.symm.trans hshown
    exact hmarked
  · exact fun hmarked => ⟨ip, read, hget, hmarked⟩

/-- Where nothing but the IP itself is asked for, it must show no mark. -/
theorem asks_iff_of_get {id : ResourceId} {events : List (Event τ)}
    (hcalls : calls events = [.get .publicIp id.group id.name])
    (hunmarked : ¬ ShowsMark t setting session id) :
    setting.provider.deleteRequest .publicIp id.group (some id.name) ∈ calls events ↔
      ShowsMark t setting session id := by
  simp [hcalls, Provider.deleteRequest_ne_get, hunmarked]

theorem removePublicIp_asks {id : ResourceId} :
    Ends setting session (t.removePublicIp id) fun events _ _ =>
      (setting.provider.deleteRequest .publicIp id.group (some id.name) ∈ calls events ↔
        ShowsMark t setting session id) := by
  unfold Teardown.removePublicIp
  refine Ends.bind (Ends.runs get_raises) ?_ ?_
  · rintro events found read ⟨⟨hcalls, -⟩, hget⟩
    cases found with
    | none =>
      refine Ends.log (Ends.pure (asks_iff_of_get ((calls_append_logged ..).trans hcalls) ?_))
      rintro ⟨ip, after, hshown, -⟩
      cases hget.eq_ok.symm.trans hshown
    | some ip =>
      have hmark := showsMark_iff (t := t) hget.eq_ok
      dsimp only
      cases htag : isGenerated t.generatedTag ip with
      | false =>
        refine Ends.log (Ends.pure (asks_iff_of_get ((calls_append_logged ..).trans hcalls) ?_))
        simp [hmark, htag]
      | true =>
        refine Ends.mono deletePublicIp_ends ?_
        rintro more result after ⟨hmore, -⟩
        simp [hmark, htag, calls_append, hmore]
  · rintro events reason read ⟨⟨hcalls, -⟩, hget⟩
    refine asks_iff_of_get hcalls ?_
    rintro ⟨ip, after, hshown, -⟩
    cases hget.eq_error.symm.trans hshown

theorem tryPublicIp_asks {id : ResourceId} :
    Ends setting session (t.tryPublicIp id) fun events _ _ =>
      (setting.provider.deleteRequest .publicIp id.group (some id.name) ∈ calls events ↔
        ShowsMark t setting session id) := by
  refine Ends.rescue removePublicIp_asks (fun _ _ _ hasks => hasks) ?_ fun _ _ hasks => hasks
  intro events fault after hasks
  refine Ends.log (Ends.pure ?_)
  rwa [calls_append_logged]

/-- A text counts as true exactly if it is the word, in ASCII letters of either case, once the
blanks around it are gone; with a lookalike anywhere in it, it never does. Of all other values only
the truth value does. A public IP counts as generated exactly if its tags hold the key with a value
whose text is such a text. When an IP is tried, its delete is requested exactly if it can be read
and shows such a tag; and in every run of every operation, each IP whose delete is requested was
shown with one right before. -/
theorem generated_iff_tag_says_true (t : Teardown τ) (setting : Setting τ W)
    (session : Session τ W) :
    (∀ s, isTrue (.str s) = true ↔ Text.SameButCase (Text.trim s.toList) "true".toList) ∧
      (∀ s, isTrue (.str s) = true ↔ SaysTrue s) ∧
      (∀ s, ∀ c ∈ s.toList, Text.IsLookalike c → isTrue (.str s) = false) ∧
      (∀ v, isTrue v = true ↔ v = .bool true ∨ ∃ s, v = .str s ∧ SaysTrue s) ∧
      (∀ key ip, isGenerated key ip = true ↔ Marked key ip.tags) ∧
      (∀ id, Ends setting session (t.tryPublicIp id) fun events _ _ =>
        (setting.provider.deleteRequest .publicIp id.group (some id.name) ∈ calls events ↔
          ShowsMark t setting session id)) ∧
      ∀ operation, ∃ events,
        (left ((t.carryOut operation).run setting session)).trace.toList =
            session.trace.toList ++ events ∧
          ∀ before request reply rest, events = before ++ .asked request reply :: rest →
            ∀ group name, request.removal? = some (.resource .publicIp group name) →
              ∃ shown ip, name = some shown ∧ JustShown before .publicIp ⟨group, shown⟩ ip ∧
                Marked t.generatedTag ip.tags := by
  refine ⟨fun _ => isTrue_iff_trim, fun _ => isTrue_iff, ?_,
    fun _ => isTrue_iff.trans saysTrue_text_iff, fun _ _ => isGenerated_iff,
    fun _ => tryPublicIp_asks, ?_⟩
  · intro s c hc hlookalike
    exact Bool.eq_false_iff.mpr (mt isTrue_iff.mp (not_saysTrue_of_lookalike hc hlookalike))
  · intro operation
    obtain ⟨events, htrace, -, hobeys⟩ :=
      Teardown.carryOut_events (t := t) operation setting session
    refine ⟨events, htrace, ?_⟩
    rintro before request reply rest rfl group name hremoval
    exact marked_of_warranted (hobeys.at _ hremoval)

end Ownership

/-! A public IP behind an interface, with any text as its tag. -/

namespace Labelled

def ip (text : String) : Model.Tagged where
  id := some "/subscriptions/s/resourceGroups/rg/providers/p/addresses/ip"
  name := some "ip"
  tags := [("generated", .str text)]

def interface : Model.Interface where
  id := some "/subscriptions/s/resourceGroups/rg/providers/p/interfaces/nic"
  name := some "nic"
  ipConfigurations := [some ⟨some ⟨(ip "").id⟩⟩]

def machine : View.Machine where
  id := some "/subscriptions/s/resourceGroups/rg/providers/p/machines/vm"
  name := some "vm"
  group := "rg"
  interfaceIds := ["/subscriptions/s/resourceGroups/rg/providers/p/interfaces/nic"]
  osDiskId := none
  dataDiskIds := []
  availabilitySetId := none

def provider (text : String) : Provider Rat Unit where
  answer
    | .get .networkInterface _ _, world => (.ok (some interface), 1, world)
    | .get .publicIp _ _, world => (.ok (some (ip text)), 1, world)
    | .get _ _ _, world => (.error (.response ⟨.notFound, "gone", none⟩), 1, world)
    | .list _ _, world => (⟨[], none⟩, 1, world)
    | .beginDelete _ _ _, world => (.ok none, 1, world)
    | .delete _ _ _, world => (.ok (), 1, world)
    | .members _, world => (⟨[], none⟩, 1, world)
    | .beginDeleteGroup _, world => (.ok none, 1, world)
    | .isDone _, world => (.ok true, 1, world)
    | .status _, world => (.ok (some "Succeeded"), 1, world)
  deletesAtOnce := Kind.deletesAtOnce

/-- The word between other blanks than a space opens the gate, and the delete of the IP follows on
the reply that showed it. With a space of no width inside, it is no word. -/
theorem only_the_word_opens :
    Ownership.isTrue (.str "\u3000tRuE\n") = true ∧
      Ownership.isTrue (.str "tr\u200Bue") = false ∧
      ∃ before reply rest,
        (left ((Teardown.sample.carryOut (.interfaces machine)).run
          ⟨provider "\u3000tRuE\n", 1⟩ ⟨(), 0, #[]⟩)).trace.toList =
            before ++ .asked (.beginDelete .publicIp "rg" (some "ip")) reply :: rest ∧
          ∃ ip, JustShown before .publicIp ⟨"rg", "ip"⟩ ip ∧
            Ownership.Marked "generated" ip.tags := by
  obtain ⟨htrim, -, hlookalike, -, -, -, hruns⟩ := Ownership.generated_iff_tag_says_true
    Teardown.sample ⟨provider "\u3000tRuE\n", 1⟩ ⟨(), 0, #[]⟩
  refine ⟨?_, hlookalike _ '\u200B' (by decide) (.hides (by decide)), ?_⟩
  · rw [htrim, Text.sameButCase_iff (by decide)]
    decide
  · obtain ⟨events, htrace, hmarked⟩ := hruns (.interfaces machine)
    have hdeleted : .beginDelete .publicIp "rg" (some "ip") ∈
        calls (left ((Teardown.sample.carryOut (.interfaces machine)).run
          ⟨provider "\u3000tRuE\n", 1⟩ ⟨(), 0, #[]⟩)).trace.toList := by
      decide +kernel
    obtain ⟨before, reply, rest, hsplit⟩ := exists_asked_of_mem_calls hdeleted
    obtain ⟨_, ip, ⟨⟩, hshown, hmark⟩ :=
      hmarked before _ reply rest (htrace.symm.trans hsplit) "rg" (some "ip") rfl
    exact ⟨before, reply, rest, hsplit, ip, hshown, hmark⟩

end Labelled

end Reclaim
