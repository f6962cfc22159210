import Reclaim.Proofs.Cascade.Ending
import Reclaim.Proofs.Text.Cutting

/-!
# Tokens of nodes

A token names a node if one slash stands inside it. Reading it gives the one node that it encodes,
and no other node has the same token.
-/

namespace Reclaim.NodeId

/-! ## What a token looks like -/

/-- There is one slash, and it is neither the first nor the last character. -/
def IsToken (token : String) : Prop :=
  token.toList.count '/' = 1 ∧ token.toList.head? ≠ some '/' ∧ token.toList.getLast? ≠ some '/'

/-- Neither the group nor the name is empty or holds a slash. -/
structure IsPlain (node : NodeId) : Prop where
  group : node.group ≠ "" ∧ '/' ∉ node.group.toList
  name : node.name ≠ "" ∧ '/' ∉ node.name.toList

/-- The fault with which a value is refused as a token. -/
def refusal : Value → Fault
  | .str token => .malformedNodeId token
  | v => .nodeIdNotText v

variable {node other : NodeId} {token : String}

theorem toList_encode (node : NodeId) :
    node.encode.toList = node.group.toList ++ '/' :: node.name.toList := by
  simp [encode]

theorem isPlain_iff : node.IsPlain ↔
    (node.group.toList ≠ [] ∧ '/' ∉ node.group.toList) ∧
      node.name.toList ≠ [] ∧ '/' ∉ node.name.toList := by
  simp only [Ne, String.toList_eq_nil_iff]
  exact ⟨fun h => ⟨h.group, h.name⟩, fun h => ⟨h.1, h.2⟩⟩

/-- The slash between group and name is the only one if neither of them holds another, and it stands
inside if neither of them is empty. -/
theorem isToken_encode_iff : IsToken node.encode ↔ node.IsPlain := by
  rw [IsToken, toList_encode, isPlain_iff, List.count_append, List.count_cons_self]
  constructor
  · rintro ⟨hcount, hfirst, hlast⟩
    have hgroup : '/' ∉ node.group.toList := List.count_eq_zero.mp (by omega)
    have hname : '/' ∉ node.name.toList := List.count_eq_zero.mp (by omega)
    refine ⟨⟨?_, hgroup⟩, ?_, hname⟩
    · intro hempty
      simp [hempty] at hfirst
    · intro hempty
      simp [hempty] at hlast
  · rintro ⟨⟨hgroup, hgroupSlash⟩, hname, hnameSlash⟩
    refine ⟨?_, ?_, ?_⟩
    · rw [List.count_eq_zero.mpr hgroupSlash, List.count_eq_zero.mpr hnameSlash]
    · rw [List.head?_append_of_ne_nil _ hgroup]
      exact fun hfirst => hgroupSlash (List.mem_of_head? hfirst)
    · rw [List.getLast?_append_of_ne_nil _ (List.cons_ne_nil _ _), List.getLast?_cons]
      intro hlast
      obtain ⟨before, last, hname⟩ := (List.eq_nil_or_concat' node.name.toList).resolve_left hname
      obtain rfl : last = '/' := by simpa [hname] using hlast
      exact hnameSlash (by simp [hname])

/-- A text with a slash in it is the token of some node. -/
theorem exists_encode (h : '/' ∈ token.toList) : ∃ node : NodeId, node.encode = token := by
  obtain ⟨group, name, hsplit⟩ := List.append_of_mem h
  refine ⟨⟨String.ofList group, String.ofList name⟩, String.toList_injective ?_⟩
  simp [toList_encode, hsplit]

theorem isToken_iff : IsToken token ↔ ∃ node : NodeId, node.IsPlain ∧ node.encode = token := by
  constructor
  · intro h
    obtain ⟨node, rfl⟩ := exists_encode (List.count_pos_iff.mp (by rw [h.1]; exact Nat.one_pos))
    exact ⟨node, isToken_encode_iff.mp h, rfl⟩
  · rintro ⟨node, hplain, rfl⟩
    exact isToken_encode_iff.mpr hplain

/-! ## Reading -/

theorem segments_encode (h : '/' ∉ node.group.toList) (h' : '/' ∉ node.name.toList) :
    Text.segments '/' node.encode.toList = [node.group.toList, node.name.toList] := by
  rw [toList_encode, Text.segments_of_append h, Text.segments_of_notMem h']

theorem parse?_eq_some_iff : parse? token = some node ↔ node.IsPlain ∧ node.encode = token := by
  constructor
  · intro h
    unfold parse? at h
    split at h
    next group name hsegments =>
      split at h
      next => cases h
      next hempty =>
        obtain rfl : (⟨String.ofList group, String.ofList name⟩ : NodeId) = node :=
          Option.some.inj h
        have hslash : ∀ segment ∈ [group, name], '/' ∉ segment := fun _ hsegment =>
          Text.notMem_of_mem_segments (hsegments ▸ hsegment)
        refine ⟨isPlain_iff.mpr ?_, String.toList_injective ?_⟩
        · simp only [Bool.or_eq_true, List.isEmpty_iff, not_or] at hempty
          simp only [String.toList_ofList]
          exact ⟨⟨hempty.1, hslash _ (by simp)⟩, hempty.2, hslash _ (by simp)⟩
        · rw [toList_encode, Text.eq_of_segments hsegments]
          simp
    next => cases h
  · rintro ⟨hplain, rfl⟩
    obtain ⟨⟨hgroup, hgroupSlash⟩, hname, hnameSlash⟩ := isPlain_iff.mp hplain
    rw [parse?, segments_encode hgroupSlash hnameSlash]
    simp [hgroup, hname]

theorem read_eq_ok_iff {v : Value} : read v = .ok node ↔ node.IsPlain ∧ v = .str node.encode := by
  cases v with
  | str token =>
    rw [Value.str.injEq, eq_comm (a := token), ← parse?_eq_some_iff, read]
    cases parse? token <;> simp
  | _ => simp [read]

theorem read_of_not_isToken {v : Value} (h : ∀ token, v = .str token → ¬ IsToken token) :
    read v = .error (refusal v) := by
  cases v with
  | str token =>
    cases hparse : parse? token with
    | none => rw [read, hparse, refusal, Option.elim_none]
    | some node =>
      have hplain := parse?_eq_some_iff.mp hparse
      exact absurd (isToken_iff.mpr ⟨node, hplain⟩) (h token rfl)
  | _ => rfl

/-! ## One token for each node -/

/-- A node whose token can be read is the only one with that token. -/
theorem eq_of_encode_eq (h : node.IsPlain) (hsame : other.encode = node.encode) :
    other = node := by
  have hother : other.IsPlain := by
    rw [← isToken_encode_iff, hsame]
    exact isToken_encode_iff.mpr h
  have hread := parse?_eq_some_iff.mpr ⟨hother, hsame⟩
  exact Option.some.inj (hread.symm.trans (parse?_eq_some_iff.mpr ⟨h, rfl⟩))

/-- A value is read as a node exactly if it is a text with one slash, which stands inside it, and
the token of the node that was read is the text again. The token of a node whose parts are not empty
and without a slash is read as that node, and is no other node's; every other node's token is
refused. The teardown of a node refuses what cannot be read before anything is asked or logged. -/
theorem tokens_are_nodes :
    (∀ v, (∃ node, read v = .ok node) ↔ ∃ token, v = .str token ∧ IsToken token) ∧
    (∀ token node, read (.str token) = .ok node → node.encode = token) ∧
    (∀ node : NodeId, node.IsPlain → read (.str node.encode) = .ok node) ∧
    (∀ node : NodeId, ¬ node.IsPlain →
      read (.str node.encode) = .error (.malformedNodeId node.encode)) ∧
    (∀ node other : NodeId, node.IsPlain → other.encode = node.encode → other = node) ∧
    ∀ v, (∀ node, read v ≠ .ok node) → read v = .error (refusal v) ∧
      ∀ {τ W : Type} [Timescale τ] (t : Teardown τ) (setting : Setting τ W) (session : Session τ W),
        (t.removeNode v).run setting session = .error (.raised (refusal v)) session := by
  have hreads : ∀ v, (∃ node, read v = .ok node) ↔ ∃ token, v = .str token ∧ IsToken token := by
    intro v
    constructor
    · rintro ⟨node, hread⟩
      obtain ⟨hplain, rfl⟩ := read_eq_ok_iff.mp hread
      exact ⟨_, rfl, isToken_encode_iff.mpr hplain⟩
    · rintro ⟨token, rfl, htoken⟩
      obtain ⟨node, hplain, rfl⟩ := isToken_iff.mp htoken
      exact ⟨node, read_eq_ok_iff.mpr ⟨hplain, rfl⟩⟩
  refine ⟨hreads, ?_, ?_, ?_, fun _ _ => eq_of_encode_eq, ?_⟩
  · intro token node hread
    obtain ⟨-, htoken⟩ := read_eq_ok_iff.mp hread
    exact (Value.str.inj htoken).symm
  · exact fun node hplain => read_eq_ok_iff.mpr ⟨hplain, rfl⟩
  · intro node hplain
    refine read_of_not_isToken ?_
    rintro _ ⟨⟩ htoken
    exact hplain (isToken_encode_iff.mp htoken)
  · intro v hunread
    have hread : read v = .error (refusal v) := by
      refine read_of_not_isToken fun token hv htoken => ?_
      obtain ⟨node, hnode⟩ := (hreads v).mpr ⟨token, hv, htoken⟩
      exact hunread node hnode
    refine ⟨hread, fun t setting session => ?_⟩
    rw [Teardown.removeNode, hread, Action.run_bind, Action.run_ofExcept_error]

/-! Two nodes that differ in a slash, of which one has a token that is read. -/

theorem isPlain_sample : (⟨"rg", "vm"⟩ : NodeId).IsPlain :=
  ⟨⟨by decide, by decide⟩, by decide, by decide⟩

theorem not_isPlain_sample : ¬ (⟨"rg", "v/m"⟩ : NodeId).IsPlain := fun h => h.name.2 (by decide)

theorem tokens_told_apart :
    read (.str "rg/vm") = .ok ⟨"rg", "vm"⟩ ∧
      (⟨"rg", "vm"⟩ : NodeId).encode = "rg/vm" ∧
      read (.str "rg/v/m") = .error (.malformedNodeId "rg/v/m") ∧
      (⟨"rg", "v/m"⟩ : NodeId).encode ≠ (⟨"rg", "vm"⟩ : NodeId).encode ∧
      (Teardown.sample.removeNode (.str "rg/v/m")).run ⟨Stubborn.provider, 1⟩ ⟨(), 0, #[]⟩ =
        .error (.raised (.malformedNodeId "rg/v/m")) ⟨(), 0, #[]⟩ := by
  obtain ⟨-, hencode, hplain, hslash, honly, hrefused⟩ := tokens_are_nodes
  have hread : read (.str "rg/vm") = .ok ⟨"rg", "vm"⟩ := hplain ⟨"rg", "vm"⟩ isPlain_sample
  have herror : read (.str "rg/v/m") = .error (.malformedNodeId "rg/v/m") :=
    hslash ⟨"rg", "v/m"⟩ not_isPlain_sample
  have hunread : ∀ node, read (.str "rg/v/m") ≠ .ok node := by simp [herror]
  refine ⟨hread, hencode _ _ hread, herror, fun hsame => ?_, (hrefused _ hunread).2 _ _ _⟩
  exact absurd (honly _ _ isPlain_sample hsame) (by decide)

end Reclaim.NodeId
