import Reclaim.Proofs.Finalize.Containment

/-!
# The grammar of group names

The name of a group is made of lower-case letters, digits and dashes, and starts with no dash. What
gets a shared name is such a text, or such a text and one line break behind it. No request is about
a security group of another name.
-/

namespace Reclaim

open Reclaim.Action

namespace Naming

/-! ## Characters -/

def IsLowerOrDigit (c : Char) : Prop := 'a' ≤ c ∧ c ≤ 'z' ∨ '0' ≤ c ∧ c ≤ '9'

theorem isInitial_iff {c : Char} : isInitial c = true ↔ IsLowerOrDigit c := by
  have hrange : ∀ first last : Char,
      (decide (first.val ≤ c.val) && decide (c.val ≤ last.val)) = true ↔ first ≤ c ∧ c ≤ last :=
    fun _ _ => Bool.and_eq_true_iff.trans (and_congr decide_eq_true_iff decide_eq_true_iff)
  exact Bool.or_eq_true_iff.trans (or_congr (hrange 'a' 'z') (hrange '0' '9'))

theorem isInner_iff {c : Char} : isInner c = true ↔ IsLowerOrDigit c ∨ c = '-' := by
  rw [isInner, Bool.or_eq_true, isInitial_iff, decide_eq_true_eq]

/-! ## Texts -/

structure IsGroupName (cs : List Char) : Prop where
  starts : ∃ c ∈ cs.head?, IsLowerOrDigit c
  inside : ∀ c ∈ cs, IsLowerOrDigit c ∨ c = '-'

theorem isGroupName_cons {c : Char} {rest : List Char} :
    IsGroupName (c :: rest) ↔ isInitial c = true ∧ rest.all isInner = true := by
  rw [isInitial_iff, List.all_eq_true]
  constructor
  · rintro ⟨⟨_, ⟨⟩, hstarts⟩, hinside⟩
    exact ⟨hstarts, fun x hx => isInner_iff.mpr (hinside x (List.mem_cons_of_mem c hx))⟩
  · rintro ⟨hstarts, hrest⟩
    refine ⟨⟨c, rfl, hstarts⟩, List.forall_mem_cons.mpr ⟨.inl hstarts, ?_⟩⟩
    exact fun x hx => isInner_iff.mp (hrest x hx)

theorem not_isGroupName_nil : ¬ IsGroupName [] := by
  rintro ⟨⟨_, ⟨⟩, -⟩, -⟩

/-- A group's name, whether or not a line break ends the text. -/
def IsLetThrough (cs : List Char) : Prop :=
  ∃ name, IsGroupName name ∧ (cs = name ∨ cs = name ++ ['\n'])

theorem withoutLineBreak_append (cs : List Char) : withoutLineBreak (cs ++ ['\n']) = cs := by
  rw [withoutLineBreak, if_pos List.getLast?_concat, List.dropLast_concat]

theorem withoutLineBreak_cases (cs : List Char) :
    cs = withoutLineBreak cs ∨ cs = withoutLineBreak cs ++ ['\n'] := by
  unfold withoutLineBreak
  split
  next hbreak => exact .inr (List.dropLast_append_getLast? _ hbreak).symm
  next => exact .inl rfl

theorem all_withoutLineBreak {p : Char → Bool} {cs : List Char} (h : cs.all p = true) :
    (withoutLineBreak cs).all p = true := by
  rcases withoutLineBreak_cases cs with hsame | hbreak
  · rwa [← hsame]
  · rw [hbreak, List.all_append, Bool.and_eq_true] at h
    exact h.1

theorem accepts_iff {cs : List Char} : accepts cs = true ↔ IsLetThrough cs := by
  constructor
  · intro h
    cases cs with
    | nil => cases h
    | cons c rest =>
      rw [accepts, Bool.and_eq_true] at h
      refine ⟨c :: withoutLineBreak rest, isGroupName_cons.mpr h, ?_⟩
      exact (withoutLineBreak_cases rest).imp (congrArg (c :: ·)) (congrArg (c :: ·))
  · rintro ⟨name, hname, hcs⟩
    cases name with
    | nil => exact absurd hname not_isGroupName_nil
    | cons c rest =>
      obtain ⟨hstarts, hrest⟩ := isGroupName_cons.mp hname
      rcases hcs with rfl | rfl
      · rw [accepts, hstarts, all_withoutLineBreak hrest, Bool.and_self]
      · rw [List.cons_append, accepts, hstarts, withoutLineBreak_append, hrest, Bool.and_self]

/-! ## Shared names -/

variable {naming : Naming} {group : Option String} {name : String} {fault : Fault}

theorem sharedName_of_isLetThrough {g : String} (h : IsLetThrough g.toList) :
    naming.sharedName (some g) = .ok (naming.stem ++ naming.delimiter ++ g) :=
  if_pos (accepts_iff.mpr h)

theorem sharedName_of_not (h : ∀ g, group = some g → ¬ IsLetThrough g.toList) :
    naming.sharedName group = .error (.invalidGroupName group) := by
  cases group with
  | none => rfl
  | some g => exact if_neg (mt accepts_iff.mp (h g rfl))

theorem sharedName_eq_ok_iff : naming.sharedName group = .ok name ↔
    ∃ g, group = some g ∧ IsLetThrough g.toList ∧ name = naming.stem ++ naming.delimiter ++ g := by
  constructor
  · intro hname
    by_cases h : ∃ g, group = some g ∧ IsLetThrough g.toList
    · obtain ⟨g, rfl, hlet⟩ := h
      have hshared := hname.symm.trans (sharedName_of_isLetThrough hlet)
      exact ⟨g, rfl, hlet, Except.ok.inj hshared⟩
    · cases hname.symm.trans (sharedName_of_not fun g hgroup hlet => h ⟨g, hgroup, hlet⟩)
  · rintro ⟨g, rfl, hlet, rfl⟩
    exact sharedName_of_isLetThrough hlet

theorem sharedName_eq_error_iff : naming.sharedName group = .error fault ↔
    (∀ g, group = some g → ¬ IsLetThrough g.toList) ∧ fault = .invalidGroupName group := by
  constructor
  · intro hrefused
    have hnone : ∀ g, group = some g → ¬ IsLetThrough g.toList := by
      rintro g rfl hlet
      cases hrefused.symm.trans (sharedName_of_isLetThrough hlet)
    exact ⟨hnone, Except.error.inj (hrefused.symm.trans (sharedName_of_not hnone))⟩
  · rintro ⟨hnone, rfl⟩
    exact sharedName_of_not hnone

end Naming

variable {τ W : Type} [Timescale τ]

/-- A group has a shared name exactly if its own name keeps to the grammar, up to a line break
behind it, and every other group is refused. What is asked for the security group of the nodes is
about the name that is put together from such a text, and about no other. -/
theorem shared_names_follow_grammar (t : Teardown τ) (setting : Setting τ W) (session : Session τ W)
    (resourceGroup : String) (group : Option String) :
    (∀ name, t.naming.sharedName group = .ok name ↔
        ∃ g, group = some g ∧ Naming.IsLetThrough g.toList ∧
          name = t.naming.stem ++ t.naming.delimiter ++ g) ∧
      (∀ fault, t.naming.sharedName group = .error fault ↔
        (∀ g, group = some g → ¬ Naming.IsLetThrough g.toList) ∧
          fault = .invalidGroupName group) ∧
      Ends setting session (t.trySecurityGroup resourceGroup group) fun events _ _ =>
        ∀ request ∈ calls events, ∃ g, group = some g ∧ Naming.IsLetThrough g.toList ∧
          request.IsAbout .securityGroup resourceGroup
            (t.naming.stem ++ t.naming.delimiter ++ g) := by
  refine ⟨fun _ => Naming.sharedName_eq_ok_iff, fun _ => Naming.sharedName_eq_error_iff, ?_⟩
  refine Ends.mono trySecurityGroup_calls fun events _ _ hcalls request hrequest => ?_
  obtain ⟨name, hname, habout⟩ := hcalls request hrequest
  obtain ⟨g, hgroup, hlet, rfl⟩ := Naming.sharedName_eq_ok_iff.mp hname
  exact ⟨g, hgroup, hlet, habout⟩

/-! A group whose name ends in a line break. -/

namespace Broken

/-- The break is let through, and the name with the break in it is looked up. -/
theorem line_break_let_through :
    Naming.standard.sharedName (some "web\n") = .ok "jclouds-web\n" ∧
      ¬ Naming.IsGroupName "web\n".toList ∧
      ∃ after, (Teardown.sample.trySecurityGroup "rg" (some "web\n")).run
          ⟨Stubborn.provider, 13⟩ ⟨(), 0, #[]⟩ = .ok false after ∧
        calls after.trace.toList = [.get .securityGroup "rg" "jclouds-web\n"] := by
  refine ⟨by rfl, ?_, _, rfl, by rfl⟩
  rintro ⟨-, hinside⟩
  exact absurd (hinside '\n' (by decide)) (by unfold Naming.IsLowerOrDigit; decide)

end Broken

end Reclaim
