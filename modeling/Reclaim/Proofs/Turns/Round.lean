import Reclaim.Proofs.Cascade.Ending

/-!
# Rounds

A loop gives each item its turn, from the session that the turn before it left. If it is cut short,
then at one item: those before it had their turns in full, and those behind it are not touched.
-/

namespace Reclaim

open Reclaim.Action

variable {τ W α β γ δ : Type}

/-! ## Turns -/

/-- The turn of an item: what came of it, and all that happened. -/
structure Turn (τ α β : Type) where
  item : α
  result : β
  events : List (Event τ)

def happened (turns : List (Turn τ α β)) : List (Event τ) := turns.flatMap (·.events)

/-- The items whose turns failed. -/
def failed (turns : List (Turn τ α Bool)) : List α :=
  (turns.filter fun turn => !turn.result).map (·.item)

@[simp] theorem happened_cons (turn : Turn τ α β) (rest : List (Turn τ α β)) :
    happened (turn :: rest) = turn.events ++ happened rest :=
  List.flatMap_cons

theorem failed_cons (turn : Turn τ α Bool) (rest : List (Turn τ α Bool)) :
    failed (turn :: rest) = if turn.result then failed rest else turn.item :: failed rest := by
  rw [failed, List.filter_cons]
  cases turn.result <;> rfl

theorem failed_isEmpty (turns : List (Turn τ α Bool)) :
    (failed turns).isEmpty = turns.all (·.result) := by
  induction turns with
  | nil => rfl
  | cons turn rest ih =>
    rw [List.all_cons, ← ih, failed_cons]
    cases turn.result <;> rfl

/-- Turns in a row. Each is a step from the session that the one before it left. -/
inductive InTurn (step : Session τ W → Turn τ α β → Session τ W → Prop) :
    Session τ W → List (Turn τ α β) → Session τ W → Prop
  | none (session : Session τ W) : InTurn step session [] session
  | turn {session between final : Session τ W} {turn : Turn τ α β} {rest : List (Turn τ α β)}
      (hstep : step session turn between)
      (htrace : between.trace.toList = session.trace.toList ++ turn.events)
      (hrest : InTurn step between rest final) : InTurn step session (turn :: rest) final

/-- A round over items: all of them had their turns, or it was cut short at one of them. -/
inductive Round (step : Session τ W → Turn τ α β → Session τ W → Prop)
    (cut : Session τ W → α → List (Event τ) → Stop → Session τ W → Prop)
    (session : Session τ W) (items : List α) :
    List (Event τ) → Except Stop (List (Turn τ α β)) → Session τ W → Prop
  | through {turns : List (Turn τ α β)} {after : Session τ W}
      (hturns : InTurn step session turns after) (hitems : turns.map (·.item) = items) :
      Round step cut session items (happened turns) (.ok turns) after
  | cutShort {before later : List α} {item : α} {turns : List (Turn τ α β)}
      {last : List (Event τ)} {reason : Stop} {between after : Session τ W}
      (hsplit : items = before ++ item :: later)
      (hturns : InTurn step session turns between) (hbefore : turns.map (·.item) = before)
      (hcut : cut between item last reason after) :
      Round step cut session items (happened turns ++ last) (.error reason) after

section

variable {step : Session τ W → Turn τ α β → Session τ W → Prop}
variable {cut : Session τ W → α → List (Event τ) → Stop → Session τ W → Prop}
variable {session between final : Session τ W} {items : List α}

theorem Round.none : Round step cut session [] [] (.ok []) session :=
  .through (.none session) rfl

/-- A turn before a round makes a longer round. -/
theorem Round.turn {a : α} {b : β} {events more : List (Event τ)}
    {result : Except Stop (List (Turn τ α β))} (hstep : step session ⟨a, b, events⟩ between)
    (htrace : between.trace.toList = session.trace.toList ++ events)
    (h : Round step cut between items more result final) :
    Round step cut session (a :: items) (events ++ more) (result.map (⟨a, b, events⟩ :: ·))
      final := by
  cases h with
  | through hturns hitems =>
    rw [← happened_cons ⟨a, b, events⟩]
    refine .through (.turn hstep htrace hturns) ?_
    rw [List.map_cons, hitems]
  | @cutShort before later item turns last reason middle after hsplit hturns hbefore hcut =>
    rw [← List.append_assoc, ← happened_cons ⟨a, b, events⟩]
    have hlonger : a :: items = (a :: before) ++ item :: later := by rw [hsplit, List.cons_append]
    refine .cutShort hlonger (.turn hstep htrace hturns) ?_ hcut
    rw [List.map_cons, hbefore]

end

/-! ## Loops -/

namespace Action

variable {setting : Setting τ W} {session : Session τ W} {items : List α}
variable {step : Session τ W → Turn τ α γ → Session τ W → Prop}
variable {cut : Session τ W → α → List (Event τ) → Stop → Session τ W → Prop}

theorem ofExcept_ok (a : α) : (Action.ofExcept (.ok a) : Action τ W α) = pure a := rfl

theorem Ends.traced {action : Action τ W β}
    {post : List (Event τ) → Except Stop β → Session τ W → Prop}
    (h : Ends setting session action post) :
    Ends setting session action fun events outcome after =>
      post events outcome after ∧ after.trace.toList = session.trace.toList ++ events := by
  obtain ⟨events, htrace, hpost⟩ := h
  exact ⟨events, htrace, hpost, htrace⟩

/-- The run has this outcome, and leaves this session. -/
def RunsTo (setting : Setting τ W) (session : Session τ W) (action : Action τ W β)
    (result : Except Stop β) (after : Session τ W) : Prop :=
  outcome (action.run setting session) = result ∧ left (action.run setting session) = after

theorem Ends.runs {action : Action τ W β}
    {post : List (Event τ) → Except Stop β → Session τ W → Prop}
    (h : Ends setting session action post) :
    Ends setting session action fun events result after =>
      post events result after ∧ RunsTo setting session action result after := by
  obtain ⟨events, htrace, hpost⟩ := h
  exact ⟨events, htrace, hpost, rfl, rfl⟩

theorem RunsTo.eq_ok {action : Action τ W β} {b : β} {after : Session τ W}
    (h : RunsTo setting session action (.ok b) after) :
    action.run setting session = .ok b after := by
  obtain ⟨hresult, hafter⟩ := h
  cases hrun : action.run setting session with
  | ok c last =>
    rw [hrun] at hresult hafter
    rw [Except.ok.inj hresult, show last = after from hafter]
  | error reason last =>
    rw [hrun] at hresult
    cases hresult

theorem RunsTo.eq_error {action : Action τ W β} {reason : Stop} {after : Session τ W}
    (h : RunsTo setting session action (.error reason) after) :
    action.run setting session = .error reason after := by
  obtain ⟨hresult, hafter⟩ := h
  cases hrun : action.run setting session with
  | ok c last =>
    rw [hrun] at hresult
    cases hresult
  | error other last =>
    rw [hrun] at hresult hafter
    rw [Except.error.inj hresult, show last = after from hafter]

theorem Ends.log {channel : Log.Channel} {event : String} {fields : Log.Fields}
    {next : Unit → Action τ W β} {post : List (Event τ) → Except Stop β → Session τ W → Prop}
    (h : Ends setting (session.logging [⟨channel, event, fields, none⟩]) (next ())
      fun more outcome after =>
        post (.logged ⟨channel, event, fields, none⟩ :: more) outcome after) :
    Ends setting session (Action.log channel event fields >>= next) post :=
  Ends.resume (run_log ..) (Array.toList_push ..) h

/-- An action on an item takes a turn, of whose result it shows a part, or is cut. -/
def TakesTurn (setting : Setting τ W) (step : Session τ W → Turn τ α γ → Session τ W → Prop)
    (cut : Session τ W → α → List (Event τ) → Stop → Session τ W → Prop) (shown : γ → β)
    (act : α → Action τ W β) : Prop :=
  ∀ a session, Ends setting session (act a) fun events outcome after =>
    (∃ c, outcome = .ok (shown c) ∧ step session ⟨a, c, events⟩ after) ∨
      ∃ reason, outcome = .error reason ∧ cut session a events reason after

/-- An action is a round over items, of whose turns it shows a part. -/
def IsRound (setting : Setting τ W) (session : Session τ W)
    (step : Session τ W → Turn τ α γ → Session τ W → Prop)
    (cut : Session τ W → α → List (Event τ) → Stop → Session τ W → Prop) (items : List α)
    (shown : List (Turn τ α γ) → β) (action : Action τ W β) : Prop :=
  Ends setting session action fun events outcome after =>
    ∃ result, outcome = result.map shown ∧ Round step cut session items events result after

theorem IsRound.bind {shown : List (Turn τ α γ) → β} {action : Action τ W β}
    {next : β → Action τ W δ} {post : List (Event τ) → Except Stop δ → Session τ W → Prop}
    (h : IsRound setting session step cut items shown action)
    (hnext : ∀ events turns after, Round step cut session items events (.ok turns) after →
      Ends setting after (next (shown turns)) fun more outcome final =>
        post (events ++ more) outcome final)
    (hstop : ∀ events reason after, Round step cut session items events (.error reason) after →
      post events (.error reason) after) : Ends setting session (action >>= next) post := by
  refine Ends.bind h ?_ ?_
  · rintro events b after ⟨result, hresult, hround⟩
    cases result with
    | ok turns =>
      obtain rfl : b = shown turns := Except.ok.inj hresult
      exact hnext events turns after hround
    | error reason => cases hresult
  · rintro events reason after ⟨result, hresult, hround⟩
    cases result with
    | ok turns => cases hresult
    | error other =>
      obtain rfl : reason = other := Except.error.inj hresult
      exact hstop events reason after hround

/-- A loop that gives each item its turn, and combines what the turns show. -/
theorem loop_isRound {act : α → Action τ W β} {loop : List α → Action τ W δ}
    {combine : α → β → δ → δ} {shown : γ → β} {collect : List (Turn τ α γ) → δ}
    (hnil : loop [] = pure (collect []))
    (hcons : ∀ a rest, loop (a :: rest) =
      act a >>= fun b => loop rest >>= fun others => pure (combine a b others))
    (hcollect : ∀ turn rest,
      collect (turn :: rest) = combine turn.item (shown turn.result) (collect rest))
    (h : TakesTurn setting step cut shown act) (items : List α) :
    IsRound setting session step cut items collect (loop items) := by
  induction items generalizing session with
  | nil =>
    rw [hnil]
    exact Ends.pure ⟨.ok [], rfl, .none⟩
  | cons a rest ih =>
    rw [hcons]
    refine Ends.bind (h a session).traced ?_ ?_
    · rintro events b between ⟨hturn, htrace⟩
      obtain ⟨c, hb, hstep⟩ := hturn.resolve_right (by rintro ⟨_, ⟨⟩, -⟩)
      obtain rfl : b = shown c := Except.ok.inj hb
      refine IsRound.bind ih ?_ ?_
      · intro more turns after hround
        have hlonger := hround.turn hstep htrace
        have hall := hcollect ⟨a, c, events⟩ turns
        rw [← List.append_nil more] at hlonger
        exact Ends.pure ⟨.ok (⟨a, c, events⟩ :: turns), congrArg Except.ok hall.symm, hlonger⟩
      · intro more reason after hround
        exact ⟨.error reason, rfl, hround.turn hstep htrace⟩
    · rintro events reason after ⟨hturn, -⟩
      obtain ⟨_, ⟨⟩, hcut⟩ := hturn.resolve_left (by rintro ⟨_, ⟨⟩, -⟩)
      have hfirst : a :: rest = [] ++ a :: rest := rfl
      exact ⟨.error reason, rfl, .cutShort hfirst (.none session) rfl hcut⟩

end Action

namespace Teardown

variable {setting : Setting τ W} {session : Session τ W}
variable {cut : Session τ W → α → List (Event τ) → Stop → Session τ W → Prop}

theorem all_isRound {step : Session τ W → Turn τ α γ → Session τ W → Prop} {shown : γ → Bool}
    {act : α → Action τ W Bool} (h : TakesTurn setting step cut shown act) (items : List α) :
    IsRound setting session step cut items (fun turns => turns.all fun turn => shown turn.result)
      (all act items) :=
  loop_isRound rfl (fun _ _ => rfl) (fun _ _ => List.all_cons) h items

theorem failing_isRound {step : Session τ W → Turn τ α Bool → Session τ W → Prop}
    {act : α → Action τ W Bool} (h : TakesTurn setting step cut id act) (items : List α) :
    IsRound setting session step cut items failed (failing act items) :=
  loop_isRound rfl (fun _ _ => rfl) failed_cons h items

end Teardown

end Reclaim
