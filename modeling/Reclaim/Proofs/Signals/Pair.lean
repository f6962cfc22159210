import Reclaim.Proofs.Time.Requests
import Mathlib.Data.Set.Basic

/-!
# Two runs that differ in what they look at

Some replies are signals: they tell whether what was deleted is gone, and nothing depends on them
but warnings. Two providers that agree on all but signals are asked the same, apart from signals,
and both runs come to the same outcome. Looking takes time, so the clocks drift apart; a wait only
counts the time since its start, and so it is the same on both sides.
-/

namespace Reclaim

open Reclaim.Action

variable {W α β : Type}

/-- The listing of a group, and a look for a disk. -/
def Request.isSignal : Request → Bool
  | .members _ | .get .disk _ _ => true
  | _ => false

def Event.isDecisive : Event Rat → Bool
  | .asked request _ => !request.isSignal
  | _ => false

/-- All that was asked and is no signal, together with the replies. -/
def decisive (events : List (Event Rat)) : List (Event Rat) := events.filter Event.isDecisive

@[simp] theorem decisive_append (events more : List (Event Rat)) :
    decisive (events ++ more) = decisive events ++ decisive more :=
  List.filter_append ..

/-- Two settings that agree on all but signals, as long as their worlds are alike. Signals leave
worlds alike. -/
structure Pair (W : Type) where
  one : Setting Rat W
  other : Setting Rat W
  alike : W → W → Prop
  pollLimit : other.pollLimit = one.pollLimit
  deletesAtOnce : other.provider.deletesAtOnce = one.provider.deletesAtOnce
  answers : ∀ {request world world'}, request.isSignal = false → alike world world' →
    (other.provider.answer request world').1 = (one.provider.answer request world).1 ∧
      (other.provider.answer request world').2.1 = (one.provider.answer request world).2.1 ∧
        alike (one.provider.answer request world).2.2 (other.provider.answer request world').2.2
  signals_one : ∀ {request world world'}, request.isSignal = true → alike world world' →
    alike (one.provider.answer request world).2.2 world'
  signals_other : ∀ {request world world'}, request.isSignal = true → alike world world' →
    alike world (other.provider.answer request world').2.2
  forward_one : ∀ request world, 0 ≤ (one.provider.answer request world).2.1
  forward_other : ∀ request world, 0 ≤ (other.provider.answer request world).2.1

/-- Two values that are related, or two stops for the same reason. -/
def Agree (related : α → α → Prop) : Except Stop α → Except Stop α → Prop
  | .ok a, .ok a' => related a a'
  | .error reason, .error reason' => reason = reason'
  | _, _ => False

theorem Agree.eq {outcome outcome' : Except Stop α} (h : Agree (· = ·) outcome outcome') :
    outcome = outcome' := by
  cases outcome with
  | ok a =>
    cases outcome' with
    | ok a' => exact congrArg _ h
    | error _ => exact h.elim
  | error reason =>
    cases outcome' with
    | ok _ => exact h.elim
    | error reason' => exact congrArg _ h

namespace Pair

variable {pair : Pair W} {lags : Set Rat} {related : α → α → Prop}

/-- Sessions in worlds that are alike, the second one ahead of the first by one of the lags. -/
def Tied (pair : Pair W) (lags : Set Rat) (session session' : Session Rat W) : Prop :=
  pair.alike session.world session'.world ∧ session'.clock - session.clock ∈ lags

/-- The two actions ask the same, signals apart, and agree on the outcome. -/
def Twins (pair : Pair W) (lags : Set Rat) (related : α → α → Prop)
    (action action' : Action Rat W α) : Prop :=
  ∀ session session', pair.Tied lags session session' →
    Ends pair.one session action fun events outcome after =>
      Ends pair.other session' action' fun events' outcome' after' =>
        decisive events = decisive events' ∧ Agree related outcome outcome' ∧
          pair.Tied lags after after'

/-- The same action on both sides. -/
abbrev Steady (pair : Pair W) (lags : Set Rat) (action : Action Rat W α) : Prop :=
  pair.Twins lags (· = ·) action action

variable {action action' : Action Rat W α} {next next' : α → Action Rat W β}
variable {following : β → β → Prop}

/-! ## Ways to build an action -/

theorem Twins.pure {a a' : α} (h : related a a') :
    pair.Twins lags related (pure a) (pure a') :=
  fun _ _ htied => Ends.pure (Ends.pure ⟨rfl, h, htied⟩)

theorem Twins.bind_ofExcept {result : Except Fault α}
    (h : ∀ a, result = .ok a → pair.Twins lags following (next a) (next' a)) :
    pair.Twins lags following (Action.ofExcept result >>= next)
      (Action.ofExcept result >>= next') := by
  cases result with
  | ok a => exact h a rfl
  | error fault =>
    exact fun _ _ htied => Ends.stop (Ends.stop ⟨rfl, rfl, htied⟩)

theorem Twins.stop {reason : Stop} :
    pair.Twins lags related (stop reason) (stop reason) :=
  fun _ _ htied => Ends.stop (Ends.stop ⟨rfl, rfl, htied⟩)

theorem Twins.ofExcept {result : Except Fault α} : pair.Steady lags (ofExcept result) := by
  cases result with
  | ok a => exact .pure rfl
  | error fault => exact .stop

theorem Twins.bind (h : pair.Twins lags related action action')
    (hnext : ∀ a a', related a a' → pair.Twins lags following (next a) (next' a')) :
    pair.Twins lags following (action >>= next) (action' >>= next') := by
  intro session session' htied
  refine Ends.bind (h session session' htied) ?_ ?_
  -- The outcomes agree, so the second side goes on if and only if the first one does.
  · intro events a after hother
    cases hrun : action'.run pair.other session' with
    | ok a' after' =>
      obtain ⟨events', htrace', hsame, hrelated, hafter⟩ := hother.of_ok hrun
      refine Ends.mono (hnext a a' hrelated after after' hafter) fun more outcome final hfinal => ?_
      refine Ends.resume hrun htrace' (Ends.mono hfinal fun more' outcome' final' h => ?_)
      exact ⟨by rw [decisive_append, decisive_append, hsame, h.1], h.2⟩
    | error reason after' =>
      obtain ⟨_, _, _, hagree, _⟩ := hother.of_error hrun
      exact hagree.elim
  · intro events reason after hother
    cases hrun : action'.run pair.other session' with
    | ok a' after' =>
      obtain ⟨_, _, _, hagree, _⟩ := hother.of_ok hrun
      exact hagree.elim
    | error reason' after' =>
      obtain ⟨events', htrace', hsame, hreason, hafter⟩ := hother.of_error hrun
      exact Ends.halt hrun htrace' ⟨hsame, hreason, hafter⟩

/-- Both sides go on from the same value. -/
theorem Twins.then (h : pair.Steady lags action)
    (hnext : ∀ a, pair.Twins lags following (next a) (next' a)) :
    pair.Twins lags following (action >>= next) (action >>= next') := by
  refine h.bind ?_
  rintro a _ rfl
  exact hnext a

theorem Twins.rescue {handle handle' : Fault → Action Rat W α}
    (h : pair.Twins lags related action action')
    (hhandle : ∀ fault, pair.Twins lags related (handle fault) (handle' fault)) :
    pair.Twins lags related (rescue action handle) (rescue action' handle') := by
  intro session session' htied
  refine Ends.rescue (h session session' htied) ?_ ?_ ?_
  · intro events a after hother
    refine Ends.unhandled ?_ hother
    intro fault after' hrun
    obtain ⟨_, _, _, hagree, _⟩ := hother.of_error hrun
    exact hagree
  · intro events fault after hother
    cases hrun : action'.run pair.other session' with
    | ok a' after' =>
      obtain ⟨_, _, _, hagree, _⟩ := hother.of_ok hrun
      exact hagree.elim
    | error reason' after' =>
      obtain ⟨events', htrace', hsame, hreason, hafter⟩ := hother.of_error hrun
      obtain rfl : Stop.raised fault = reason' := hreason
      refine Ends.mono (hhandle fault after after' hafter) fun more outcome final hfinal => ?_
      refine Ends.handled hrun htrace' (Ends.mono hfinal fun more' outcome' final' h => ?_)
      exact ⟨by rw [decisive_append, decisive_append, hsame, h.1], h.2⟩
  · intro events after hother
    refine Ends.unhandled ?_ hother
    intro fault after' hrun
    obtain ⟨_, _, _, hagree, _⟩ := hother.of_error hrun
    cases hagree

/-! ## Single steps -/

theorem Twins.record {event event' : Event Rat} (h : event.isDecisive = false)
    (h' : event'.isDecisive = false) :
    pair.Twins lags (· = ·) (record event) (record event') := by
  intro session session' htied
  refine Ends.record (Ends.record ⟨?_, rfl, htied⟩)
  simp [decisive, h, h']

theorem Twins.log {channel channel' : Log.Channel} {event event' : String}
    {fields fields' : Log.Fields} :
    pair.Twins lags (· = ·) (log channel event fields) (log channel' event' fields') :=
  .record rfl rfl

theorem Twins.logged_one {channel : Log.Channel} {event : String} {fields : Log.Fields}
    (h : pair.Twins lags related action action') :
    pair.Twins lags related (Action.log channel event fields >>= fun _ => action) action' := by
  intro session session' htied
  have hlog : Returns pair.one session (Action.log channel event fields) fun events _ after =>
      decisive events = [] ∧ pair.Tied lags after session' := Returns.record ⟨rfl, htied⟩
  refine hlog.before ?_
  rintro events _ logged ⟨hnone, hlogged⟩
  refine Ends.mono (h logged session' hlogged) fun more outcome after hother => ?_
  exact Ends.mono hother fun _ _ _ hend => by rwa [decisive_append, hnone, List.nil_append]

theorem Twins.logged_other {channel : Log.Channel} {event : String} {fields : Log.Fields}
    (h : pair.Twins lags related action action') :
    pair.Twins lags related action (Action.log channel event fields >>= fun _ => action') := by
  intro session session' htied
  have hlog : Returns pair.other session' (Action.log channel event fields) fun events _ after =>
      decisive events = [] ∧ pair.Tied lags session after := Returns.record ⟨rfl, htied⟩
  obtain ⟨events', _, logged, hrun, htrace, hnone, hlogged⟩ := hlog.run_eq
  refine Ends.mono (h session logged hlogged) fun events outcome after hother => ?_
  refine Ends.resume hrun htrace (Ends.mono hother fun _ _ _ hend => ?_)
  rwa [decisive_append, hnone, List.nil_append]

/-- Either side may have something to remark before it goes on. -/
theorem Twins.remark {said said' : Bool} {channel channel' : Log.Channel} {event event' : String}
    {fields fields' : Log.Fields} (h : pair.Twins lags related action action') :
    pair.Twins lags related
      (if said = true then Action.log channel event fields >>= fun _ => action else action)
      (if said' = true then Action.log channel' event' fields' >>= fun _ => action'
        else action') := by
  cases said with
  | true =>
    cases said' with
    | true => exact .logged_one (.logged_other h)
    | false => exact .logged_one h
  | false =>
    cases said' with
    | true => exact .logged_other h
    | false => exact h

theorem Twins.ask {request : Request} (h : request.isSignal = false) :
    pair.Steady lags (ask request) := by
  intro session session' htied
  obtain ⟨hreply, helapsed, halike⟩ := pair.answers h htied.1
  refine Ends.ask fun reply elapsed world hanswer => ?_
  refine Ends.ask fun reply' elapsed' world' hanswer' => ?_
  rw [hanswer, hanswer'] at hreply helapsed halike
  obtain rfl : reply' = reply := hreply
  obtain rfl : elapsed' = elapsed := helapsed
  refine ⟨rfl, rfl, halike, ?_⟩
  have hlag : session'.clock + elapsed' - (session.clock + elapsed') =
      session'.clock - session.clock := by ring
  exact hlag ▸ htied.2

/-- The setting is read only to see which deletes are over at once, and how often to poll. -/
theorem Twins.ofSetting {next next' : Setting Rat W → Action Rat W α}
    (h : pair.Twins lags related (next pair.one) (next' pair.other)) :
    pair.Twins lags related (Action.setting >>= next) (Action.setting >>= next') := by
  intro session session' htied
  refine Ends.ofSetting (Ends.mono (h session session' htied) fun _ _ _ hother => ?_)
  exact Ends.ofSetting hother

theorem Twins.ofNow {next next' : Rat → Action Rat W α}
    (h : ∀ clock clock', clock' - clock ∈ lags →
      pair.Twins lags related (next clock) (next' clock')) :
    pair.Twins lags related (now >>= next) (now >>= next') := by
  intro session session' htied
  refine Ends.ofNow (Ends.mono (h _ _ htied.2 session session' htied) fun _ _ _ hother => ?_)
  exact Ends.ofNow hother

theorem Twins.sleep {duration : Rat} : pair.Steady lags (sleep duration) := by
  intro session session' htied
  have hlag : session'.clock + duration - (session.clock + duration) =
      session'.clock - session.clock := by ring
  have hafter : (session'.clock + duration) - (session.clock + duration) ∈ lags := hlag ▸ htied.2
  rw [Ends, run_sleep _ _ (Timescale.fits_rat _)]
  refine ⟨[.slept duration], Array.toList_push .., ?_⟩
  rw [Ends, run_sleep _ _ (Timescale.fits_rat _)]
  exact ⟨[.slept duration], Array.toList_push .., rfl, rfl, htied.1, hafter⟩

theorem Twins.of_lag (h : ∀ lag, pair.Twins {lag} related action action') :
    pair.Twins Set.univ related action action' := by
  intro session session' htied
  refine Ends.mono (h _ session session' ⟨htied.1, rfl⟩) fun _ _ _ hother => ?_
  exact Ends.mono hother fun _ _ _ ⟨hsame, hagree, hafter⟩ => ⟨hsame, hagree, hafter.1, trivial⟩

/-! ## Looking at signals -/

/-- One side looks at signals while the other one stands still. -/
def lookOne (pair : Pair W) (world' : W) : Scene W where
  setting := pair.one
  asks request := request.isSignal = true
  holds world := pair.alike world world'
  elapsed_nonneg _ _ := pair.forward_one _ _
  holds_answer := pair.signals_one

def lookOther (pair : Pair W) (world : W) : Scene W where
  setting := pair.other
  asks request := request.isSignal = true
  holds world' := pair.alike world world'
  elapsed_nonneg _ _ := pair.forward_other _ _
  holds_answer := pair.signals_other

theorem decisive_eq_nil {events : List (Event Rat)}
    (h : ∀ request reply, .asked request reply ∈ events → request.isSignal = true) :
    decisive events = [] := by
  refine List.filter_eq_nil_iff.mpr fun event hevent => ?_
  cases event with
  | asked request reply => simp [Event.isDecisive, h request reply hevent]
  | _ => nofun

/-- Both sides come to an end with a value, and they are as alike as before. The values may differ,
and so may the times. -/
theorem Twins.looking {budget budget' : Rat} (hraises : NeverRaises action)
    (hraises' : NeverRaises action') (h : ∀ world', (pair.lookOne world').Settles budget action)
    (h' : ∀ world, (pair.lookOther world).Settles budget' action') :
    pair.Twins Set.univ (fun _ _ => True) action action' := by
  intro session session' htied
  -- First one side moves and the other stands still, then the other way round.
  refine Ends.mono ((h session'.world).returns hraises htied.1) ?_
  rintro events _ after ⟨a, rfl, hasked, hafter⟩
  refine Ends.mono ((h' after.world).returns hraises' hafter) ?_
  rintro events' _ after' ⟨a', rfl, hasked', hafter'⟩
  refine ⟨?_, trivial, hafter', trivial⟩
  rw [decisive_eq_nil hasked, decisive_eq_nil hasked']

end Pair

end Reclaim
