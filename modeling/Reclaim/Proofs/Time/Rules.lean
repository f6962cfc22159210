import Reclaim.Proofs.Run
import Mathlib.Algebra.Order.BigOperators.Group.List
import Mathlib.Algebra.Order.Ring.Rat
import Mathlib.Tactic.Linarith

/-!
# Actions that come to an end

An action settles if it comes to an end wherever it starts, within a budget of time. On the way it
asks only what it may ask, and stays among the worlds it started in. Some events are worth more
time than an action has of its own: that time is their credit.
-/

namespace Reclaim

open Reclaim.Action

variable {W α β : Type}

/-- No tracker ran out of polls. -/
def Concludes (outcome : Except Stop α) : Prop :=
  ∀ reason, outcome = .error reason → reason ≠ .unfinished

theorem concludes_ok {a : α} : Concludes (.ok a) := nofun

theorem concludes_raised {fault : Fault} : Concludes (.error (.raised fault) : Except Stop α) := by
  rintro _ ⟨⟩
  nofun

theorem Concludes.error {reason : Stop} (h : Concludes (.error reason : Except Stop α)) :
    Concludes (.error reason : Except Stop β) := by
  rintro _ ⟨⟩
  exact h reason rfl

/-- The provider replies at once, so that only sleeping takes time. -/
def Provider.IsInstant (provider : Provider Rat W) : Prop :=
  ∀ request world, (provider.answer request world).2.1 = 0

def noCredit (_ : Event Rat) : Rat := 0

theorem noCredit_nonneg : ∀ event, 0 ≤ noCredit event := fun _ => le_rfl

/-- The requests that may be asked, and the worlds in which they are asked. None of them takes less
than no time or leads out of these worlds. -/
structure Scene (W : Type) where
  setting : Setting Rat W
  asks : Request → Prop
  holds : W → Prop
  credit : Event Rat → Rat := noCredit
  credit_nonneg : ∀ event, 0 ≤ credit event := by exact noCredit_nonneg
  elapsed_nonneg : ∀ {request world}, asks request → holds world →
    0 ≤ (setting.provider.answer request world).2.1
  holds_answer : ∀ {request world}, asks request → holds world →
    holds (setting.provider.answer request world).2.2

namespace Scene

variable {scene : Scene W}

def creditOf (scene : Scene W) (events : List (Event Rat)) : Rat := (events.map scene.credit).sum

@[simp] theorem creditOf_append (events more : List (Event Rat)) :
    scene.creditOf (events ++ more) = scene.creditOf events + scene.creditOf more := by
  simp [creditOf]

@[simp] theorem creditOf_singleton (event : Event Rat) :
    scene.creditOf [event] = scene.credit event := by
  simp [creditOf]

theorem creditOf_nonneg (events : List (Event Rat)) : 0 ≤ scene.creditOf events := by
  refine List.sum_nonneg fun credit hcredit => ?_
  obtain ⟨event, -, rfl⟩ := List.mem_map.mp hcredit
  exact scene.credit_nonneg event

/-- How a run went that settled. A budget below zero is time that its events left over. -/
structure Settled (scene : Scene W) (budget : Rat) (session : Session Rat W)
    (events : List (Event Rat)) (outcome : Except Stop α) (after : Session Rat W) : Prop where
  concludes : Concludes outcome
  asked : ∀ request reply, .asked request reply ∈ events → scene.asks request
  holds : scene.holds after.world
  forward : session.clock ≤ after.clock
  inTime : scene.setting.provider.IsInstant →
    after.clock ≤ session.clock + budget + scene.creditOf events

/-- The action settles, within a budget that depends on the outcome. -/
def SettlesFor (scene : Scene W) (budget : Except Stop α → Rat) (action : Action Rat W α) : Prop :=
  ∀ session, scene.holds session.world → Ends scene.setting session action
    fun events outcome after => scene.Settled (budget outcome) session events outcome after

abbrev Settles (scene : Scene W) (budget : Rat) (action : Action Rat W α) : Prop :=
  scene.SettlesFor (fun _ => budget) action

variable {budget first second : Rat} {session between after : Session Rat W}
variable {events more : List (Event Rat)} {action : Action Rat W α} {next : α → Action Rat W β}

/-! ## One run after another -/

theorem Settled.mono {outcome : Except Stop α}
    (h : scene.Settled first session events outcome after) (hle : first ≤ budget) :
    scene.Settled budget session events outcome after := by
  refine ⟨h.concludes, h.asked, h.holds, h.forward, fun hinstant => ?_⟩
  have := h.inTime hinstant
  linarith

theorem Settled.error {reason : Stop}
    (h : scene.Settled budget session events (.error reason : Except Stop α) after) :
    scene.Settled budget session events (.error reason : Except Stop β) after :=
  ⟨h.concludes.error, h.asked, h.holds, h.forward, h.inTime⟩

theorem Settled.and {outcome : Except Stop α} {final : Except Stop β}
    (h : scene.Settled first session events outcome between)
    (hmore : scene.Settled second between more final after) :
    scene.Settled (first + second) session (events ++ more) final after where
  concludes := hmore.concludes
  asked request reply hmem := by
    rcases List.mem_append.mp hmem with hevents | hlater
    · exact h.asked request reply hevents
    · exact hmore.asked request reply hlater
  holds := hmore.holds
  forward := h.forward.trans hmore.forward
  inTime hinstant := by
    have := h.inTime hinstant
    have := hmore.inTime hinstant
    rw [creditOf_append]
    linarith

/-- Nothing was asked, and no time went by. -/
theorem settled_still {outcome : Except Stop α} (hconcludes : Concludes outcome)
    (hevents : ∀ request reply, .asked request reply ∉ events) (hbudget : 0 ≤ budget)
    (hholds : scene.holds session.world) (hworld : after.world = session.world)
    (hclock : after.clock = session.clock) :
    scene.Settled budget session events outcome after where
  concludes := hconcludes
  asked request reply hmem := absurd hmem (hevents request reply)
  holds := hworld ▸ hholds
  forward := hclock.ge
  inTime _ := by
    have := scene.creditOf_nonneg events
    linarith

/-- What follows takes the rest of the budget. -/
theorem Settled.then {outcome : Except Stop α} {following : Action Rat W β}
    (h : scene.Settled first session events outcome between)
    (hfollowing : Ends scene.setting between following fun more final after =>
      scene.Settled second between more final after)
    (hle : first + second ≤ budget) :
    Ends scene.setting between following fun more final after =>
      scene.Settled budget session (events ++ more) final after :=
  Ends.mono hfollowing fun _ _ _ hmore => (h.and hmore).mono hle

/-- The run is over. -/
theorem Settled.last {outcome : Except Stop α} {final : Except Stop β}
    (h : scene.Settled first session events outcome after) (hfinal : Concludes final)
    (hle : first ≤ budget) : scene.Settled budget session (events ++ []) final after := by
  rw [List.append_nil]
  exact ⟨hfinal, h.asked, h.holds, h.forward, (h.mono hle).inTime⟩

theorem Settled.return {outcome : Except Stop α} {b : β}
    (h : scene.Settled first session events outcome after) (hle : first ≤ budget) :
    Ends scene.setting after (pure b) fun more final last =>
      scene.Settled budget session (events ++ more) final last :=
  Ends.pure (h.last concludes_ok hle)

/-! ## Ways to build an action -/

theorem SettlesFor.mono {share budget : Except Stop α → Rat} (h : scene.SettlesFor share action)
    (hle : ∀ outcome, share outcome ≤ budget outcome) : scene.SettlesFor budget action :=
  fun session hholds => Ends.mono (h session hholds) fun _ outcome _ hsettled =>
    hsettled.mono (hle outcome)

theorem Settles.pure {a : α} (hbudget : 0 ≤ budget) :
    scene.Settles budget (pure a : Action Rat W α) :=
  fun _ hholds => Ends.pure
    (settled_still concludes_ok (fun _ _ => List.not_mem_nil) hbudget hholds rfl rfl)

theorem Settles.raise {fault : Fault} (hbudget : 0 ≤ budget) :
    scene.Settles budget (raise fault : Action Rat W α) :=
  fun _ hholds => Ends.stop
    (settled_still concludes_raised (fun _ _ => List.not_mem_nil) hbudget hholds rfl rfl)

theorem Settles.ofExcept {result : Except Fault α} (hbudget : 0 ≤ budget) :
    scene.Settles budget (ofExcept result : Action Rat W α) := by
  cases result with
  | ok a => exact .pure hbudget
  | error fault => exact .raise hbudget

theorem Settles.ofExcept_bind {result : Except Fault α} (hbudget : 0 ≤ budget)
    (h : ∀ a, result = .ok a → scene.Settles budget (next a)) :
    scene.Settles budget (Action.ofExcept result >>= next) := by
  cases result with
  | ok a => exact h a rfl
  | error fault => exact .raise hbudget

theorem SettlesFor.bind {share : Except Stop α → Rat} (h : scene.SettlesFor share action)
    (hnext : ∀ a, scene.Settles (budget - share (.ok a)) (next a))
    (herror : ∀ reason, share (.error reason) ≤ budget) :
    scene.Settles budget (action >>= next) := by
  intro session hholds
  refine Ends.bind (h session hholds) ?_ ?_
  · intro events a between hsettled
    exact hsettled.then (hnext a between hsettled.holds) (by linarith)
  · intro events reason between hsettled
    exact hsettled.error.mono (herror reason)

/-- What follows may depend on what the action can give. -/
theorem Settles.bind_ran (h : scene.Settles first action)
    (hnext : ∀ session a after, action.run scene.setting session = .ok a after →
      scene.Settles second (next a))
    (hsecond : 0 ≤ second) : scene.Settles (first + second) (action >>= next) := by
  intro session hholds
  refine Ends.bind (Ends.ran (h session hholds)) ?_ ?_
  · rintro events a between ⟨hsettled, hran⟩
    exact hsettled.then (hnext session a between (hran a rfl) between hsettled.holds) le_rfl
  · rintro events reason between ⟨hsettled, -⟩
    exact hsettled.error.mono (le_add_of_nonneg_right hsecond)

theorem Settles.bind (h : scene.Settles first action) (hnext : ∀ a, scene.Settles second (next a))
    (hsecond : 0 ≤ second) : scene.Settles (first + second) (action >>= next) :=
  h.bind_ran (fun _ a _ _ => hnext a) hsecond

/-- What takes no time may come first. -/
theorem Settles.before (h : scene.Settles 0 action) (hnext : ∀ a, scene.Settles budget (next a))
    (hbudget : 0 ≤ budget) : scene.Settles budget (action >>= next) :=
  (h.bind hnext hbudget).mono fun _ => by linarith

theorem Settles.followed (h : scene.Settles budget action) (hnext : ∀ a, scene.Settles 0 (next a)) :
    scene.Settles budget (action >>= next) :=
  (h.bind hnext le_rfl).mono fun _ => by linarith

theorem Settles.rescue {handle : Fault → Action Rat W α} (h : scene.Settles budget action)
    (hhandle : ∀ fault, scene.Settles 0 (handle fault)) :
    scene.Settles budget (rescue action handle) := by
  intro session hholds
  refine Ends.rescue (h session hholds) (fun _ _ _ hsettled => hsettled) ?_ ?_
  · intro events fault between hsettled
    exact hsettled.then (hhandle fault between hsettled.holds) (by linarith)
  · intro events between hsettled
    exact hsettled

/-- What settles and raises no fault gives a value. -/
theorem Settles.returns (h : scene.Settles budget action) (hraises : NeverRaises action)
    (hholds : scene.holds session.world) :
    Returns scene.setting session action fun events _ after =>
      (∀ request reply, .asked request reply ∈ events → scene.asks request) ∧
        scene.holds after.world := by
  obtain ⟨events, htrace, hsettled⟩ := h session hholds
  refine ⟨events, htrace, ?_⟩
  cases hrun : action.run scene.setting session with
  | ok a after =>
    rw [hrun] at hsettled
    exact ⟨a, rfl, hsettled.asked, hsettled.holds⟩
  | error reason after =>
    rw [hrun] at hsettled
    cases reason with
    | raised fault => exact absurd hrun (hraises _ _ _ _)
    | unfinished => exact absurd rfl (hsettled.concludes _ rfl)

/-! ## Single steps -/

theorem Settles.record {event : Event Rat}
    (hevent : ∀ request reply, event ≠ .asked request reply) : scene.Settles 0 (record event) := by
  intro session hholds
  refine Ends.record (settled_still concludes_ok ?_ le_rfl hholds rfl rfl)
  intro request reply hmem
  exact hevent request reply (List.mem_singleton.mp hmem).symm

theorem Settles.log {channel : Log.Channel} {event : String} {fields : Log.Fields} :
    scene.Settles 0 (log channel event fields) :=
  .record (by simp)

/-- There may be something to remark before the action goes on. -/
theorem Settles.remark {said : Bool} {channel : Log.Channel} {event : String} {fields : Log.Fields}
    (h : scene.Settles budget action) (hbudget : 0 ≤ budget) :
    scene.Settles budget
      (if said = true then Action.log channel event fields >>= fun _ => action else action) := by
  cases said with
  | true => exact .before .log (fun _ => h) hbudget
  | false => exact h

theorem Settles.ofSetting {next : Setting Rat W → Action Rat W α}
    (h : scene.Settles budget (next scene.setting)) :
    scene.Settles budget (Action.setting >>= next) :=
  fun session hholds => Ends.ofSetting (h session hholds)

/-- A request leaves over what its event is worth. -/
theorem SettlesFor.ask {request : Request} (hasks : scene.asks request)
    {budget : Except Stop request.Reply → Rat}
    (hbudget : ∀ reply, -scene.credit (.asked request reply) ≤ budget (.ok reply)) :
    scene.SettlesFor budget (ask request) := by
  intro session hholds
  refine Ends.ask fun reply elapsed world hanswer => ?_
  have helapsed := scene.elapsed_nonneg hasks hholds
  have hworld := scene.holds_answer hasks hholds
  rw [hanswer] at helapsed hworld
  refine ⟨concludes_ok, ?_, hworld, le_add_of_nonneg_right helapsed, fun hinstant => ?_⟩
  · intro request' reply' hmem
    cases List.mem_singleton.mp hmem
    exact hasks
  · have hnone := hinstant request session.world
    rw [hanswer] at hnone
    have hcredit := hbudget reply
    change session.clock + elapsed ≤ _
    rw [creditOf_singleton, show elapsed = 0 from hnone]
    linarith

theorem Settles.ask {request : Request} (hasks : scene.asks request) :
    scene.Settles 0 (ask request) :=
  SettlesFor.ask hasks fun reply => by
    have := scene.credit_nonneg (.asked request reply)
    linarith

theorem sleep_settled {duration : Rat} (hduration : 0 ≤ duration)
    (hholds : scene.holds session.world) :
    Returns scene.setting session (sleep duration) fun events _ after =>
      scene.Settled duration session events (.ok ()) after ∧
        after.clock = session.clock + duration := by
  rw [Returns, Ends, run_sleep _ _ (Timescale.fits_rat _)]
  refine ⟨[.slept duration], Array.toList_push .., (), rfl, ?_, rfl⟩
  refine ⟨concludes_ok, by simp, hholds, le_add_of_nonneg_right hduration, fun _ => ?_⟩
  have hcredit := scene.creditOf_nonneg [.slept duration]
  change session.clock + duration ≤ _
  linarith

end Scene

end Reclaim
