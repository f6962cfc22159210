import Reclaim.Proofs.Double.Waiting
import Reclaim.Proofs.Settings.Acceptance
import Reclaim.Settings.Environment

/-!
# Trackers that come to an end

The checks of settings let through every timeout that is not at most zero, and so also one that is
no number or infinite. A tracker comes to an end if its deadline is finite and not too far away for
its period; with a timeout that is no number it never does.
-/

namespace Reclaim

open Reclaim.Action Timescale Double

variable {W α : Type}

/-! ## Settings in floating point numbers -/

namespace Settings

/-- All durations are floating point numbers. -/
def InDoubles (s : Settings Seconds) : Prop := ∀ d ∈ s.durations, ∃ x, d.2 = .fractional x

variable {given s : Settings Seconds} {env : Environment}

theorem InDoubles.checked (h : given.InDoubles) (hchecked : given.checked = .ok s) :
    s.InDoubles := by
  obtain ⟨-, rfl⟩ := checked_eq_ok_iff.mp hchecked
  exact h

theorem bind_eq_ok {β : Type} {first : Except Fault α} {next : α → Except Fault β} {b : β} :
    first >>= next = .ok b ↔ ∃ a, first = .ok a ∧ next a = .ok b := by
  cases first <;> simp [bind, Except.bind]

theorem readDuration_fractional {name : String} {standard : Int} {d : Seconds}
    (h : readDuration env name standard = .ok d) : ∃ x, d = .fractional x := by
  unfold readDuration at h
  split at h
  · exact ⟨_, (Except.ok.inj h).symm⟩
  · split at h
    · exact ⟨_, (Except.ok.inj h).symm⟩
    · cases h

/-- The environment gives settings that are checked like any others, and all in floating point
numbers. -/
theorem exists_given (h : ofEnvironment env = .ok s) :
    ∃ given : Settings Seconds, given.InDoubles ∧ given.checked = .ok s := by
  unfold ofEnvironment at h
  obtain ⟨a, ha, h⟩ := bind_eq_ok.mp h
  obtain ⟨b, hb, h⟩ := bind_eq_ok.mp h
  obtain ⟨c, hc, h⟩ := bind_eq_ok.mp h
  obtain ⟨d, hd, h⟩ := bind_eq_ok.mp h
  obtain ⟨e, he, h⟩ := bind_eq_ok.mp h
  obtain ⟨f, hf, h⟩ := bind_eq_ok.mp h
  obtain ⟨g, hg, h⟩ := bind_eq_ok.mp h
  refine ⟨_, ?_, h⟩
  simp only [InDoubles, durations, List.forall_mem_cons]
  exact ⟨readDuration_fractional ha, readDuration_fractional hb, readDuration_fractional hc,
    readDuration_fractional hd, readDuration_fractional he, readDuration_fractional hf,
    readDuration_fractional hg, List.forall_mem_nil _⟩

end Settings

/-! ## What trackers ask -/

section Asking

variable {setting : Setting Seconds W}

theorem orGone_proceeds {fault : Fault} {verb : String} {subject : Subject}
    {whenGone : Action Seconds W α} (h : Proceeds setting whenGone) :
    Proceeds setting (Access.orGone fault verb subject whenGone) := by
  unfold Access.orGone
  split
  · exact h
  · exact .raise

variable (hpatient : setting.provider.IsPatient)

include hpatient

theorem members_proceeds {group : String} :
    Proceeds setting (Access.members group : Action Seconds W _) := by
  unfold Access.members
  refine .bind (.ask hpatient) fun listing => ?_
  split
  · exact .pure
  · exact orGone_proceeds .pure

theorem isAbsent_proceeds {id : ResourceId} : Proceeds setting (do
    return Departure.isAbsent id (← Access.members id.group) : Action Seconds W Bool) :=
  .bind (members_proceeds hpatient) fun _ => .pure

theorem isDiskMissing_proceeds {id : ResourceId} :
    Proceeds setting (Teardown.isDiskMissing id : Action Seconds W Bool) := by
  unfold Teardown.isDiskMissing Access.get
  refine .bind (.bind (.ask hpatient) fun reply => ?_) fun _ => .pure
  cases reply with
  | ok object => exact .bind .ofExcept fun _ => .pure
  | error fault => exact orGone_proceeds .pure

theorem isDone_proceeds {handle : Handle} :
    Proceeds setting (Deletion.isDone handle : Action Seconds W Bool) :=
  .bind (.ask hpatient) fun _ => .ofExcept

theorem status_proceeds {handle : Handle} :
    Proceeds setting (Deletion.status handle : Action Seconds W String) :=
  .bind (.ask hpatient) fun _ => .bind .ofExcept fun _ => .pure

end Asking

/-! ## Replies that never satisfy -/

section Fruitless

variable {setting : Setting Seconds W} {times : Seconds → Prop}

/-- A delete that goes on for ever. -/
def Provider.NeverDone (provider : Provider Seconds W) (handle : Handle) : Prop :=
  ∀ world, (provider.answer (.isDone handle) world).1 = .ok false

/-- A resource that never leaves the listing of its group. -/
def Provider.AlwaysLists (provider : Provider Seconds W) (id : ResourceId) : Prop :=
  ∀ world, ∃ members,
    Access.readListing View.member (provider.answer (.members id.group) world).1 = .ok members ∧
      Departure.isAbsent id (some members) = false

/-- A disk that never disappears. -/
def Provider.AlwaysFinds (provider : Provider Seconds W) (id : ResourceId) : Prop :=
  ∀ world, ∃ object,
    (provider.answer (.get .disk id.group id.name) world).1 = .ok (some object)

/-- Replies lead from one of these times to another. -/
def Provider.Stays (provider : Provider Seconds W) (times : Seconds → Prop) : Prop :=
  ∀ time request world, times time → times (plus time (provider.answer request world).2.1)

variable (hstays : setting.provider.Stays times)

include hstays

/-- One request, whose replies all mean that the condition does not hold. -/
theorem ask_fruitless {request : Request} {judge : request.Reply → Action Seconds W Bool}
    (h : ∀ world session, (judge (setting.provider.answer request world).1).run setting session =
      .ok false session) : Fruitless setting times (ask request >>= judge) := by
  intro session hclock
  refine ⟨?_, ?_, ?_⟩
  rotate_left
  · rw [run_bind, run_ask]
    exact h session.world _
  · exact hstays _ request session.world hclock

theorem isDone_fruitless {handle : Handle} (h : setting.provider.NeverDone handle) :
    Fruitless setting times (Deletion.isDone handle) := by
  refine ask_fruitless hstays fun world session => ?_
  rw [h world]
  exact run_ofExcept_ok ..

theorem isAbsent_fruitless {id : ResourceId} (h : setting.provider.AlwaysLists id) :
    Fruitless setting times (do return Departure.isAbsent id (← Access.members id.group)) := by
  rw [Access.members, bind_assoc]
  refine ask_fruitless hstays fun world session => ?_
  obtain ⟨members, hread, habsent⟩ := h world
  rw [hread]
  dsimp only
  rw [pure_bind, habsent]
  exact run_pure ..

theorem isDiskMissing_fruitless {id : ResourceId} (h : setting.provider.AlwaysFinds id) :
    Fruitless setting times (Teardown.isDiskMissing id) := by
  rw [Teardown.isDiskMissing, Access.get, bind_assoc]
  refine ask_fruitless hstays fun world session => ?_
  obtain ⟨object, hfound⟩ := h world
  rw [hfound]
  rfl

end Fruitless

/-! ## Trackers -/

/-- With enough polls the action comes to an end, whatever is replied to it. -/
def ComesToAnEnd (start : Float) (action : Action Seconds W α) : Prop :=
  ∃ enough, ∀ setting : Setting Seconds W, setting.provider.IsPatient →
    enough ≤ setting.pollLimit → ∀ session : Session Seconds W, session.clock = .fractional start →
      ∀ after, action.run setting session ≠ .error .unfinished after

/-- However many polls there are, the action uses them up. -/
def NeverEnds (provider : Provider Seconds W) (start : Float)
    (action : Action Seconds W α) : Prop :=
  ∀ limit (session : Session Seconds W), session.clock = .fractional start →
    ∃ after, action.run ⟨provider, limit⟩ session = .error .unfinished after

/-- Replies take so little time that they lead no clock to infinity. -/
def Provider.IsBrief (provider : Provider Seconds W) : Prop :=
  ∀ request world, 0 ≤ (provider.answer request world).2.1.toFloat ∧
    value (provider.answer request world).2.1.toFloat < 2 ^ (970 : ℤ)

/-- The timeout is no number, or it is infinite and no sleep of a period leads the clock there. -/
inductive OutOfReach (start timeout period : Float) : Prop where
  | unknown (htimeout : timeout.isNaN = true)
  | infinite (htimeout : timeout.isInf = true) (hstart : value start < 2 ^ (1024 : ℤ))
      (hperiod : period.isNaN = false) (hbrief : value period < 2 ^ (970 : ℤ))

section Trackers

variable {start timeout period ceiling : Float} {provider : Provider Seconds W}

theorem comesToAnEnd_of_concludes {action : Action Seconds W α} (enough : ℕ)
    (h : ∀ setting : Setting Seconds W, setting.provider.IsPatient → enough ≤ setting.pollLimit →
      ∀ session : Session Seconds W, session.clock = .fractional start →
        Ends setting session action fun _ outcome _ => Concludes outcome) :
    ComesToAnEnd start action := by
  refine ⟨enough, fun setting hpatient hlimit session hclock after hrun => ?_⟩
  obtain ⟨events, -, hconcludes⟩ := (h setting hpatient hlimit session hclock).of_error hrun
  exact hconcludes .unfinished rfl rfl

theorem NeverEnds.bind {β : Type} {action : Action Seconds W α} {next : α → Action Seconds W β}
    (h : NeverEnds provider start action) : NeverEnds provider start (action >>= next) := by
  intro limit session hclock
  obtain ⟨after, hrun⟩ := h limit session hclock
  exact ⟨after, by rw [run_bind, hrun]⟩

theorem NeverEnds.rescue {action : Action Seconds W α} {handle : Fault → Action Seconds W α}
    (h : NeverEnds provider start action) :
    NeverEnds provider start (Action.rescue action handle) := by
  intro limit session hclock
  obtain ⟨after, hrun⟩ := h limit session hclock
  exact ⟨after, by rw [run_rescue, hrun]⟩

theorem stays_isShown : provider.Stays IsShown := by
  rintro _ request world ⟨x, rfl⟩
  rw [Seconds.plus_fractional]
  exact ⟨_, rfl⟩

theorem Provider.IsBrief.stays_isTime (h : provider.IsBrief) : provider.Stays IsTime := by
  rintro _ request world ⟨x, rfl, hx⟩
  rw [Seconds.plus_fractional]
  exact ⟨_, rfl, Double.add_nonneg hx (h request world).1⟩

theorem Provider.IsBrief.stays_isFinite (h : provider.IsBrief) : provider.Stays IsFinite := by
  rintro _ request world ⟨x, rfl, hx, hfinite⟩
  obtain ⟨helapsed, hshort⟩ := h request world
  rw [Seconds.plus_fractional]
  exact ⟨_, rfl, Double.add_nonneg hx helapsed, value_add_lt hx helapsed hfinite hshort⟩

theorem OutOfReach.await_neverEnds (h : OutOfReach start timeout period) (hstart : 0 ≤ start)
    (htimeout : isPositive (Seconds.fractional timeout) = true)
    (hperiod : isPositive (Seconds.fractional period) = true) (hbrief : provider.IsBrief)
    {condition : Action Seconds W Bool}
    (hcondition : ∀ limit times, provider.Stays times →
      Fruitless ⟨provider, limit⟩ times condition) :
    NeverEnds provider start
      (Patience.await ⟨.fractional timeout, .fractional period⟩ condition) := by
  intro limit session hclock
  cases h with
  | unknown hnan =>
    exact await_unfinished_of_isNaN (hcondition limit _ stays_isShown) hclock hnan
  | infinite hinf hfinite hknown hshort =>
    have hnonneg := nonneg_of_not_nonpos (Seconds.isPositive_fractional.mp htimeout)
      (isNaN_of_isInf hinf)
    exact await_unfinished_of_infinite (hcondition limit _ hbrief.stays_isFinite) hstart hfinite
      hclock hnonneg (value_of_isInf hnonneg hinf)
      (nonneg_of_not_nonpos (Seconds.isPositive_fractional.mp hperiod) hknown) hshort

theorem OutOfReach.retry_await_neverEnds (h : OutOfReach start timeout period) (hstart : 0 ≤ start)
    (htimeout : isPositive (Seconds.fractional timeout) = true)
    (hperiod : isPositive (Seconds.fractional period) = true)
    (hceiling : isPositive (Seconds.fractional ceiling) = true) (hbrief : provider.IsBrief)
    {condition : Action Seconds W Bool}
    (hcondition : ∀ limit times, provider.Stays times →
      Fruitless ⟨provider, limit⟩ times condition) :
    NeverEnds provider start
      (Escalation.await ⟨.fractional timeout, .fractional period, .fractional ceiling⟩
        condition) := by
  intro limit session hclock
  cases h with
  | unknown hnan =>
    exact retry_await_unfinished_of_isNaN (hcondition limit _ stays_isShown) hclock hnan
  | infinite hinf hfinite hknown hshort =>
    have hnonneg := nonneg_of_not_nonpos (Seconds.isPositive_fractional.mp htimeout)
      (isNaN_of_isInf hinf)
    exact retry_await_unfinished_of_infinite (hcondition limit _ hbrief.stays_isTime) hstart hclock
      hnonneg (value_of_isInf hnonneg hinf)
      (nonneg_of_not_nonpos (Seconds.isPositive_fractional.mp hperiod) hknown) hceiling

theorem isConfirmed_comesToAnEnd (h : InReach start timeout period) (hstart : 0 ≤ start)
    (htimeout : isPositive (Seconds.fractional timeout) = true)
    (hperiod : isPositive (Seconds.fractional period) = true) (handle : Option Handle) :
    ComesToAnEnd start (Deletion.isConfirmed ⟨.fractional timeout, .fractional period⟩ handle :
      Action Seconds W Bool) := by
  refine comesToAnEnd_of_concludes (ticks (start + timeout) + 1)
    fun setting hpatient hlimit session hclock => ?_
  cases handle with
  | none => exact Ends.pure concludes_ok
  | some handle =>
    refine Ends.bind (h.await_concludes hstart htimeout hperiod hlimit hclock
      (isDone_proceeds hpatient)) ?_ fun _ _ _ h => h.1.error
    rintro events done between ⟨-, hpast⟩
    refine Proceeds.concludes ?_ hpast
    split
    · refine .bind (status_proceeds hpatient) fun status => ?_
      split
      · exact .bind .record fun _ => .pure
      · exact .pure
    · exact .bind .record fun _ => .pure

theorem hasLeft_comesToAnEnd (h : InReach start timeout period) (hstart : 0 ≤ start)
    (htimeout : isPositive (Seconds.fractional timeout) = true)
    (hperiod : isPositive (Seconds.fractional period) = true) {t : Teardown Seconds}
    (ht : t.departure = ⟨.fractional timeout, .fractional period⟩) (id : ResourceId) :
    ComesToAnEnd start (t.hasLeft id : Action Seconds W Bool) := by
  refine comesToAnEnd_of_concludes (ticks (start + timeout) + 1)
    fun setting hpatient hlimit session hclock => ?_
  rw [Teardown.hasLeft, ht]
  have hlook : Ends setting session (Departure.hasLeft ⟨.fractional timeout, .fractional period⟩
      Access.members id) fun _ outcome _ => Concludes outcome := by
    refine Ends.bind (h.await_concludes hstart htimeout hperiod hlimit hclock
      (isAbsent_proceeds hpatient)) ?_ fun _ _ _ h => h.1.error
    rintro events done between ⟨-, hpast⟩
    refine Proceeds.concludes ?_ hpast
    split
    · exact .pure
    · exact .bind .record fun _ => .pure
  refine Ends.rescue hlook (fun _ _ _ h => h) (fun _ _ _ _ => ?_) (fun _ _ h => h)
  exact Ends.resume (run_log ..) (Array.toList_push ..) (Ends.pure concludes_ok)

theorem isConfirmed_neverEnds (h : OutOfReach start timeout period) (hstart : 0 ≤ start)
    (htimeout : isPositive (Seconds.fractional timeout) = true)
    (hperiod : isPositive (Seconds.fractional period) = true) (hbrief : provider.IsBrief)
    {handle : Handle} (hdone : provider.NeverDone handle) :
    NeverEnds provider start
      (Deletion.isConfirmed ⟨.fractional timeout, .fractional period⟩ (some handle)) :=
  (h.await_neverEnds hstart htimeout hperiod hbrief
    fun _ _ hstays => isDone_fruitless hstays hdone).bind

theorem hasLeft_neverEnds (h : OutOfReach start timeout period) (hstart : 0 ≤ start)
    (htimeout : isPositive (Seconds.fractional timeout) = true)
    (hperiod : isPositive (Seconds.fractional period) = true) (hbrief : provider.IsBrief)
    {t : Teardown Seconds} (ht : t.departure = ⟨.fractional timeout, .fractional period⟩)
    {id : ResourceId} (hlisted : provider.AlwaysLists id) :
    NeverEnds provider start (t.hasLeft id) := by
  rw [Teardown.hasLeft, ht]
  exact (h.await_neverEnds hstart htimeout hperiod hbrief
    fun _ _ hstays => isAbsent_fruitless hstays hlisted).bind.rescue

theorem isGone_comesToAnEnd (h : InReach start timeout period) (hstart : 0 ≤ start)
    (htimeout : isPositive (Seconds.fractional timeout) = true)
    (hperiod : isPositive (Seconds.fractional period) = true)
    (hceiling : isPositive (Seconds.fractional ceiling) = true)
    (hbelow : below (Seconds.fractional ceiling) (Seconds.fractional period) = false)
    (id : ResourceId) : ComesToAnEnd start (Escalation.await
      ⟨.fractional timeout, .fractional period, .fractional ceiling⟩ (Teardown.isDiskMissing id) :
        Action Seconds W Bool) :=
  comesToAnEnd_of_concludes (ticks (start + timeout) + 1)
    fun _ hpatient hlimit _ hclock => Ends.mono (h.retry_await_concludes hstart htimeout hperiod
      hceiling hbelow hlimit hclock (isDiskMissing_proceeds hpatient)) fun _ _ _ h => h.1

theorem isGone_neverEnds (h : OutOfReach start timeout period) (hstart : 0 ≤ start)
    (htimeout : isPositive (Seconds.fractional timeout) = true)
    (hperiod : isPositive (Seconds.fractional period) = true)
    (hceiling : isPositive (Seconds.fractional ceiling) = true) (hbrief : provider.IsBrief)
    {id : ResourceId} (hfound : provider.AlwaysFinds id) :
    NeverEnds provider start (Escalation.await
      ⟨.fractional timeout, .fractional period, .fractional ceiling⟩ (Teardown.isDiskMissing id)) :=
  h.retry_await_neverEnds hstart htimeout hperiod hceiling hbrief
    fun _ _ hstays => isDiskMissing_fruitless hstays hfound

end Trackers

/-! ## Accepted settings -/

/-- With accepted settings in floating point numbers, each tracker comes to an end if its deadline
is finite and the clock moves until then, even if what it waits for never happens; and if it
never happens, no tracker whose timeout is no number or infinite comes to an end. -/
theorem accepted_trackers_end {given s : Settings Seconds} {env : Settings.Environment}
    (hsettings : given.InDoubles ∧ given.checked = .ok s ∨ Settings.ofEnvironment env = .ok s)
    {t : Teardown Seconds} (hteardown : Assembly.teardownOf s = .ok t)
    {isGone : ResourceId → Action Seconds W Bool} (hcheck : t.diskCheckOf = .ok isGone)
    {start : Float} (hstart : 0 ≤ start) :
    ((InReach start s.deletionTimeout.toFloat s.deletionPeriod.toFloat →
        ∀ handle, ComesToAnEnd start (t.isConfirmed handle : Action Seconds W Bool)) ∧
      (OutOfReach start s.deletionTimeout.toFloat s.deletionPeriod.toFloat →
        ∀ (provider : Provider Seconds W) handle, provider.IsBrief → provider.NeverDone handle →
          NeverEnds provider start (t.isConfirmed (some handle)))) ∧
    ((InReach start s.departureTimeout.toFloat s.departurePeriod.toFloat →
        ∀ id, ComesToAnEnd start (t.hasLeft id : Action Seconds W Bool)) ∧
      (OutOfReach start s.departureTimeout.toFloat s.departurePeriod.toFloat →
        ∀ (provider : Provider Seconds W) id, provider.IsBrief → provider.AlwaysLists id →
          NeverEnds provider start (t.hasLeft id))) ∧
    ((InReach start s.diskTimeout.toFloat s.diskPeriod.toFloat →
        ∀ id, ComesToAnEnd start (isGone id)) ∧
      (OutOfReach start s.diskTimeout.toFloat s.diskPeriod.toFloat →
        ∀ (provider : Provider Seconds W) id, provider.IsBrief → provider.AlwaysFinds id →
          NeverEnds provider start (isGone id))) := by
  obtain ⟨given, hdoubles, hchecked⟩ :
      ∃ given : Settings Seconds, given.InDoubles ∧ given.checked = .ok s := by
    rcases hsettings with h | h
    · exact ⟨given, h⟩
    · exact Settings.exists_given h
  have haccepted := (Settings.checked_eq_ok_iff.mp hchecked).1
  have hs := hdoubles.checked hchecked
  have hwired : t = Assembly.wired s := by
    rw [Assembly.teardownOf_of_isAccepted haccepted] at hteardown
    split at hteardown
    · cases hteardown
    · exact (Except.ok.inj hteardown).symm
  subst hwired
  rw [Assembly.diskCheckOf_wired haccepted] at hcheck
  obtain rfl := Except.ok.inj hcheck
  have hpositive := haccepted.positive
  have hbelow := haccepted.ceiling
  obtain ⟨_, deletionTimeout, deletionPeriod, departureTimeout, departurePeriod, diskTimeout,
    diskPeriod, diskCeiling, _, _, _, _⟩ := s
  simp only [Settings.InDoubles, Settings.durations, List.forall_mem_cons] at hs hpositive
  obtain ⟨⟨_, rfl⟩, ⟨_, rfl⟩, ⟨_, rfl⟩, ⟨_, rfl⟩, ⟨_, rfl⟩, ⟨_, rfl⟩, ⟨_, rfl⟩, -⟩ := hs
  obtain ⟨hdeletion, hdeletion', hdeparture, hdeparture', hdisk, hdisk', hceiling, -⟩ := hpositive
  refine ⟨⟨fun h => ?_, fun h => ?_⟩, ⟨fun h => ?_, fun h => ?_⟩, ⟨fun h => ?_, fun h => ?_⟩⟩
  · exact isConfirmed_comesToAnEnd h hstart hdeletion hdeletion'
  · intro provider handle hbrief hdone
    exact isConfirmed_neverEnds h hstart hdeletion hdeletion' hbrief hdone
  · exact hasLeft_comesToAnEnd h hstart hdeparture hdeparture' rfl
  · intro provider id hbrief hlisted
    exact hasLeft_neverEnds h hstart hdeparture hdeparture' hbrief rfl hlisted
  · exact isGone_comesToAnEnd h hstart hdisk hdisk' hceiling hbelow
  · intro provider id hbrief hfound
    exact isGone_neverEnds h hstart hdisk hdisk' hceiling hbrief hfound

/-! An environment in which two timeouts are set, one to no number and one to infinity, and a
provider with whom nothing ever goes away. -/

namespace Unbounded

def environment (name : String) : Option String :=
  if name = "TIMEOUT_RESOURCE_DELETED" then some "nan"
  else if name = "TIMEOUT_DISK_DELETED" then some "inf"
  else none

def settings : Settings Seconds where
  subscription := none
  deletionTimeout := .fractional (0.0 / 0.0)
  deletionPeriod := .fractional (Float.ofInt 5)
  departureTimeout := .fractional (Float.ofInt 300)
  departurePeriod := .fractional (Float.ofInt 5)
  diskTimeout := .fractional (1.0 / 0.0)
  diskPeriod := .fractional (Float.ofInt 1)
  diskCeiling := .fractional (Float.ofInt 15)
  ownershipTag := "jclouds"
  generatedTag := "autogenerated"
  groupPrefix := "jclouds"
  logLevel := "INFO"

def diskText : String := "/subscriptions/s/resourceGroups/g/providers/p/disks/d"

def reply : (request : Request) → request.Reply
  | .get .disk _ _ => .ok (some ⟨none, none⟩)
  | .get _ _ _ => .ok none
  | .list _ _ => ⟨[], none⟩
  | .beginDelete _ _ _ => .ok (some ⟨0⟩)
  | .delete _ _ _ => .ok ()
  | .members _ => ⟨[some ⟨⟨some diskText, none⟩, none⟩], none⟩
  | .beginDeleteGroup _ => .ok (some ⟨0⟩)
  | .isDone _ => .ok false
  | .status _ => .ok none

def provider : Provider Seconds Unit where
  answer request _ := (reply request, .fractional 0, ())
  deletesAtOnce _ := false

def disk : ResourceId := ⟨"g", "d", diskText⟩

theorem accepted : settings.IsAccepted where
  positive := by decide +kernel
  ceiling := by decide +kernel
  level := by decide +kernel

theorem readDuration_of_eq {env : Settings.Environment} {name text : String} {x : Float}
    (hset : env name = some text) (hread : Decimal.read? text = some x) (standard : Int) :
    Settings.readDuration env name standard = .ok (.fractional x) := by
  rw [Settings.readDuration, hset]
  dsimp only
  rw [hread]

theorem read_eq_ok : Settings.ofEnvironment environment = .ok settings := by
  have hnan : Decimal.read? "nan" = some (0.0 / 0.0) := by decide +kernel
  have hinf : Decimal.read? "inf" = some (1.0 / 0.0) := by decide +kernel
  have hdeletion : environment "TIMEOUT_RESOURCE_DELETED" = some "nan" := rfl
  have hdisk : environment "TIMEOUT_DISK_DELETED" = some "inf" := rfl
  rw [Settings.ofEnvironment, readDuration_of_eq hdeletion hnan, readDuration_of_eq hdisk hinf]
  change settings.checked = .ok settings
  exact Settings.checked_eq_ok_iff.mpr ⟨accepted, rfl⟩

theorem teardownOf_eq_ok : Assembly.teardownOf settings = .ok (Assembly.wired settings) := by
  rw [Assembly.teardownOf_of_isAccepted accepted, if_neg (by decide)]

theorem isBrief : provider.IsBrief := by
  intro request world
  change 0 ≤ (0 : Float) ∧ value (0 : Float) < 2 ^ (970 : ℤ)
  decide +kernel

theorem neverDone (handle : Handle) : provider.NeverDone handle := fun _ => rfl

theorem alwaysLists : provider.AlwaysLists disk :=
  fun _ => ⟨[⟨⟨some diskText, none⟩, ""⟩], rfl, by decide +kernel⟩

theorem alwaysFinds : provider.AlwaysFinds disk := fun _ => ⟨_, rfl⟩

theorem deletion_outOfReach :
    OutOfReach 0 settings.deletionTimeout.toFloat settings.deletionPeriod.toFloat :=
  .unknown (by decide +kernel)

theorem departure_ends_others_do_not :
    ∃ isGone : ResourceId → Action Seconds Unit Bool,
      (Assembly.wired settings).diskCheckOf = .ok isGone ∧
      (provider.AlwaysLists disk ∧ ∀ id, ComesToAnEnd 0
        ((Assembly.wired settings).hasLeft id : Action Seconds Unit Bool)) ∧
      NeverEnds provider 0 ((Assembly.wired settings).isConfirmed (some ⟨0⟩)) ∧
      NeverEnds provider 0 (isGone disk) := by
  have hcheck := Assembly.diskCheckOf_wired (W := Unit) accepted
  have hsettings : settings.InDoubles ∧ settings.checked = .ok settings ∨
      Settings.ofEnvironment environment = .ok settings := .inr read_eq_ok
  have hstart : (0 : Float) ≤ 0 := by decide +kernel
  obtain ⟨⟨-, hdeletion⟩, ⟨hdeparture, -⟩, ⟨-, hgone⟩⟩ :=
    accepted_trackers_end hsettings teardownOf_eq_ok hcheck hstart
  have hnear : InReach 0 settings.departureTimeout.toFloat settings.departurePeriod.toFloat :=
    ⟨by decide +kernel, by decide +kernel, by decide +kernel⟩
  have hfar : OutOfReach 0 settings.diskTimeout.toFloat settings.diskPeriod.toFloat :=
    .infinite (by decide +kernel) (by decide +kernel) (by decide +kernel) (by decide +kernel)
  exact ⟨_, hcheck, ⟨alwaysLists, hdeparture hnear⟩,
    hdeletion deletion_outOfReach provider ⟨0⟩ isBrief (neverDone _),
    hgone hfar provider disk isBrief alwaysFinds⟩

theorem accepted_and_endless :
    Settings.ofEnvironment environment = .ok settings ∧
      Assembly.teardownOf settings = .ok (Assembly.wired settings) ∧
      NeverEnds provider 0 ((Assembly.wired settings).isConfirmed (some ⟨0⟩)) :=
  ⟨read_eq_ok, teardownOf_eq_ok,
    isConfirmed_neverEnds deletion_outOfReach (by decide +kernel) (by decide +kernel)
      (by decide +kernel) isBrief (neverDone _)⟩

end Unbounded

end Reclaim
