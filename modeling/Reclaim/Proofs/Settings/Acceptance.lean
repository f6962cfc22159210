import Reclaim.Assembly
import Reclaim.Cascade.Disks
import Reclaim.Time.Seconds

/-!
# What accepted settings are good for

The settings are checked once, and their durations, the prefix and the log level again by those who
use them. Whatever the settings let through, the trackers, the check for disks and the printer of
the log let through as well. Only the prefix is looked at by the naming alone.
-/

namespace Reclaim

open Timescale Settings

variable {τ : Type} [Timescale τ]

/-! ## Acceptance -/

namespace Settings

variable {given s : Settings τ}

theorem checked_eq (given : Settings τ) :
    given.checked = match given.durations.find? fun d => !isPositive d.2 with
      | some d => .error (.durationNotPositive d.1 (shown d.2))
      | none =>
        if below given.diskCeiling given.diskPeriod then .error .diskCeilingBelowPeriod
        else if Text.upper given.logLevel ∈ logLevels then
          .ok { given with logLevel := Text.upper given.logLevel }
        else .error (.invalidLogLevel (Text.upper given.logLevel)) := by
  unfold checked
  cases given.durations.find? fun d => !isPositive d.2 with
  | some d => rfl
  | none =>
    cases below given.diskCeiling given.diskPeriod with
    | true => rfl
    | false =>
      by_cases hlevel : Text.upper given.logLevel ∈ logLevels
      · simp [hlevel]
        rfl
      · simp [hlevel]
        rfl

/-- What the checks ask of settings. -/
structure IsAccepted (s : Settings τ) : Prop where
  positive : ∀ d ∈ s.durations, isPositive d.2 = true
  ceiling : below s.diskCeiling s.diskPeriod = false
  level : s.logLevel ∈ logLevels

theorem checked_eq_ok_iff :
    given.checked = .ok s ↔
      s.IsAccepted ∧ s = { given with logLevel := Text.upper given.logLevel } := by
  rw [checked_eq]
  cases hfind : given.durations.find? fun d => !isPositive d.2 with
  | some d =>
    obtain ⟨hmem, hd⟩ := And.intro (List.mem_of_find?_eq_some hfind) (List.find?_some hfind)
    refine iff_of_false nofun ?_
    rintro ⟨haccepted, rfl⟩
    simp [haccepted.positive d hmem] at hd
  | none =>
    have hpositive : ∀ d ∈ given.durations, isPositive d.2 = true := by
      simpa using List.find?_eq_none.mp hfind
    dsimp only
    split
    next hceiling =>
      refine iff_of_false nofun ?_
      rintro ⟨haccepted, rfl⟩
      simp [haccepted.ceiling] at hceiling
    next hceiling =>
      split
      next hlevel =>
        rw [Except.ok.injEq, eq_comm, iff_and_self]
        rintro rfl
        exact ⟨hpositive, by simpa using hceiling, hlevel⟩
      next hlevel =>
        refine iff_of_false nofun ?_
        rintro ⟨haccepted, rfl⟩
        exact hlevel haccepted.level

end Settings

/-! ## The users of settings -/

theorem Patience.make_of_isPositive {timeout period : τ} (htimeout : isPositive timeout = true)
    (hperiod : isPositive period = true) : make timeout period = .ok ⟨timeout, period⟩ := by
  rw [make, htimeout, hperiod]
  rfl

theorem Escalation.checked_of_isPositive {e : Escalation τ} (htimeout : isPositive e.timeout = true)
    (hperiod : isPositive e.period = true) (hceiling : below e.ceiling e.period = false) :
    e.checked = .ok e := by
  rw [checked, htimeout, hperiod, hceiling]
  rfl

namespace Settings.IsAccepted

variable {s : Settings τ} (h : s.IsAccepted)

include h

theorem make_deletion : Patience.make s.deletionTimeout s.deletionPeriod =
    .ok ⟨s.deletionTimeout, s.deletionPeriod⟩ :=
  Patience.make_of_isPositive (h.positive ("resource_deleted_timeout", _) (by simp [durations]))
    (h.positive ("resource_deleted_period", _) (by simp [durations]))

theorem make_departure : Patience.make s.departureTimeout s.departurePeriod =
    .ok ⟨s.departureTimeout, s.departurePeriod⟩ :=
  Patience.make_of_isPositive (h.positive ("not_in_group_timeout", _) (by simp [durations]))
    (h.positive ("not_in_group_period", _) (by simp [durations]))

theorem checked_disk : Escalation.checked ⟨s.diskTimeout, s.diskPeriod, s.diskCeiling⟩ =
    .ok ⟨s.diskTimeout, s.diskPeriod, s.diskCeiling⟩ :=
  Escalation.checked_of_isPositive (h.positive ("disk_deleted_timeout", _) (by simp [durations]))
    (h.positive ("disk_deleted_period", _) (by simp [durations])) h.ceiling

end Settings.IsAccepted

theorem Log.Printer.make_of_level {level : String} (h : level ∈ Settings.logLevels)
    (style : Style) : ∃ threshold, make level style = .ok ⟨threshold, style⟩ := by
  have hknown : ∀ level ∈ Settings.logLevels, (threshold? (Text.upper level)).isSome := by
    decide +kernel
  obtain ⟨threshold, hthreshold⟩ := Option.isSome_iff_exists.mp (hknown level h)
  exact ⟨threshold, by rw [make, hthreshold]⟩

namespace Assembly

variable {given s : Settings τ}

/-- The teardown that settings describe. -/
def wired (s : Settings τ) : Teardown τ where
  deletion := ⟨s.deletionTimeout, s.deletionPeriod⟩
  departure := ⟨s.departureTimeout, s.departurePeriod⟩
  diskCheck := some ⟨s.diskTimeout, s.diskPeriod, s.diskCeiling⟩
  naming := ⟨s.groupPrefix, "-"⟩
  ownershipTag := s.ownershipTag
  generatedTag := s.generatedTag

theorem teardownOf_of_isAccepted (h : s.IsAccepted) :
    teardownOf s = if s.groupPrefix = "" then .error .emptyPrefix else .ok (wired s) := by
  rw [teardownOf, h.make_deletion, h.make_departure, Naming.make]
  by_cases hempty : s.groupPrefix = ""
  · simp [hempty]
    rfl
  · have hstem : s.groupPrefix.isEmpty = false := by simpa using hempty
    rw [if_neg hempty, hstem]
    rfl

theorem diskCheckOf_wired {W : Type} (h : s.IsAccepted) :
    ((wired s).diskCheckOf : Except Fault (ResourceId → Action τ W Bool)) =
      .ok fun id => Escalation.await ⟨s.diskTimeout, s.diskPeriod, s.diskCeiling⟩
        (Teardown.isDiskMissing id) := by
  change (do
    let escalation ← Escalation.checked ⟨s.diskTimeout, s.diskPeriod, s.diskCeiling⟩
    return fun id => escalation.await (Teardown.isDiskMissing id)) = _
  rw [h.checked_disk]
  rfl

/-- Everyone who uses accepted settings can: the printer of the log, the trackers, and the check
for disks once it is needed. An assembly with access of the caller's own is wired as the settings
say, unless the prefix is empty, which is then the one fault that there can be. -/
theorem accepted_settings_are_usable (h : given.checked = .ok s) (logger : Bool) :
    ∃ printer, Log.Printer.make s.logLevel .json = .ok printer ∧
      Patience.make s.deletionTimeout s.deletionPeriod = .ok (wired s).deletion ∧
      Patience.make s.departureTimeout s.departurePeriod = .ok (wired s).departure ∧
      (∀ W, ∃ isGone : ResourceId → Action τ W Bool, (wired s).diskCheckOf = .ok isGone) ∧
      (s.groupPrefix ≠ "" → make s ⟨true, logger⟩ =
        .ok ⟨wired s, if logger then none else some printer, []⟩) ∧
      (s.groupPrefix = "" → make s ⟨true, logger⟩ = .error .emptyPrefix) := by
  obtain ⟨haccepted, -⟩ := checked_eq_ok_iff.mp h
  obtain ⟨threshold, hprinter⟩ := Log.Printer.make_of_level haccepted.level .json
  have hteardown := teardownOf_of_isAccepted haccepted
  have hmake : make s ⟨true, logger⟩ = (teardownOf s).map fun teardown =>
      ⟨teardown, if logger then none else some ⟨threshold, .json⟩, []⟩ := by
    rw [make, hprinter]
    cases logger <;> rfl
  refine ⟨_, hprinter, haccepted.make_deletion, haccepted.make_departure, ?_, ?_, ?_⟩
  · exact fun W => ⟨_, diskCheckOf_wired haccepted⟩
  · intro hnonempty
    rw [hmake, hteardown, if_neg hnonempty]
    rfl
  · intro hempty
    rw [hmake, hteardown, if_pos hempty]
    rfl

end Assembly

/-! Settings with a timeout that is no number, and the level in small letters. -/

namespace Timeless

def given : Settings Seconds :=
  { Settings.standard with deletionTimeout := .fractional (0.0 / 0.0), logLevel := "debug" }

def settings : Settings Seconds := { given with logLevel := "DEBUG" }

theorem accepted : given.checked = .ok settings := by
  rw [Settings.checked_eq_ok_iff]
  refine ⟨⟨?_, ?_, ?_⟩, ?_⟩
  · decide +kernel
  · decide +kernel
  · decide +kernel
  · rfl

theorem usable :
    given.checked = .ok settings ∧ settings.groupPrefix ≠ "" ∧
      ∃ printer, Assembly.make settings ⟨true, false⟩ =
        .ok ⟨Assembly.wired settings, some printer, []⟩ := by
  obtain ⟨printer, -, -, -, -, hmake, -⟩ := Assembly.accepted_settings_are_usable accepted false
  have hnonempty : settings.groupPrefix ≠ "" := by decide
  exact ⟨accepted, hnonempty, printer, hmake hnonempty⟩

end Timeless

/-! Settings without a prefix. -/

namespace Nameless

def settings : Settings Seconds := { Settings.standard with groupPrefix := "" }

theorem accepted_and_refused :
    settings.checked = .ok settings ∧
      Assembly.make settings ⟨true, true⟩ = .error .emptyPrefix := by
  constructor
  · rfl
  · rfl

end Nameless

end Reclaim
