import Reclaim.Fault
import Reclaim.Text.Uppercase
import Reclaim.Time.Scale

/-!
# Settings

What a caller may set. Every duration must be positive, the interval between two looks for a disk
must not shrink, and the log level must be one of five.
-/

namespace Reclaim

structure Settings (τ : Type) where
  subscription : Option String
  deletionTimeout : τ
  deletionPeriod : τ
  departureTimeout : τ
  departurePeriod : τ
  diskTimeout : τ
  diskPeriod : τ
  diskCeiling : τ
  ownershipTag : String
  generatedTag : String
  groupPrefix : String
  logLevel : String

namespace Settings

variable {τ : Type} [Timescale τ]

open Timescale

def standard : Settings τ where
  subscription := none
  deletionTimeout := seconds 600
  deletionPeriod := seconds 5
  departureTimeout := seconds 300
  departurePeriod := seconds 5
  diskTimeout := seconds 1200
  diskPeriod := seconds 1
  diskCeiling := seconds 15
  ownershipTag := "jclouds"
  generatedTag := "autogenerated"
  groupPrefix := "jclouds"
  logLevel := "INFO"

/-- The durations in the order in which they are checked, by the names that messages give them. -/
def durations (s : Settings τ) : List (String × τ) :=
  [ ("resource_deleted_timeout", s.deletionTimeout),
    ("resource_deleted_period", s.deletionPeriod),
    ("not_in_group_timeout", s.departureTimeout),
    ("not_in_group_period", s.departurePeriod),
    ("disk_deleted_timeout", s.diskTimeout),
    ("disk_deleted_period", s.diskPeriod),
    ("disk_deleted_max_period", s.diskCeiling) ]

def logLevels : List String := ["DEBUG", "INFO", "WARNING", "ERROR", "CRITICAL"]

/-- The settings, with the log level in upper case, or the first fault found in them. -/
def checked (s : Settings τ) : Except Fault (Settings τ) := do
  if let some (name, d) := s.durations.find? fun (_, d) => !isPositive d then
    throw (.durationNotPositive name (shown d))
  if below s.diskCeiling s.diskPeriod then throw .diskCeilingBelowPeriod
  let logLevel := Text.upper s.logLevel
  if !logLevels.contains logLevel then throw (.invalidLogLevel logLevel)
  return { s with logLevel }

end Settings

end Reclaim
