import Reclaim.Settings.Basic
import Reclaim.Time.Seconds
import Reclaim.Decimal.Reader

/-!
# Settings from the environment

A variable that is not set leaves the standard value. Durations are read as floating point numbers,
and all of them before any is checked.
-/

namespace Reclaim.Settings

abbrev Environment := String → Option String

def readDuration (env : Environment) (name : String) (standard : Int) :
    Except Fault Seconds :=
  match env name with
  | none => .ok (.fractional (Float.ofInt standard))
  | some text =>
    match Decimal.read? text with
    | some x => .ok (.fractional x)
    | none => .error (.notNumeric text)

def ofEnvironment (env : Environment) : Except Fault (Settings Seconds) := do
  let deletionTimeout ← readDuration env "TIMEOUT_RESOURCE_DELETED" 600
  let deletionPeriod ← readDuration env "RESOURCE_DELETED_POLL_PERIOD" 5
  let departureTimeout ← readDuration env "TIMEOUT_NOT_IN_RESOURCE_GROUP" 300
  let departurePeriod ← readDuration env "NOT_IN_RESOURCE_GROUP_POLL_PERIOD" 5
  let diskTimeout ← readDuration env "TIMEOUT_DISK_DELETED" 1200
  let diskPeriod ← readDuration env "DISK_DELETED_POLL_PERIOD" 1
  let diskCeiling ← readDuration env "DISK_DELETED_MAX_POLL_PERIOD" 15
  checked {
    subscription := env "AZURE_SUBSCRIPTION_ID"
    deletionTimeout
    deletionPeriod
    departureTimeout
    departurePeriod
    diskTimeout
    diskPeriod
    diskCeiling
    ownershipTag := (env "OWNERSHIP_TAG_KEY").getD "jclouds"
    generatedTag := (env "AUTOGENERATED_IP_KEY").getD "autogenerated"
    groupPrefix := (env "GROUP_NAME_PREFIX").getD "jclouds"
    logLevel := (env "LOG_LEVEL").getD "INFO" }

end Reclaim.Settings
