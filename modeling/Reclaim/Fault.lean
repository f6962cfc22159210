import Reclaim.Value.Display

/-!
# Faults

What can go wrong, by cause, and the text that reports it. Malformed input and unusable settings
are found before anything is asked of the provider; the provider's own errors come as they are, or
as reports that name the request they answer.
-/

namespace Reclaim

inductive ResponseClass where
  | general
  | notFound
  | conflict
  | unauthorized
deriving DecidableEq

structure ErrorResponse where
  category : ResponseClass
  message : String
  code : Option String

/-- An error response without a message still has a text. -/
def ErrorResponse.text (e : ErrorResponse) : String :=
  if e.message.isEmpty then "Operation returned an invalid status 'None'" else e.message

/-- A failed request: what was asked, of which resource, and the provider's code for the failure. -/
structure Report where
  message : String
  code : Option String
  group : Option String
  name : Option String

inductive Fault where
  -- Identifiers and names
  | idNotText (given : Value)
  | malformedId (given : String)
  | nodeIdNotText (given : Value)
  | malformedNodeId (given : String)
  | emptyPrefix
  | invalidGroupName (given : Option String)
  -- Settings
  | notNumeric (given : String)
  | durationNotPositive (setting : String) (given : Value)
  | diskCeilingBelowPeriod
  | invalidLogLevel (given : String)
  | missingSubscription
  | unknownLogLevel (given : String)
  -- Trackers
  | patienceNotPositive
  | ceilingBelowPeriod
  /-- A clock cannot count a duration that is so long. -/
  | durationTooLong
  -- The log
  | reservedField (name : String)
  | fieldNotText (name : String)
  -- The provider
  | response (e : ErrorResponse)
  | failed (report : Report)
  | inUse (report : Report)
  | unreachable (message : String)
  /-- A missing object stands where one with this field is needed. -/
  | missingObject (field : String)
  -- Faults of a caller's own
  | runtime (message : String)
  | unusable (message : String)

namespace Fault

def message : Fault → String
  | idNotText v => "Resource id must be a string: " ++ v.shown
  | malformedId s => "Malformed resource id: " ++ Text.quoted s
  | nodeIdNotText v => "Node id must be a string: " ++ v.shown
  | malformedNodeId s =>
    "Malformed node id " ++ Text.quoted s ++ ": expected <resource-group>/<name>"
  | emptyPrefix => "Naming prefix must not be empty"
  | invalidGroupName group =>
    "Invalid group name " ++ (Value.ofText? group).shown ++
      ": use lowercase letters, digits and '-'"
  | notNumeric s => "could not convert string to float: " ++ Text.quoted s
  | durationNotPositive setting d => setting ++ " must be positive, got " ++ d.text
  | diskCeilingBelowPeriod =>
    "DISK_DELETED_MAX_POLL_PERIOD must not be smaller than DISK_DELETED_POLL_PERIOD"
  | invalidLogLevel level =>
    "Invalid LOG_LEVEL: " ++ level ++
      ". Must be one of ('DEBUG', 'INFO', 'WARNING', 'ERROR', 'CRITICAL')."
  | missingSubscription => "Missing required Azure configuration: AZURE_SUBSCRIPTION_ID"
  | unknownLogLevel level => Text.quoted ("Level " ++ level)
  | patienceNotPositive => "timeout and period must be positive"
  | ceilingBelowPeriod => "max_period must not be smaller than period"
  | durationTooLong => "int too large to convert to float"
  | reservedField name => "a field must not be named " ++ Text.quoted name
  | fieldNotText name => "a text is needed in the field " ++ Text.quoted name
  | response e => e.text
  | failed report => report.message
  | inUse report => report.message
  | unreachable text => text
  | missingObject field => "'NoneType' object has no attribute " ++ Text.quoted field
  | runtime text => text
  | unusable text => text

end Fault

end Reclaim
