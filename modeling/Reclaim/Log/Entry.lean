import Reclaim.Fault

/-!
# Log entries

An entry is a named event with fields in order. The last channel reports a fault that is being
handled.
-/

namespace Reclaim.Log

inductive Channel where
  | debug
  | info
  | warning
  | error
  | critical
  | exception
deriving DecidableEq

def Channel.levelName : Channel → String
  | debug => "debug"
  | info => "info"
  | warning => "warning"
  | error => "error"
  | critical => "critical"
  | exception => "error"

def Channel.weight : Channel → Nat
  | debug => 10
  | info => 20
  | warning => 30
  | error => 40
  | critical => 50
  | exception => 40

abbrev Fields := List (String × Value)

structure Entry where
  channel : Channel
  event : String
  fields : Fields
  /-- The fault that is being handled. -/
  fault : Option Fault

def threshold? : String → Option Nat
  | "NOTSET" => some 0
  | "DEBUG" => some 10
  | "INFO" => some 20
  | "WARN" => some 30
  | "WARNING" => some 30
  | "ERROR" => some 40
  | "CRITICAL" => some 50
  | "FATAL" => some 50
  | _ => none

end Reclaim.Log
