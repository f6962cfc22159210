import Reclaim.Tracker.Patience
import Reclaim.Text.Lowercase

/-!
# Following a delete

A delete is confirmed when its handle is done and does not report failure. Without a handle there
is nothing to wait for.
-/

namespace Reclaim.Deletion

variable {τ W : Type} [Timescale τ]

open Reclaim.Action

def failureWords : List String := ["failed", "canceled", "cancelled"]

def reportsFailure (status : String) : Bool := failureWords.contains (Text.lower status)

def isDone (handle : Handle) : Action τ W Bool := do ofExcept (← ask (.isDone handle))

def status (handle : Handle) : Action τ W String := do
  return (← ofExcept (← ask (.status handle))).getD ""

def isConfirmed (patience : Patience τ) : Option Handle → Action τ W Bool
  | none => return true
  | some handle => do
    if ← patience.await (isDone handle) then
      let status ← status handle
      if reportsFailure status then
        log .warning "delete_operation_failed" [("status", .str status)]
        return false
      return true
    else
      log .warning "delete_operation_timed_out" [("timeout", Timescale.shown patience.timeout)]
      return false

end Reclaim.Deletion
