import Reclaim.Session

/-!
# Waiting for a condition

A tracker evaluates a condition until it holds or the time is up. The condition is evaluated at
least once, and once more after the last sleep.
-/

namespace Reclaim

structure Patience (τ : Type) where
  timeout : τ
  period : τ

namespace Patience

variable {τ W : Type} [Timescale τ]

open Reclaim.Action Timescale

def make (timeout period : τ) : Except Fault (Patience τ) :=
  if isPositive timeout && isPositive period then .ok ⟨timeout, period⟩
  else .error .patienceNotPositive

def poll (deadline period : τ) (condition : Action τ W Bool) : Nat → Action τ W Bool
  | 0 => stop .unfinished
  | limit + 1 => do
    record .polled
    if ← condition then return true
    if atMost deadline (← now) then return false
    sleep period
    poll deadline period condition limit

def await (p : Patience τ) (condition : Action τ W Bool) : Action τ W Bool := do
  let deadline := plus (← now) (← counted p.timeout)
  poll deadline p.period condition (← setting).pollLimit

end Patience

end Reclaim
