import Reclaim.Session

/-!
# Retrying at growing intervals

A condition is tried again and again until it holds or the time is up. The interval between two
tries starts with the period and grows by half each time, up to a ceiling; the last one is cut to
the time that remains.
-/

namespace Reclaim

structure Escalation (τ : Type) where
  timeout : τ
  period : τ
  ceiling : τ

namespace Escalation

variable {τ W : Type} [Timescale τ]

open Reclaim.Action Timescale

def checked (e : Escalation τ) : Except Fault (Escalation τ) :=
  if !(isPositive e.timeout && isPositive e.period) then .error .patienceNotPositive
  else if below e.ceiling e.period then .error .ceilingBelowPeriod
  else .ok e

def retry (deadline ceiling interval : τ) (condition : Action τ W Bool) : Nat → Action τ W Bool
  | 0 => stop .unfinished
  | limit + 1 => do
    record .polled
    if ← condition then return true
    let remaining := minus deadline (← now)
    if !isPositive remaining then return false
    sleep (shorter interval remaining)
    let longer := lengthened (← counted interval)
    retry deadline ceiling (shorter longer ceiling) condition limit

def await (e : Escalation τ) (condition : Action τ W Bool) : Action τ W Bool := do
  let deadline := plus (← now) (← counted e.timeout)
  retry deadline e.ceiling e.period condition (← setting).pollLimit

end Escalation

end Reclaim
