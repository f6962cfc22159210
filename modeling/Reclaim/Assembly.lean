import Reclaim.Log.Line
import Reclaim.Settings.Basic
import Reclaim.Teardown

/-!
# Assembly

A teardown is put together from settings. Without a log of the caller's own, a printer is set up
for the log level; without access of the caller's own, the subscription must be known.
-/

namespace Reclaim

structure Supplies where
  access : Bool
  logger : Bool

/-- What an assembly yields beside the teardown. -/
structure Assembly (τ : Type) where
  teardown : Teardown τ
  printer : Option Log.Printer
  events : List (Event τ)

namespace Assembly

variable {τ : Type} [Timescale τ]

/-- The remark on opening access to a subscription, which must be known. -/
def openAccess (subscription : Option String) : Except Fault (Event τ) :=
  match subscription.filter (· ≠ "") with
  | none => .error .missingSubscription
  | some id =>
    .ok (.noted .info ("Creating Azure management clients for subscription " ++ id))

def teardownOf (s : Settings τ) : Except Fault (Teardown τ) := do
  let deletion ← Patience.make s.deletionTimeout s.deletionPeriod
  let departure ← Patience.make s.departureTimeout s.departurePeriod
  let naming ← Naming.make s.groupPrefix "-"
  return {
    deletion
    departure
    diskCheck := some ⟨s.diskTimeout, s.diskPeriod, s.diskCeiling⟩
    naming
    ownershipTag := s.ownershipTag
    generatedTag := s.generatedTag }

def make (s : Settings τ) (supplies : Supplies) : Except Fault (Assembly τ) := do
  let printer ← if supplies.logger then pure none else some <$> Log.Printer.make s.logLevel .json
  let events ← if supplies.access then pure [] else (fun e => [e]) <$> openAccess s.subscription
  return { teardown := ← teardownOf s, printer, events }

end Assembly

end Reclaim
