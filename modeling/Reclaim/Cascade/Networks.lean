import Reclaim.Teardown
import Reclaim.Ownership

/-!
# Virtual networks of a group

Every network with our tag is deleted. One that is in use is left, with a warning.
-/

namespace Reclaim.Teardown

variable {τ W : Type} [Timescale τ]

open Reclaim.Action

def removeNetwork (t : Teardown τ) (group : String) (network : Model.Tagged) :
    Action τ W Bool := do
  log .debug "deleting_virtual_network" (about group network.name)
  let deleted ← t.isConfirmed (← Access.delete .virtualNetwork group network.name)
  if !(← t.hasLeft (← ofExcept network.reference)) then
    log .warning "virtual_network_still_listed" (about group network.name)
  if !deleted then log .warning "virtual_network_not_deleted" (about group network.name)
  return deleted

/-- A refusal because the network is in use is reported and stops nothing else. -/
def tryNetwork (t : Teardown τ) (group : String) (network : Model.Tagged) : Action τ W Bool :=
  rescue (t.removeNetwork group network) fun fault =>
    match fault with
    | .inUse report => do
      log .warning "virtual_network_in_use"
        (about group network.name ++ [("code", .ofText? report.code)])
      return false
    | fault => raise fault

def removeNetworks (t : Teardown τ) (group : String) : Action τ W Bool := do
  let networks ← Access.list .virtualNetwork group
  all (t.tryNetwork group) (networks.filter (Ownership.isOwnedNetwork t.ownershipTag))

end Reclaim.Teardown
