import Reclaim.NodeId
import Reclaim.Cascade.Interfaces
import Reclaim.Cascade.Disks
import Reclaim.Cascade.AvailabilitySet
import Reclaim.Cascade.Networks

/-!
# Nodes

A node is torn down machine first. What the machine leaves behind is then removed in stages, from
what was read of the machine before its delete. Only the delete of the machine decides the result;
a stage that fails is reported, and the next one follows.
-/

namespace Reclaim

inductive Stage where
  | interfaces
  | disks
  | availabilitySet
  | networks
deriving DecidableEq

namespace Stage

def sequence : List Stage := [interfaces, disks, availabilitySet, networks]

def label : Stage → String
  | interfaces => "nics"
  | disks => "managed_disks"
  | availabilitySet => "availability_set"
  | networks => "virtual_networks"

end Stage

namespace Teardown

variable {τ W : Type} [Timescale τ]

open Reclaim.Action

/-- Deletes the machine. Whether it left the listing of its group is only remarked on. -/
def removeMachine (t : Teardown τ) (group : String) (machine : View.Machine) :
    Action τ W Bool := do
  let deleted ← t.isConfirmed (← Access.delete .virtualMachine group machine.name)
  if !(← t.hasLeft (← ofExcept machine.reference)) then
    log .warning "vm_still_listed" (about group machine.name)
  return deleted

def perform (t : Teardown τ) (group : String) (machine : View.Machine) :
    Stage → Action τ W Bool
  | .interfaces => t.removeInterfaces machine
  | .disks => t.removeDisks machine
  | .availabilitySet => t.removeAvailabilitySet machine
  | .networks => t.removeNetworks group

def tryStage (t : Teardown τ) (node : NodeId) (machine : View.Machine) (stage : Stage) :
    Action τ W Unit := do
  let fields := ("stage", .str stage.label) :: about node.group (some node.name)
  let complete ← rescue (t.perform node.group machine stage) fun fault => do
    logFault "cleanup_stage_error" fields fault
    return false
  if !complete then log .warning "cleanup_stage_incomplete" fields

/-- Deletes a node's machine and all that was created for it. True if the machine was deleted or
did not exist. -/
def removeNode (t : Teardown τ) (token : Value) : Action τ W Bool := do
  let node ← ofExcept (NodeId.read token)
  let fields := about node.group (some node.name)
  let some machine ← Access.get .virtualMachine node.group node.name
    | do
      log .debug "node_already_deleted" [("node_id", token)]
      return true
  log .info "destroying_node" fields
  let deleted ← t.removeMachine node.group machine
  Stage.sequence.forM (t.tryStage node machine)
  if deleted then log .info "node_destroyed" fields
  else log .warning "node_not_deleted" fields
  return deleted

end Teardown

end Reclaim
