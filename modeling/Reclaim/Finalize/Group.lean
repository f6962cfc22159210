import Reclaim.Teardown
import Reclaim.Ownership

/-!
# Groups of nodes

Once the last node of a group is gone, the group's shared security group is deleted if no interface
uses it, and then the resource group if nothing is left in it.
-/

namespace Reclaim.Teardown

variable {τ W : Type} [Timescale τ]

open Reclaim.Action

/-- Deletes the security group that the nodes of a group share, once no interface uses it. -/
def removeSecurityGroup (t : Teardown τ) (resourceGroup : String) (group : Option String) :
    Action τ W Bool := do
  let name ← ofExcept (t.naming.sharedName group)
  let fields := about resourceGroup (some name)
  let some securityGroup ← Access.get .securityGroup resourceGroup name | return true
  if !Ownership.isOrphanedSecurityGroup securityGroup then
    let interfaces := (securityGroup.interfaceIds.getD []).map Value.str
    log .debug "security_group_in_use" (fields ++ [("nics", .list interfaces)])
    return true
  log .debug "deleting_orphaned_security_group" fields
  let deleted ← t.isConfirmed (← Access.delete .securityGroup resourceGroup name)
  if deleted then
    if !(← t.hasLeft (← ofExcept securityGroup.reference)) then
      log .warning "security_group_still_listed" fields
  return deleted

def trySecurityGroup (t : Teardown τ) (resourceGroup : String) (group : Option String) :
    Action τ W Bool :=
  rescue (t.removeSecurityGroup resourceGroup group) fun fault => do
    logFault "security_group_cleanup_error"
      [("resource_group", .str resourceGroup), ("group", .ofText? group)] fault
    return false

def removeResourceGroup (t : Teardown τ) (resourceGroup : String) : Action τ W Bool := do
  let fields : Log.Fields := [("resource_group", .str resourceGroup)]
  match ← Access.members resourceGroup with
  | none =>
    log .debug "resource_group_already_deleted" fields
    return true
  | some [] =>
    log .debug "deleting_empty_resource_group" fields
    t.isConfirmed (← Access.deleteGroup resourceGroup)
  | some members =>
    let ids := members.map fun member => Value.ofText? member.id
    log .warning "resource_group_not_empty" (fields ++ [("resources", .list ids)])
    return false

def removeGroup (t : Teardown τ) (resourceGroup : String) (group : Option String) :
    Action τ W Bool := do
  let securityGroupDeleted ← t.trySecurityGroup resourceGroup group
  let resourceGroupDeleted ← t.removeResourceGroup resourceGroup
  return securityGroupDeleted && resourceGroupDeleted

end Reclaim.Teardown
