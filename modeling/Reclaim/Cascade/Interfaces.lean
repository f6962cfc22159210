import Reclaim.Teardown
import Reclaim.Ownership

/-!
# Network interfaces of a machine

Each interface is deleted, and then those of its public IPs that were generated for it. The
interface alone knows its IPs, so they are read before it is deleted.
-/

namespace Reclaim.Teardown

variable {τ W : Type} [Timescale τ]

open Reclaim.Action

def removePublicIp (t : Teardown τ) (id : ResourceId) : Action τ W Bool := do
  let some ip ← Access.get .publicIp id.group id.name
    | do
      log .debug "public_ip_already_deleted" (aboutId id)
      return true
  if !Ownership.isGenerated t.generatedTag ip then
    log .debug "public_ip_not_autogenerated" (aboutId id ++ [("tag", .str t.generatedTag)])
    return true
  log .debug "deleting_public_ip" (aboutId id)
  let deleted ← t.isConfirmed (← Access.delete .publicIp id.group id.name)
  if !deleted then log .warning "public_ip_not_deleted" (aboutId id)
  return deleted

/-- A fault with a public IP is reported and stops nothing else. -/
def tryPublicIp (t : Teardown τ) (id : ResourceId) : Action τ W Bool :=
  rescue (t.removePublicIp id) fun fault => do
    log .warning "public_ip_delete_error" (aboutId id ++ [("error", .str fault.message)])
    return false

def removeInterface (t : Teardown τ) (interfaceId : String) : Action τ W Bool := do
  let id ← ofExcept (ResourceId.read (.str interfaceId))
  let some interface ← Access.get .networkInterface id.group id.name
    | do
      log .debug "nic_already_deleted" (aboutId id)
      return true
  let publicIps ← ofExcept (interface.publicIpIds.mapM fun ip => ResourceId.read (.str ip))
  log .debug "destroying_nic" (aboutId id)
  let deleted ← t.isConfirmed (← Access.delete .networkInterface id.group id.name)
  if !deleted then log .warning "nic_not_deleted" (aboutId id)
  let ipsDeleted ← all t.tryPublicIp publicIps
  return deleted && ipsDeleted

def removeInterfaces (t : Teardown τ) (machine : View.Machine) : Action τ W Bool :=
  all t.removeInterface machine.interfaceIds

end Reclaim.Teardown
