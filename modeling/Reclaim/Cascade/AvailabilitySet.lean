import Reclaim.Teardown
import Reclaim.Ownership

/-!
# Availability set of a machine

The set is deleted once it is ours and empty.
-/

namespace Reclaim.Teardown

variable {τ W : Type} [Timescale τ]

open Reclaim.Action

def removeAvailabilitySet (t : Teardown τ) (machine : View.Machine) : Action τ W Bool := do
  let some setId := View.given machine.availabilitySetId | return true
  let id ← ofExcept (ResourceId.read (.str setId))
  let set ← Access.get .availabilitySet id.group id.name
  if !set.any (Ownership.isOrphanedSet t.ownershipTag) then
    log .debug "availability_set_kept" (aboutId id)
    return true
  log .debug "deleting_orphaned_availability_set" (aboutId id)
  let deleted ← t.isConfirmed (← Access.delete .availabilitySet id.group id.name)
  if !deleted then log .warning "availability_set_not_deleted" (aboutId id)
  return deleted

end Reclaim.Teardown
