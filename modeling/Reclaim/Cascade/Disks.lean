import Reclaim.Teardown

/-!
# Managed disks of a machine

All deletes are requested before any of them is followed. Whether a disk is gone is told in three
ways: by the handle of its delete, by looking for the disk, and by the listing of its group. Only
the first one decides; the others give warnings.
-/

namespace Reclaim.Teardown

variable {τ W : Type} [Timescale τ]

open Reclaim.Action

/-- The disks of a machine, the one with the system first, each of them once. -/
def diskIds (machine : View.Machine) : Except Fault (List ResourceId) := do
  let texts := ((View.given machine.osDiskId).toList ++ machine.dataDiskIds).filter (· ≠ "")
  let ids ← texts.mapM fun text => ResourceId.read (.str text)
  return ids.eraseDups

def requestDisks : List ResourceId → Action τ W (List (ResourceId × Handle))
  | [] => return []
  | id :: rest => do
    log .debug "deleting_managed_disk" (aboutId id)
    let handle ← Access.delete .disk id.group id.name
    let others ← requestDisks rest
    return (handle.map (id, ·)).toList ++ others

def isDiskMissing (id : ResourceId) : Action τ W Bool :=
  return (← Access.get .disk id.group id.name).isNone

/-- The check that a disk is missing: once, or again and again. -/
def diskCheckOf (t : Teardown τ) : Except Fault (ResourceId → Action τ W Bool) :=
  match t.diskCheck with
  | none => .ok isDiskMissing
  | some escalation => do
    let escalation ← escalation.checked
    return fun id => escalation.await (isDiskMissing id)

/-- Deletes the disks. True if every delete that was accepted with a handle was confirmed. -/
def removeDisks (t : Teardown τ) (machine : View.Machine) : Action τ W Bool := do
  let ids ← ofExcept (diskIds machine)
  let jobs ← requestDisks ids
  let unconfirmed ← failing (fun job => t.isConfirmed (some job.2)) jobs
  warnOf "disks_not_deleted" (unconfirmed.map (·.1))
  let isGone ← ofExcept t.diskCheckOf
  warnOf "disks_still_present" (← failing (fun id => checked id (isGone id)) ids)
  warnOf "disks_still_in_resource_group" (← failing t.hasLeft ids)
  return unconfirmed.isEmpty

end Reclaim.Teardown
