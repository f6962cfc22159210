import Reclaim.Cloud.Access
import Reclaim.Naming
import Reclaim.Tracker.Deletion
import Reclaim.Tracker.Departure
import Reclaim.Tracker.Escalation

/-!
# Teardowns

What a teardown needs to know: how long to wait for what, how shared resources are named, and
which tags mark what may be deleted.
-/

namespace Reclaim

structure Teardown (τ : Type) where
  deletion : Patience τ
  departure : Patience τ
  /-- Without it a disk is looked for once. -/
  diskCheck : Option (Escalation τ)
  naming : Naming
  ownershipTag : String
  generatedTag : String

namespace Teardown

variable {τ W α : Type}

open Reclaim.Action

/-! ## Doing a thing to each -/

/-- Performs the action on each in order, also after it failed on one. -/
def all (act : α → Action τ W Bool) : List α → Action τ W Bool
  | [] => return true
  | a :: rest => do
    let done ← act a
    let others ← all act rest
    return done && others

/-- Performs the action on each in order, and gives those on which it failed. -/
def failing (act : α → Action τ W Bool) : List α → Action τ W (List α)
  | [] => return []
  | a :: rest => do
    let done ← act a
    let others ← failing act rest
    return if done then others else a :: others

/-! ## Log entries -/

def about (group : String) (name : Option String) : Log.Fields :=
  [("resource_group", .str group), ("name", .ofText? name)]

def aboutId (id : ResourceId) : Log.Fields := about id.group (some id.name)

def warnOf (event : String) (ids : List ResourceId) : Action τ W Unit :=
  if ids.isEmpty then pure ()
  else log .warning event [("disks", .list (ids.map fun id => .str id.label))]

/-! ## Checks -/

/-- A check that fails with a fault counts as not passed. -/
def checked (id : ResourceId) (check : Action τ W Bool) : Action τ W Bool :=
  rescue check fun fault => do
    log .error "resource_check_error" (aboutId id ++ [("error", .str fault.message)])
    return false

variable [Timescale τ]

def isConfirmed (t : Teardown τ) (handle : Option Handle) : Action τ W Bool :=
  Deletion.isConfirmed t.deletion handle

/-- Whether the resource left its group, as far as can be found out. -/
def hasLeft (t : Teardown τ) (id : ResourceId) : Action τ W Bool :=
  checked id (Departure.hasLeft t.departure Access.members id)

end Teardown

end Reclaim
