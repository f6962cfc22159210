import Reclaim.Tracker.Patience
import Reclaim.Cloud.View
import Reclaim.Text.Lowercase

/-!
# Leaving a resource group

A resource has left its group when the group's listing no longer shows its id, in letters of
either case, or when the group itself is gone.
-/

namespace Reclaim.Departure

variable {τ W : Type} [Timescale τ]

open Reclaim.Action

/-- The ids agree apart from the case of letters. A member without an id has the empty one. -/
def isMember (id : ResourceId) (member : View.Member) : Bool :=
  Text.lower (member.id.getD "") == Text.lower id.text

def isAbsent (id : ResourceId) : Option (List View.Member) → Bool
  | none => true
  | some members => !members.any (isMember id)

/-- Whether the resource left its group in time. `listing` answers the members of a group. -/
def hasLeft (patience : Patience τ) (listing : String → Action τ W (Option (List View.Member)))
    (id : ResourceId) : Action τ W Bool := do
  if ← patience.await (do return isAbsent id (← listing id.group)) then return true
  log .warning "resource_still_in_resource_group"
    [("resource_group", .str id.group), ("name", .str id.name),
      ("timeout", Timescale.shown patience.timeout)]
  return false

end Reclaim.Departure
