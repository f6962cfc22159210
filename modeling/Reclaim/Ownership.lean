import Reclaim.Cloud.View
import Reclaim.Text.Lowercase
import Reclaim.Value.Display

/-!
# Ownership

Only what was created for a node, or for a group of nodes, may be deleted with it. Tags tell. What
carries no tag was supplied by the caller and stays.
-/

namespace Reclaim.Ownership

/-- The text `true`, in letters of either case and with blanks around it. -/
def isTrue (v : Value) : Bool := Text.lower (Text.strip v.text) == "true"

def hasTag (key : String) (tags : Tags) : Bool := tags.any (·.1 == key)

def isGenerated (key : String) (ip : Model.Tagged) : Bool := (ip.tags.lookup key).any isTrue

def isOrphanedSet (key : String) (set : View.AvailabilitySet) : Bool :=
  hasTag key set.tags && (set.machineIds.getD []).isEmpty

/-- A security group without interfaces. Its name, by which it was found, says whose it is. -/
def isOrphanedSecurityGroup (group : View.SecurityGroup) : Bool :=
  (group.interfaceIds.getD []).isEmpty

/-- A tagged virtual network. The provider itself refuses to delete one that is in use. -/
def isOwnedNetwork (key : String) (network : Model.Tagged) : Bool := hasTag key network.tags

end Reclaim.Ownership
