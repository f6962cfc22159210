import Reclaim.Cloud.Kind
import Reclaim.Value.Basic

/-!
# What the provider answers

The objects of the provider, as far as they are read. Any id and any name may be missing, and a
list may hold missing elements.
-/

namespace Reclaim

/-- The tags of a resource. A resource without tags has none. -/
abbrev Tags := List (String × Value)

structure Named where
  id : Option String
  name : Option String

structure Link where
  id : Option String

namespace Model

structure DataDisk where
  disk : Option Link

structure Machine extends Named where
  interfaces : List (Option Link)
  osDisk : Option Link
  dataDisks : List (Option DataDisk)
  availabilitySet : Option Link

structure IpConfiguration where
  address : Option Link

structure Interface extends Named where
  ipConfigurations : List (Option IpConfiguration)

/-- A public IP or a virtual network. -/
structure Tagged extends Named where
  tags : Tags

structure AvailabilitySet extends Tagged where
  machines : Option (List (Option Link))

structure SecurityGroup extends Named where
  interfaces : Option (List (Option Link))

/-- A member of a resource group, as the group's listing shows it. -/
structure Member extends Named where
  type : Option String

end Model

abbrev Kind.Model : Kind → Type
  | virtualMachine => Reclaim.Model.Machine
  | networkInterface => Reclaim.Model.Interface
  | publicIp => Reclaim.Model.Tagged
  | disk => Named
  | availabilitySet => Reclaim.Model.AvailabilitySet
  | securityGroup => Reclaim.Model.SecurityGroup
  | virtualNetwork => Reclaim.Model.Tagged

end Reclaim
