import Reclaim.Cloud.Model
import Reclaim.ResourceId

/-!
# Views

A view holds what the teardown needs to know of a provider's object. Links become the ids they
carry, and links without an id are left out. A missing object where one is needed is a fault.
-/

namespace Reclaim

def Named.reference (n : Named) : Except Fault ResourceId := ResourceId.readText n.id

namespace View

structure Machine extends Named where
  group : String
  interfaceIds : List String
  osDiskId : Option String
  dataDiskIds : List String
  availabilitySetId : Option String

structure Interface extends Named where
  publicIpIds : List String

structure AvailabilitySet extends Model.Tagged where
  machineIds : Option (List String)

structure SecurityGroup extends Named where
  interfaceIds : Option (List String)

structure Member extends Named where
  type : String

/-! ## Reading objects -/

/-- The object, which must be there to have the field read. -/
def need (field : String) : Option α → Except Fault α
  | some a => .ok a
  | none => .error (.missingObject field)

/-- An id that says something. -/
def given (id : Option String) : Option String := id.filter (· ≠ "")

def linkId (link : Option Link) : Option String := link.bind (·.id)

def linkIds (links : List (Option Link)) : Except Fault (List String) := do
  return (← links.mapM (need "id")).filterMap fun link => given link.id

/-- The group in an id; empty if the id cannot be read. -/
def groupOf (id : Option String) : String :=
  ((id.bind ResourceId.parse?).map (·.group)).getD ""

def machine (m : Option Model.Machine) : Except Fault Machine := do
  let m ← need "network_profile" m
  let interfaceIds ← linkIds m.interfaces
  let dataDisks ← m.dataDisks.mapM (need "managed_disk")
  return {
    m.toNamed with
    group := groupOf m.id
    interfaceIds
    osDiskId := linkId m.osDisk
    dataDiskIds := dataDisks.filterMap fun d => given (linkId d.disk)
    availabilitySetId := linkId m.availabilitySet }

def interface (n : Option Model.Interface) : Except Fault Interface := do
  let n ← need "ip_configurations" n
  let configurations ← n.ipConfigurations.mapM (need "public_ip_address")
  return {
    n.toNamed with
    publicIpIds := configurations.filterMap fun c => given (linkId c.address) }

def availabilitySet (a : Option Model.AvailabilitySet) : Except Fault AvailabilitySet := do
  let a ← need "virtual_machines" a
  return { a.toTagged with machineIds := ← a.machines.mapM linkIds }

def securityGroup (s : Option Model.SecurityGroup) : Except Fault SecurityGroup := do
  let s ← need "network_interfaces" s
  return { s.toNamed with interfaceIds := ← s.interfaces.mapM linkIds }

def member (m : Option Model.Member) : Except Fault Member := do
  let m ← need "id" m
  return { m.toNamed with type := m.type.getD "" }

end View

abbrev Kind.View : Kind → Type
  | virtualMachine => Reclaim.View.Machine
  | networkInterface => Reclaim.View.Interface
  | publicIp => Model.Tagged
  | disk => Named
  | availabilitySet => Reclaim.View.AvailabilitySet
  | securityGroup => Reclaim.View.SecurityGroup
  | virtualNetwork => Model.Tagged

def Kind.view : (k : Kind) → Option k.Model → Except Fault k.View
  | virtualMachine => Reclaim.View.machine
  | networkInterface => Reclaim.View.interface
  | publicIp => Reclaim.View.need "id"
  | disk => Reclaim.View.need "id"
  | availabilitySet => Reclaim.View.availabilitySet
  | securityGroup => Reclaim.View.securityGroup
  | virtualNetwork => Reclaim.View.need "id"

end Reclaim
