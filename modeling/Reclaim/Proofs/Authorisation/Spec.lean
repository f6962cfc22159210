import Reclaim.Proofs.Limits
import Reclaim.Finalize.Group

/-!
# What authorises a delete

Nothing is deleted because of what a teardown remembers. Each delete has its warrant in what the
same operation was told before: mostly in the reply to the very last request.
-/

namespace Reclaim

variable {τ W : Type}

/-! ## Operations -/

inductive Operation where
  | node (token : Value)
  | interfaces (machine : View.Machine)
  | disks (machine : View.Machine)
  | availabilitySet (machine : View.Machine)
  | networks (group : String)
  | securityGroup (resourceGroup : String) (group : Option String)
  | resourceGroup (name : String)
  | group (resourceGroup : String) (group : Option String)

def Teardown.carryOut [Timescale τ] (t : Teardown τ) : Operation → Action τ W Bool
  | .node token => t.removeNode token
  | .interfaces machine => t.removeInterfaces machine
  | .disks machine => t.removeDisks machine
  | .availabilitySet machine => t.removeAvailabilitySet machine
  | .networks group => t.removeNetworks group
  | .securityGroup resourceGroup group => t.trySecurityGroup resourceGroup group
  | .resourceGroup name => t.removeResourceGroup name
  | .group resourceGroup group => t.removeGroup resourceGroup group

namespace Operation

/-- The machine that an operation is about: the one it was given, or the one that it read itself. -/
def Concerns (operation : Operation) (past : List (Event τ)) (machine : View.Machine) : Prop :=
  match operation with
  | .node token => ∃ node object,
      NodeId.read token = .ok node ∧
        .asked (.get .virtualMachine node.group node.name) (.ok (some object)) ∈ past ∧
          View.machine (some object) = .ok machine
  | .interfaces given | .disks given | .availabilitySet given => given = machine
  | _ => False

/-- The group whose networks an operation looks through. -/
def Scans (operation : Operation) (group : String) : Prop :=
  match operation with
  | .node token => ∃ name, NodeId.read token = .ok ⟨group, name⟩
  | .networks given => given = group
  | _ => False

/-- The shared security group that an operation is about. -/
def Shares (operation : Operation) (naming : Naming) (place : Place) : Prop :=
  match operation with
  | .securityGroup holder given | .group holder given =>
      holder = place.group ∧ naming.sharedName given = .ok place.name
  | _ => False

/-- The resource group that an operation may delete as a whole. -/
def Closes (operation : Operation) (name : String) : Prop :=
  match operation with
  | .resourceGroup given | .group given _ => given = name
  | _ => False

end Operation

/-! ## Warrants -/

/-- What must have happened before a resource of the kind may be deleted. A machine and a network
are deleted by the name that they show, which may be missing; all else by an id or a name that was
known before the provider was asked. -/
def Warrants (t : Teardown τ) (operation : Operation) (past : List (Event τ)) (group : String) :
    Kind → Option String → Prop
  | .virtualMachine, name =>
      ∃ token asked object, operation = .node token ∧ NodeId.read token = .ok ⟨group, asked⟩ ∧
        .asked (.get .virtualMachine group asked) (.ok (some object)) ∈ past ∧ object.name = name
  | .virtualNetwork, name =>
      ∃ listing object, operation.Scans group ∧
        .asked (.list .virtualNetwork group) listing ∈ past ∧ listing.failure = none ∧
          some object ∈ listing.items ∧ object.name = name ∧
            Ownership.hasTag t.ownershipTag object.tags = true
  | .networkInterface, some name =>
      ∃ machine object, operation.Concerns past machine ∧ machine.HasInterface ⟨group, name⟩ ∧
        JustShown past .networkInterface ⟨group, name⟩ object
  | .publicIp, some name =>
      ∃ nicGroup nicName nic ip value,
        .asked (.get .networkInterface nicGroup nicName) (.ok (some nic)) ∈ past ∧
          nic.HasIp ⟨group, name⟩ ∧ JustShown past .publicIp ⟨group, name⟩ ip ∧
            ip.tags.lookup t.generatedTag = some value ∧ Ownership.isTrue value = true
  | .disk, some name => ∃ machine, operation.Concerns past machine ∧ machine.HasDisk ⟨group, name⟩
  | .availabilitySet, some name =>
      ∃ machine object, operation.Concerns past machine ∧ machine.HasSet ⟨group, name⟩ ∧
        JustShown past .availabilitySet ⟨group, name⟩ object ∧
          Ownership.hasTag t.ownershipTag object.tags = true ∧ Model.SaysNothing object.machines
  | .securityGroup, some name =>
      ∃ object, operation.Shares t.naming ⟨group, name⟩ ∧
        JustShown past .securityGroup ⟨group, name⟩ object ∧ Model.SaysNothing object.interfaces
  | _, none => False

/-- A resource group goes only right after it showed no members. -/
def Warranted (t : Teardown τ) (operation : Operation) (past : List (Event τ)) : Removal → Prop
  | .resource kind group name => Warrants t operation past group kind name
  | .group name => operation.Closes name ∧ LastAsked past (.members name) ⟨[], none⟩

/-! ## Operations in a row -/

namespace Teardown

variable [Timescale τ]

/-- What each of the operations adds to the trace. An operation starts where the one before it
ended, whatever its outcome. -/
def episodes (t : Teardown τ) (setting : Setting τ W) :
    List Operation → Session τ W → List (Operation × List (Event τ))
  | [], _ => []
  | operation :: rest, session =>
    let after := Action.left ((t.carryOut operation).run setting session)
    (operation, after.trace.toList.drop session.trace.size) :: episodes t setting rest after

def afterAll (t : Teardown τ) (setting : Setting τ W) : List Operation → Session τ W → Session τ W
  | [], session => session
  | operation :: rest, session =>
    afterAll t setting rest (Action.left ((t.carryOut operation).run setting session))

end Teardown

end Reclaim
