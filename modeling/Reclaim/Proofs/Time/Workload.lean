import Reclaim.Cascade.Node
import Mathlib.Algebra.GroupWithZero.Nat

/-!
# The work that a teardown meets

How much a teardown has to wait for, as its trace shows it.
-/

namespace Reclaim

variable {τ : Type}

def Event.machine? : Event τ → Option View.Machine
  | .asked (.get .virtualMachine _ _) (.ok object) => (View.machine object).toOption
  | _ => none

/-- The public IPs of a fetched interface. -/
def Event.publicIps : Event τ → Nat
  | .asked (.get .networkInterface _ _) (.ok object) =>
    (View.interface object).toOption.elim 0 (·.publicIpIds.length)
  | _ => 0

/-- The networks with our tag in a listing. -/
def Event.ownedNetworks (tag : String) : Event τ → Nat
  | .asked (.list .virtualNetwork _) listing =>
    (Access.readListing (View.need "id") listing).toOption.elim 0 fun networks =>
      (networks.filter (Ownership.isOwnedNetwork tag)).length
  | _ => 0

namespace Event

theorem machine?_eq {group name : String} {object : Option Model.Machine} {machine : View.Machine}
    (h : View.machine object = .ok machine) :
    (.asked (.get .virtualMachine group name) (.ok object) : Event τ).machine? = some machine := by
  rw [machine?, h]
  rfl

theorem publicIps_eq {group name : String} {object : Option Model.Interface}
    {interface : View.Interface} (h : View.interface object = .ok interface) :
    (.asked (.get .networkInterface group name) (.ok object) : Event τ).publicIps =
      interface.publicIpIds.length := by
  rw [publicIps, h]
  rfl

theorem ownedNetworks_eq {tag group : String} {listing : Listing Model.Tagged}
    {networks : List Model.Tagged}
    (h : Access.readListing (View.need "id") listing = .ok networks) :
    (.asked (.list .virtualNetwork group) listing : Event τ).ownedNetworks tag =
      (networks.filter (Ownership.isOwnedNetwork tag)).length := by
  rw [ownedNetworks, h]
  rfl

end Event

/-- How much there is to delete beside the machine. -/
structure Workload where
  interfaces : Nat
  publicIps : Nat
  disks : Nat
  availabilitySets : Nat
  networks : Nat

namespace Workload

def interfacesOf (machine : View.Machine) : Nat := machine.interfaceIds.length

/-- The disks of a machine, if all of their ids can be read. Otherwise none is waited for. -/
def disksOf (machine : View.Machine) : Nat :=
  (Teardown.diskIds machine).toOption.elim 0 List.length

def availabilitySetsOf (machine : View.Machine) : Nat :=
  if (View.given machine.availabilitySetId).isSome then 1 else 0

/-- The machine's share is what its first read shows. The public IPs count once for each interface
that was fetched, and the networks once for each listing. -/
def of (tag : String) (events : List (Event τ)) : Workload where
  interfaces := (events.findSome? Event.machine?).elim 0 interfacesOf
  publicIps := (events.map Event.publicIps).sum
  disks := (events.findSome? Event.machine?).elim 0 disksOf
  availabilitySets := (events.findSome? Event.machine?).elim 0 availabilitySetsOf
  networks := (events.map (Event.ownedNetworks tag)).sum

end Workload

end Reclaim
