import Reclaim.Proofs.Effect.Node
import Reclaim.Proofs.Effect.Stock

/-!
# The exact effect on a quiet cloud

While nobody else changes the cloud, the teardown of a node removes all that belongs to the node and
nothing else.
-/

namespace Reclaim

open Reclaim.Action

/-- What belongs to a node. A public IP belongs to it through an interface that is there. -/
inductive Belongs (t : Teardown Rat) (c : Cloud) (node : NodeId) (machine : Model.Machine) :
    Spot → Prop
  | machine : Belongs t c node machine (.virtualMachine, node.place)
  | interface {place : Place} (hlisted : machine.HasInterface place) :
      Belongs t c node machine (.networkInterface, place)
  | publicIp {place at' : Place} {nic : Model.Interface} (hlisted : machine.HasInterface at')
      (hnic : c.objects .networkInterface at' = some nic) (hip : nic.HasIp place)
      (hgenerated : c.HasGenerated t.generatedTag place) :
      Belongs t c node machine (.publicIp, place)
  | disk {place : Place} (hdisk : machine.HasDisk place) : Belongs t c node machine (.disk, place)
  | availabilitySet {place : Place} {set : Model.AvailabilitySet} (hplace : machine.HasSet place)
      (hset : c.objects .availabilitySet place = some set)
      (howned : Ownership.hasTag t.ownershipTag set.tags = true)
      (hlast : ∀ other, c.Refers other place → other = node.place) :
      Belongs t c node machine (.availabilitySet, place)
  | network {place : Place} {network : Model.Tagged} (hgroup : place.group = node.group)
      (hnetwork : c.objects .virtualNetwork place = some network)
      (howned : Ownership.hasTag t.ownershipTag network.tags = true) (hfree : place ∉ c.inUse) :
      Belongs t c node machine (.virtualNetwork, place)

section

variable {t : Teardown Rat} {c : Cloud} {node : NodeId} {machine : Model.Machine}
variable {view : View.Machine} {events : List (Event Rat)}

theorem lists_nothing_iff {place : Place} {links : Option (List (Option Link))}
    (h : (c.without {(.virtualMachine, node.place)}).ListsMachines place links) :
    Model.SaysNothing links ↔ ∀ other, c.Refers other place → other = node.place := by
  rw [h.saysNothing_iff]
  refine forall_congr' fun other => ?_
  rw [Cloud.refers_without]
  simp

theorem due_iff_belongs (hview : View.machine (some machine) = .ok view)
    (hinterfaces : ReadsInterfaces (c.without {(.virtualMachine, node.place)})
      {place | view.HasInterface place} events)
    (hset : ReadsSet (c.without {(.virtualMachine, node.place)}) view events) {spot : Spot} :
    Due t c node machine events spot ↔ Belongs t c node machine spot := by
  have hstays : ∀ kind place, kind ≠ .virtualMachine →
      (c.without {(.virtualMachine, node.place)}).objects kind place = c.objects kind place := by
    intro kind place hkind
    apply Cloud.without_of_notMem
    rintro ⟨⟩
    exact hkind rfl
  constructor
  · intro hdue
    cases hdue with
    | machine => exact .machine
    | interface hlisted => exact .interface hlisted
    | publicIp hfetched hip hgenerated =>
      obtain ⟨hlisted, hnic⟩ := (hinterfaces _ _).mp hfetched
      rw [hstays .networkInterface _ (by decide)] at hnic
      exact .publicIp ((View.machine_hasInterface hview).mp hlisted) hnic hip hgenerated
    | disk hdisk => exact .disk hdisk
    | availabilitySet hplace hfetched howned hempty =>
      obtain ⟨-, stored, hstored, hshown, hlists⟩ := hset.shown hfetched
      rw [hstays .availabilitySet _ (by decide)] at hstored
      rw [hshown] at howned
      exact .availabilitySet hplace hstored howned ((lists_nothing_iff hlists).mp hempty)
    | network hgroup hnetwork howned hfree => exact .network hgroup hnetwork howned hfree
  · intro hbelongs
    cases hbelongs with
    | machine => exact .machine
    | interface hlisted => exact .interface hlisted
    | @publicIp _ at' nic hlisted hnic hip hgenerated =>
      have hfetched : Fetched events .networkInterface at' nic := by
        rw [hinterfaces, hstays .networkInterface _ (by decide)]
        exact ⟨(View.machine_hasInterface hview).mpr hlisted, hnic⟩
      exact .publicIp hfetched hip hgenerated
    | disk hdisk => exact .disk hdisk
    | @availabilitySet place set hplace hthere howned hlast =>
      have hlisted := (View.machine_hasSet hview).mpr hplace
      obtain ⟨shown, hfetched⟩ := hset.all hlisted (by
        rw [hstays .availabilitySet _ (by decide), hthere]
        nofun)
      obtain ⟨-, stored, hstored, hshown, hlists⟩ := hset.shown hfetched
      rw [hstays .availabilitySet _ (by decide)] at hstored
      obtain rfl : set = stored := Option.some.inj (hthere.symm.trans hstored)
      refine .availabilitySet hplace hfetched ?_ ((lists_nothing_iff hlists).mpr hlast)
      rw [hshown]
      exact howned
    | network hgroup hnetwork howned hfree => exact .network hgroup hnetwork howned hfree

end

variable {W : Type}

/-- On a quiet cloud, what is left is what was there, less what belongs to the node. -/
theorem removeNode_removes_what_belongs {t : Teardown Rat} (ht : t.IsSound)
    {provider : Provider Rat W} {cloudOf : W → Cloud} (hs : provider.Serves (· = ·) cloudOf)
    {limit : Nat} (hlimit : t.departure.polls ≤ limit) {session : Session Rat W} {token : Value}
    {node : NodeId} (hnode : NodeId.read token = .ok node) {machine : Model.Machine}
    (hmachine : (cloudOf session.world).objects .virtualMachine node.place = some machine)
    (hreadable : machine.IsReadable) (hinterfaces : ∀ place nic, machine.HasInterface place →
      (cloudOf session.world).objects .networkInterface place = some nic → nic.IsReadable) :
    ∃ after, (t.removeNode token).run ⟨provider, limit⟩ session = .ok true after ∧
      cloudOf after.world = (cloudOf session.world).without
        {spot | Belongs t (cloudOf session.world) node machine spot} := by
  have hfirst : (provider.answer (.get .virtualMachine node.group node.name) session.world).1 =
      .ok (some machine) := by
    obtain ⟨_, rfl, ⟨-, hgets⟩, -⟩ := hs (.get .virtualMachine node.group node.name) session.world
    cases hreply :
        (provider.answer (.get .virtualMachine node.group node.name) session.world).1 with
    | ok found =>
      rw [hreply] at hgets
      obtain ⟨object, rfl, stored, hstored, rfl⟩ := hgets
      obtain rfl := Option.some.inj (hmachine.symm.trans hstored)
      rfl
    | error fault =>
      rw [hreply] at hgets
      exact absurd hgets.2 (by rw [← NodeId.place, hmachine]; nofun)
  obtain ⟨after, events, view, hrun, -, hview, hcleared, hleaves⟩ :=
    removeNode_leaves hs isErosion_eq ht hlimit hnode hfirst hreadable hinterfaces
  refine ⟨after, hrun, ?_⟩
  have hquiet : IsQuiet (· = ·) := fun h => h.symm
  rw [hquiet hleaves]
  refine Cloud.without_congr fun kind place _ => ?_
  exact due_iff_belongs hview (hcleared.interfaces hquiet) (hcleared.set hquiet)

/-! ## A stock with a node -/

namespace Sample

def idOf (kind name : String) : String :=
  "/subscriptions/s/resourceGroups/rg/providers/p/" ++ kind ++ "/" ++ name

def link (kind name : String) : Option Link := some ⟨some (idOf kind name)⟩

def here (name : String) : Place := ⟨"rg", name⟩

def machine : Model.Machine where
  id := some (idOf "machines" "vm")
  name := some "vm"
  interfaces := [link "nics" "nic", link "nics" "missing"]
  osDisk := link "disks" "system"
  dataDisks := [some ⟨link "disks" "data"⟩]
  availabilitySet := link "sets" "set"

def nic : Model.Interface where
  id := some (idOf "nics" "nic")
  name := some "nic"
  ipConfigurations := [some ⟨link "ips" "generated"⟩, some ⟨link "ips" "supplied"⟩, some ⟨none⟩]

def tagged (kind name : String) (tags : Tags) : Place × Model.Tagged :=
  (here name, { id := some (idOf kind name), name := some name, tags })

def items : (kind : Kind) → List (Place × kind.Model)
  | .virtualMachine => [(here "vm", machine)]
  | .networkInterface => [(here "nic", nic)]
  | .publicIp =>
    [tagged "ips" "generated" [("generated", .str " True ")], tagged "ips" "supplied" []]
  | .disk => [(here "system", ⟨some (idOf "disks" "system"), some "system"⟩)]
  | .availabilitySet =>
    [(here "set", { (tagged "sets" "set" [("owner", .str "us")]).2 with machines := none })]
  | .securityGroup => []
  | .virtualNetwork => [tagged "networks" "ours" [("owner", .str "us")],
      tagged "networks" "used" [("owner", .str "us")], tagged "networks" "supplied" []]

theorem items_named : ∀ kind, ∀ item ∈ items kind,
    (kind.named item.2).name = some item.1.name ∧ Names (kind.named item.2).id item.1 := by
  intro kind
  cases kind <;> decide +kernel

def stock (inUse : List Place) : Stock := ⟨items, inUse, items_named⟩

theorem sample_isSound : Teardown.sample.IsSound where
  departure := rfl
  diskCheck := by
    rintro _ ⟨⟩
    rfl

theorem polls_departure : Teardown.sample.departure.polls = 13 := by
  decide +kernel

theorem machine_isReadable : machine.IsReadable where
  interfaces := by
    intro item hitem
    rcases List.mem_pair.mp hitem with rfl | rfl
    · exact ⟨_, rfl, by decide +kernel⟩
    · exact ⟨_, rfl, by decide +kernel⟩
  osDisk := by decide +kernel
  dataDisks := by
    intro item hitem
    obtain rfl := List.mem_singleton.mp hitem
    exact ⟨_, rfl, by decide +kernel⟩
  availabilitySet := by decide +kernel

theorem nic_isReadable : nic.IsReadable := by
  intro item hitem
  rcases List.mem_cons.mp hitem with rfl | hitem
  · exact ⟨_, rfl, by decide +kernel⟩
  rcases List.mem_pair.mp hitem with rfl | rfl
  · exact ⟨_, rfl, by decide +kernel⟩
  · exact ⟨_, rfl, by decide +kernel⟩

theorem isReadable_of_stock {inUse : List Place} {place : Place} {object : Model.Interface}
    (h : ((stock inUse).cloud []).objects .networkInterface place = some object) :
    object.IsReadable := by
  have hmem := (stock inUse).mem_of_find [] h
  cases List.mem_singleton.mp hmem
  exact nic_isReadable

/-- One interface and one disk of the node are missing, and one network is in use. -/
theorem removes_what_belongs :
    ∃ after, (Teardown.sample.removeNode (.str "rg/vm")).run
        ⟨(stock [here "used"]).provider fun _ _ => [], 13⟩ ⟨[], 0, #[]⟩ = .ok true after ∧
      (stock [here "used"]).cloud after.world = ((stock [here "used"]).cloud []).without
        {spot |
          Belongs Teardown.sample ((stock [here "used"]).cloud []) ⟨"rg", "vm"⟩ machine spot} := by
  have hserves : ((stock [here "used"]).provider fun _ _ => []).Serves (· = ·)
      (stock [here "used"]).cloud := Stock.serves _ fun _ _ => rfl
  exact removeNode_removes_what_belongs sample_isSound hserves polls_departure.le rfl rfl
    machine_isReadable fun _ _ _ => isReadable_of_stock

end Sample

end Reclaim
