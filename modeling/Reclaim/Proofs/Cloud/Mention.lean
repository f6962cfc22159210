import Reclaim.Cloud.View
import Mathlib.Data.List.Forall2

/-!
# Resources that objects mention

An object of the provider mentions other resources by their ids. A view mentions the same resources
as the object that it was read from.
-/

namespace Reclaim

/-- Where a resource stands: in which group and by which name. -/
structure Place where
  group : String
  name : String
deriving DecidableEq

def ResourceId.place (id : ResourceId) : Place := ⟨id.group, id.name⟩

/-- The text is there, can be read as an id, and names what stands at the place. -/
def Names (text : Option String) (place : Place) : Prop :=
  ∃ id, text.bind ResourceId.parse? = some id ∧ id.place = place

/-- An id that can be read, unless it is missing or empty. -/
def IsReadable (text : Option String) : Prop :=
  ∀ s, View.given text = some s → ∃ id, ResourceId.parse? s = some id

instance {text : Option String} {place : Place} : Decidable (Names text place) :=
  decidable_of_iff ((text.bind ResourceId.parse?).map ResourceId.place = some place) (by
    rw [Option.map_eq_some_iff, Names])

instance {text : Option String} : Decidable (IsReadable text) :=
  decidable_of_iff (∀ s ∈ View.given text, (ResourceId.parse? s).isSome = true) (by
    simp only [Option.mem_def, Option.isSome_iff_exists, IsReadable])

/-! ## Ids -/

theorem parse?_empty : ResourceId.parse? "" = none := by
  decide +kernel

theorem Names.text_ne_empty {s : String} {place : Place} (h : Names (some s) place) : s ≠ "" := by
  rintro rfl
  obtain ⟨id, hid, -⟩ := h
  rw [Option.bind_some, parse?_empty] at hid
  cases hid

theorem names_some_iff {s : String} {id : ResourceId} (hid : ResourceId.parse? s = some id)
    {place : Place} : Names (some s) place ↔ place = id.place := by
  simp [Names, hid, eq_comm]

theorem names_given {text : Option String} {place : Place} :
    Names (View.given text) place ↔ Names text place := by
  cases text with
  | none => rfl
  | some s =>
    by_cases hs : s = ""
    · subst hs
      constructor
      · rintro ⟨id, hid, -⟩
        cases hid
      · intro h
        exact absurd rfl h.text_ne_empty
    · simp [View.given, Option.filter, hs]

theorem read_eq_ok_iff {s : String} {id : ResourceId} :
    ResourceId.read (.str s) = .ok id ↔ ResourceId.parse? s = some id := by
  rw [ResourceId.read]
  cases ResourceId.parse? s <;> simp [Option.elim]

theorem Named.exists_reference {n : Named} {place : Place} (h : Names n.id place) :
    ∃ id, n.reference = .ok id := by
  obtain ⟨id, hid, -⟩ := h
  obtain ⟨text, htext, hparse⟩ := Option.bind_eq_some_iff.mp hid
  rw [Named.reference, htext]
  exact ⟨id, read_eq_ok_iff.mpr hparse⟩

/-! ## Objects -/

namespace Model

def Machine.HasInterface (m : Machine) (place : Place) : Prop :=
  ∃ link, some link ∈ m.interfaces ∧ Names link.id place

/-- A managed disk of the machine, with the system or with data. -/
def Machine.HasDisk (m : Machine) (place : Place) : Prop :=
  Names (View.linkId m.osDisk) place ∨
    ∃ d, some d ∈ m.dataDisks ∧ Names (View.linkId d.disk) place

def Machine.HasSet (m : Machine) (place : Place) : Prop :=
  Names (View.linkId m.availabilitySet) place

instance {m : Machine} {place : Place} : Decidable (m.HasSet place) :=
  inferInstanceAs (Decidable (Names _ _))

def Interface.HasIp (n : Interface) (place : Place) : Prop :=
  ∃ c, some c ∈ n.ipConfigurations ∧ Names (View.linkId c.address) place

/-- None of the links says what it links to. -/
def SaysNothing (links : Option (List (Option Link))) : Prop :=
  ∀ l, some l ∈ links.getD [] → View.given l.id = none

structure Machine.IsReadable (m : Machine) : Prop where
  interfaces : ∀ link ∈ m.interfaces, ∃ l, link = some l ∧ Reclaim.IsReadable l.id
  osDisk : Reclaim.IsReadable (View.linkId m.osDisk)
  dataDisks : ∀ disk ∈ m.dataDisks, ∃ d, disk = some d ∧ Reclaim.IsReadable (View.linkId d.disk)
  availabilitySet : Reclaim.IsReadable (View.linkId m.availabilitySet)

/-- No element of the list is missing, and every id can be read. -/
def Interface.IsReadable (n : Interface) : Prop :=
  ∀ config ∈ n.ipConfigurations, ∃ c, config = some c ∧ Reclaim.IsReadable (View.linkId c.address)

end Model

namespace View

def Machine.HasInterface (m : Machine) (place : Place) : Prop :=
  ∃ text ∈ m.interfaceIds, Names (some text) place

def Machine.HasDisk (m : Machine) (place : Place) : Prop :=
  ∃ text, (m.osDiskId = some text ∨ text ∈ m.dataDiskIds) ∧ Names (some text) place

def Machine.HasSet (m : Machine) (place : Place) : Prop := Names m.availabilitySetId place

def Interface.HasIp (n : Interface) (place : Place) : Prop :=
  ∃ text ∈ n.publicIpIds, Names (some text) place

/-! ## Reading objects -/

theorem forall₂_of_mapM {α β : Type} {f : β → Except Fault α} {items : List β} {found : List α}
    (h : items.mapM f = .ok found) : List.Forall₂ (fun item a => f item = .ok a) items found := by
  induction items generalizing found with
  | nil =>
    cases h
    exact .nil
  | cons item rest ih =>
    rw [List.mapM_cons] at h
    cases hitem : f item with
    | error fault =>
      rw [hitem] at h
      cases h
    | ok a =>
      cases hrest : rest.mapM f with
      | error fault =>
        rw [hitem, hrest] at h
        cases h
      | ok others =>
        rw [hitem, hrest] at h
        cases h
        exact .cons hitem (ih hrest)

theorem exists_of_mem {α β : Type} {r : β → α → Prop} {items : List β} {found : List α}
    (h : List.Forall₂ r items found) {a : α} (ha : a ∈ found) : ∃ item ∈ items, r item a := by
  induction h with
  | nil => cases ha
  | cons hitem _ ih =>
    rcases List.mem_cons.mp ha with rfl | ha
    · exact ⟨_, List.mem_cons_self, hitem⟩
    · obtain ⟨item, hmem, hr⟩ := ih ha
      exact ⟨item, List.mem_cons_of_mem _ hmem, hr⟩

theorem exists_of_mem_left {α β : Type} {r : β → α → Prop} {items : List β} {found : List α}
    (h : List.Forall₂ r items found) {item : β} (hitem : item ∈ items) : ∃ a ∈ found, r item a := by
  induction h with
  | nil => cases hitem
  | cons hfirst _ ih =>
    rcases List.mem_cons.mp hitem with rfl | hitem
    · exact ⟨_, List.mem_cons_self, hfirst⟩
    · obtain ⟨a, hmem, hr⟩ := ih hitem
      exact ⟨a, List.mem_cons_of_mem _ hmem, hr⟩

theorem exists_mapM {α β : Type} {f : β → Except Fault α} {items : List β}
    (h : ∀ item ∈ items, ∃ a, f item = .ok a) : ∃ found, items.mapM f = .ok found := by
  induction items with
  | nil => exact ⟨[], rfl⟩
  | cons item rest ih =>
    obtain ⟨a, ha⟩ := h item List.mem_cons_self
    obtain ⟨found, hfound⟩ := ih fun item hitem => h item (List.mem_cons_of_mem _ hitem)
    exact ⟨a :: found, by rw [List.mapM_cons, ha, hfound]; rfl⟩

theorem mapM_need_map {α : Type} {field : String} (found : List α) :
    (found.map some).mapM (need field) = .ok found := by
  induction found with
  | nil => rfl
  | cons a rest ih =>
    rw [List.map_cons, List.mapM_cons, ih]
    rfl

theorem eq_map_of_mapM_need {α : Type} {field : String} {items : List (Option α)} {found : List α}
    (h : items.mapM (need field) = .ok found) : items = found.map some := by
  refine List.forall₂_eq_eq_eq ▸ List.forall₂_map_right_iff.mpr ((forall₂_of_mapM h).imp ?_)
  intro item a hneed
  cases item with
  | none => cases hneed
  | some b =>
    cases hneed
    rfl

theorem exists_map_some {α : Type} {items : List (Option α)} {p : α → Prop}
    (h : ∀ item ∈ items, ∃ a, item = some a ∧ p a) :
    ∃ found : List α, items = found.map some ∧ ∀ a ∈ found, p a := by
  induction items with
  | nil => exact ⟨[], rfl, by simp⟩
  | cons item rest ih =>
    obtain ⟨a, rfl, ha⟩ := h item List.mem_cons_self
    obtain ⟨found, rfl, hfound⟩ := ih fun item hitem => h item (List.mem_cons_of_mem _ hitem)
    exact ⟨a :: found, rfl, by simpa using ⟨ha, hfound⟩⟩

theorem exists_names_filterMap {α : Type} {items : List α} {id : α → Option String}
    {place : Place} :
    (∃ text ∈ items.filterMap fun a => given (id a), Names (some text) place) ↔
      ∃ a ∈ items, Names (id a) place := by
  constructor
  · rintro ⟨text, htext, hnames⟩
    obtain ⟨a, ha, hgiven⟩ := List.mem_filterMap.mp htext
    exact ⟨a, ha, names_given.mp (hgiven ▸ hnames)⟩
  · rintro ⟨a, ha, hnames⟩
    have hgiven := names_given.mpr hnames
    cases htext : given (id a) with
    | none =>
      rw [htext] at hgiven
      obtain ⟨_, ⟨⟩, -⟩ := hgiven
    | some text => exact ⟨text, List.mem_filterMap.mpr ⟨a, ha, htext⟩, htext ▸ hgiven⟩

theorem mem_of_reads {texts : List String} {ids : List ResourceId}
    (h : List.Forall₂ (fun text id => ResourceId.read (.str text) = .ok id) texts ids)
    {id : ResourceId} : id ∈ ids ↔ ∃ text ∈ texts, ResourceId.parse? text = some id := by
  induction h with
  | nil => simp
  | @cons text first texts ids hread _ ih =>
    rw [List.mem_cons, ih]
    simp [read_eq_ok_iff.mp hread, eq_comm]

theorem mem_of_mapM_read {texts : List String} {ids : List ResourceId}
    (h : texts.mapM (fun text => ResourceId.read (.str text)) = .ok ids) {id : ResourceId} :
    id ∈ ids ↔ ∃ text ∈ texts, ResourceId.parse? text = some id :=
  mem_of_reads (forall₂_of_mapM h)

/-! ### Machines -/

def ofMachine (m : Model.Machine) (links : List Link) (disks : List Model.DataDisk) : Machine where
  toNamed := m.toNamed
  group := groupOf m.id
  interfaceIds := links.filterMap fun link => given link.id
  osDiskId := linkId m.osDisk
  dataDiskIds := disks.filterMap fun d => given (linkId d.disk)
  availabilitySetId := linkId m.availabilitySet

theorem machine_of_lists {m : Model.Machine} {links : List Link} {disks : List Model.DataDisk}
    (hlinks : m.interfaces = links.map some) (hdisks : m.dataDisks = disks.map some) :
    machine (some m) = .ok (ofMachine m links disks) := by
  simp only [machine, linkIds, need, hlinks, hdisks, mapM_need_map, bind, Except.bind, pure,
    Except.pure, ofMachine]

theorem machine_eq_ok {m : Model.Machine} {view : Machine} (h : machine (some m) = .ok view) :
    ∃ links disks, m.interfaces = List.map some links ∧ m.dataDisks = List.map some disks ∧
      view = ofMachine m links disks := by
  have hlinks : ∃ links, m.interfaces.mapM (need "id") = .ok links := by
    cases hmap : m.interfaces.mapM (need "id") with
    | ok links => exact ⟨links, rfl⟩
    | error fault =>
      simp only [machine, linkIds, need, hmap, bind, Except.bind] at h
      cases h
  have hdisks : ∃ disks, m.dataDisks.mapM (need "managed_disk") = .ok disks := by
    obtain ⟨links, hlinks⟩ := hlinks
    cases hmap : m.dataDisks.mapM (need "managed_disk") with
    | ok disks => exact ⟨disks, rfl⟩
    | error fault =>
      simp only [machine, linkIds, need, hlinks, hmap, bind, Except.bind, pure, Except.pure] at h
      cases h
  obtain ⟨links, hlinks⟩ := hlinks
  obtain ⟨disks, hdisks⟩ := hdisks
  have hmachine := machine_of_lists (eq_map_of_mapM_need hlinks) (eq_map_of_mapM_need hdisks)
  rw [h] at hmachine
  cases hmachine
  exact ⟨links, disks, eq_map_of_mapM_need hlinks, eq_map_of_mapM_need hdisks, rfl⟩

theorem machine_toNamed {m : Model.Machine} {view : Machine} (h : machine (some m) = .ok view) :
    view.toNamed = m.toNamed := by
  obtain ⟨links, disks, -, -, rfl⟩ := machine_eq_ok h
  rfl

theorem machine_hasInterface {m : Model.Machine} {view : Machine}
    (h : machine (some m) = .ok view) {place : Place} :
    view.HasInterface place ↔ m.HasInterface place := by
  obtain ⟨links, disks, hlinks, -, rfl⟩ := machine_eq_ok h
  rw [Machine.HasInterface, ofMachine, exists_names_filterMap, Model.Machine.HasInterface, hlinks]
  simp

theorem machine_hasDisk {m : Model.Machine} {view : Machine}
    (h : machine (some m) = .ok view) {place : Place} :
    view.HasDisk place ↔ m.HasDisk place := by
  obtain ⟨links, disks, -, hdisks, rfl⟩ := machine_eq_ok h
  simp only [Machine.HasDisk, ofMachine, or_and_right, exists_or, exists_names_filterMap,
    Model.Machine.HasDisk, hdisks]
  refine or_congr ⟨?_, ?_⟩ (by simp)
  · rintro ⟨text, htext, hnames⟩
    exact htext ▸ hnames
  · intro hnames
    obtain ⟨id, hid, hplace⟩ := hnames
    obtain ⟨text, htext, -⟩ := Option.bind_eq_some_iff.mp hid
    exact ⟨text, htext, id, htext ▸ hid, hplace⟩

theorem machine_hasSet {m : Model.Machine} {view : Machine} (h : machine (some m) = .ok view)
    {place : Place} : view.HasSet place ↔ m.HasSet place := by
  obtain ⟨links, disks, -, -, rfl⟩ := machine_eq_ok h
  rfl

/-- Every id in the view can be read. -/
structure Machine.IsReadable (m : Machine) : Prop where
  interfaces : ∀ text ∈ m.interfaceIds, ∃ id, ResourceId.parse? text = some id
  osDisk : Reclaim.IsReadable m.osDiskId
  dataDisks : ∀ text ∈ m.dataDiskIds, ∃ id, ResourceId.parse? text = some id
  availabilitySet : Reclaim.IsReadable m.availabilitySetId

theorem readable_filterMap {α : Type} {items : List α} {id : α → Option String}
    (h : ∀ a ∈ items, Reclaim.IsReadable (id a)) :
    ∀ text ∈ items.filterMap fun a => given (id a), ∃ r, ResourceId.parse? text = some r := by
  intro text htext
  obtain ⟨a, ha, hgiven⟩ := List.mem_filterMap.mp htext
  exact h a ha text hgiven

theorem exists_machine {m : Model.Machine} (h : m.IsReadable) :
    ∃ view, machine (some m) = .ok view ∧ view.IsReadable := by
  obtain ⟨links, hlinks, hlink⟩ := exists_map_some h.interfaces
  obtain ⟨disks, hdisks, hdisk⟩ := exists_map_some h.dataDisks
  exact ⟨_, machine_of_lists hlinks hdisks, readable_filterMap hlink, h.osDisk,
    readable_filterMap hdisk, h.availabilitySet⟩

/-! ### Interfaces -/

def ofInterface (n : Model.Interface) (configurations : List Model.IpConfiguration) :
    Interface where
  toNamed := n.toNamed
  publicIpIds := configurations.filterMap fun c => given (linkId c.address)

theorem interface_of_list {n : Model.Interface} {configurations : List Model.IpConfiguration}
    (h : n.ipConfigurations = configurations.map some) :
    interface (some n) = .ok (ofInterface n configurations) := by
  simp only [interface, need, h, mapM_need_map, bind, Except.bind, pure, Except.pure, ofInterface]

theorem interface_eq_ok {n : Model.Interface} {view : Interface}
    (h : interface (some n) = .ok view) :
    ∃ configurations, n.ipConfigurations = List.map some configurations ∧
      view = ofInterface n configurations := by
  cases hmap : n.ipConfigurations.mapM (need "public_ip_address") with
  | error fault =>
    simp only [interface, need, hmap, bind, Except.bind] at h
    cases h
  | ok configurations =>
    have hinterface := interface_of_list (eq_map_of_mapM_need hmap)
    rw [h] at hinterface
    cases hinterface
    exact ⟨configurations, eq_map_of_mapM_need hmap, rfl⟩

theorem interface_hasIp {n : Model.Interface} {view : Interface}
    (h : interface (some n) = .ok view) {place : Place} : view.HasIp place ↔ n.HasIp place := by
  obtain ⟨configurations, hlist, rfl⟩ := interface_eq_ok h
  rw [Interface.HasIp, ofInterface, exists_names_filterMap, Model.Interface.HasIp, hlist]
  simp

theorem exists_interface {n : Model.Interface} (h : n.IsReadable) :
    ∃ view, interface (some n) = .ok view ∧
      ∀ text ∈ view.publicIpIds, ∃ id, ResourceId.parse? text = some id := by
  obtain ⟨configurations, hlist, hread⟩ := exists_map_some h
  exact ⟨_, interface_of_list hlist, readable_filterMap hread⟩

/-! ### Attachments -/

theorem linkIds_of_list {links : List (Option Link)} {found : List Link}
    (h : links = found.map some) :
    linkIds links = .ok (found.filterMap fun link => given link.id) := by
  simp only [linkIds, h, mapM_need_map, bind, Except.bind, pure, Except.pure]

theorem linkIds_eq_ok {links : List (Option Link)} {ids : List String}
    (h : linkIds links = .ok ids) :
    ∃ found, links = List.map some found ∧ ids = found.filterMap fun link => given link.id := by
  cases hmap : links.mapM (need "id") with
  | error fault =>
    simp only [linkIds, hmap, bind, Except.bind] at h
    cases h
  | ok found =>
    have hlist := eq_map_of_mapM_need hmap
    rw [linkIds_of_list hlist] at h
    cases h
    exact ⟨found, hlist, rfl⟩

theorem linkIds_isEmpty {links : List (Option Link)} {ids : List String}
    (h : linkIds links = .ok ids) :
    ids.isEmpty = true ↔ ∀ l, some l ∈ links → given l.id = none := by
  obtain ⟨found, rfl, rfl⟩ := linkIds_eq_ok h
  simp [List.filterMap_eq_nil_iff]

theorem mapM_linkIds_isEmpty {links : Option (List (Option Link))} {ids : Option (List String)}
    (h : links.mapM linkIds = .ok ids) :
    (ids.getD []).isEmpty = true ↔ Model.SaysNothing links := by
  cases links with
  | none =>
    cases h
    simp [Model.SaysNothing]
  | some links =>
    cases hids : linkIds links with
    | error fault =>
      rw [Option.mapM_some, hids] at h
      cases h
    | ok found =>
      rw [Option.mapM_some, hids] at h
      cases h
      exact linkIds_isEmpty hids

theorem exists_availabilitySet {a : Model.AvailabilitySet}
    (h : ∀ item ∈ a.machines.getD [], ∃ link, item = some link) :
    ∃ view, availabilitySet (some a) = .ok view := by
  obtain ⟨ids, hids⟩ : ∃ ids, a.machines.mapM linkIds = .ok ids := by
    cases hmachines : a.machines with
    | none => exact ⟨none, rfl⟩
    | some links =>
      rw [hmachines] at h
      obtain ⟨found, hfound⟩ : ∃ found, links.mapM (need "id") = .ok found := by
        refine exists_mapM fun item hitem => ?_
        obtain ⟨link, rfl⟩ := h item hitem
        exact ⟨link, rfl⟩
      exact ⟨some (found.filterMap fun link => given link.id), by
        simp only [Option.mapM_some, linkIds, hfound, bind, Except.bind, pure, Except.pure,
          Functor.map, Except.map]⟩
  exact ⟨⟨a.toTagged, ids⟩, by
    simp only [availabilitySet, need, hids, bind, Except.bind, pure, Except.pure]⟩

theorem availabilitySet_eq_ok {a : Model.AvailabilitySet} {view : AvailabilitySet}
    (h : availabilitySet (some a) = .ok view) :
    view.toTagged = a.toTagged ∧ a.machines.mapM linkIds = .ok view.machineIds := by
  cases hids : a.machines.mapM linkIds with
  | error fault =>
    simp only [availabilitySet, need, hids, bind, Except.bind] at h
    cases h
  | ok ids =>
    simp only [availabilitySet, need, hids, bind, Except.bind, pure, Except.pure] at h
    cases h
    exact ⟨rfl, rfl⟩

theorem securityGroup_eq_ok {s : Model.SecurityGroup} {view : SecurityGroup}
    (h : securityGroup (some s) = .ok view) :
    view.toNamed = s.toNamed ∧ s.interfaces.mapM linkIds = .ok view.interfaceIds := by
  cases hids : s.interfaces.mapM linkIds with
  | error fault =>
    simp only [securityGroup, need, hids, bind, Except.bind] at h
    cases h
  | ok ids =>
    simp only [securityGroup, need, hids, bind, Except.bind, pure, Except.pure] at h
    cases h
    exact ⟨rfl, rfl⟩

end View

end Reclaim
