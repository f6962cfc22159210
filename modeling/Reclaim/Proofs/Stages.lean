import Reclaim.Proofs.Limits

/-!
# What the stages keep to

Each stage reads objects of its own kinds only, and deletes nothing but what it read about before:
the machine's resources by the machine, a public IP by its interface, a network by the listing.
-/

namespace Reclaim

open Reclaim.Action

variable {τ W : Type}

/-- After that past, the warrant covers what the stages may delete because of the machine. -/
structure Covers (t : Teardown τ) (warrant : List (Event τ) → Removal → Prop)
    (past : List (Event τ)) (machine : View.Machine) : Prop where
  interface : ∀ later place object, past <+: later → machine.HasInterface place →
    JustShown later .networkInterface place object →
      warrant later (.resource .networkInterface place.group (some place.name))
  publicIp : ∀ later group name nic place ip value, past <+: later →
    .asked (.get .networkInterface group name) (.ok (some nic)) ∈ later → nic.HasIp place →
      JustShown later .publicIp place ip → ip.tags.lookup t.generatedTag = some value →
        Ownership.isTrue value = true →
          warrant later (.resource .publicIp place.group (some place.name))
  disk : ∀ later place, past <+: later → machine.HasDisk place →
    warrant later (.resource .disk place.group (some place.name))
  availabilitySet : ∀ later place object, past <+: later → machine.HasSet place →
    JustShown later .availabilitySet place object →
      Ownership.hasTag t.ownershipTag object.tags = true → Model.SaysNothing object.machines →
        warrant later (.resource .availabilitySet place.group (some place.name))

def CoversNetworks (t : Teardown τ) (warrant : List (Event τ) → Removal → Prop)
    (past : List (Event τ)) (group : String) : Prop :=
  ∀ later listing object, past <+: later →
    .asked (.list .virtualNetwork group) listing ∈ later → listing.failure = none →
      some object ∈ listing.items → Ownership.hasTag t.ownershipTag object.tags = true →
        warrant later (.resource .virtualNetwork group object.name)

variable {t : Teardown τ} {warrant : List (Event τ) → Removal → Prop} {past : List (Event τ)}
variable {machine : View.Machine} {group : String}

theorem Covers.later (h : Covers t warrant past machine) (events : List (Event τ)) :
    Covers t warrant (past ++ events) machine where
  interface later place object hlater :=
    h.interface later place object ((List.prefix_append _ _).trans hlater)
  publicIp later group name nic place ip value hlater :=
    h.publicIp later group name nic place ip value ((List.prefix_append _ _).trans hlater)
  disk later place hlater := h.disk later place ((List.prefix_append _ _).trans hlater)
  availabilitySet later place object hlater :=
    h.availabilitySet later place object ((List.prefix_append _ _).trans hlater)

theorem covers_everything : Covers t (fun _ _ => True) past machine where
  interface := by simp
  publicIp := by simp
  disk := by simp
  availabilitySet := by simp

variable [Timescale τ]

namespace Teardown

/-! ## The machine -/

theorem removeMachine_keeps
    (h : ∀ later, past <+: later → warrant later (.resource .virtualMachine group machine.name)) :
    Always (Limits [] warrant) past (t.removeMachine group machine : Action τ W Bool) := by
  unfold removeMachine
  refine .bind (Access.delete_keeps (h _ List.prefix_rfl)) fun _ handle _ => ?_
  refine .bind (isConfirmed_keeps limits_allowsFollowing) fun _ deleted _ => ?_
  refine .bind .ofExcept fun _ id _ => ?_
  refine .bind hasLeft_keeps fun _ left _ => ?_
  exact .mayLog (by simp [Limits, Stage.reportWords]) fun _ => .pure trivial

/-! ## Interfaces and their public IPs -/

theorem removePublicIp_keeps {id : ResourceId}
    (h : ∀ later ip value, past <+: later → JustShown later .publicIp id.place ip →
      ip.tags.lookup t.generatedTag = some value → Ownership.isTrue value = true →
        warrant later (.resource .publicIp id.group (some id.name))) :
    Always (Limits [.publicIp] warrant) past (t.removePublicIp id : Action τ W Bool) := by
  unfold removePublicIp
  refine .bind (Access.get_keeps List.mem_cons_self) fun events found hfound => ?_
  cases found with
  | none => exact .bind (.log (by simp [Limits, Stage.reportWords])) fun _ _ _ => .pure trivial
  | some ip =>
    obtain ⟨object, hshown, hview⟩ := hfound ip rfl
    obtain rfl : object = ip := by injection hview
    dsimp only
    split
    · exact .bind (.log (by simp [Limits, Stage.reportWords])) fun _ _ _ => .pure trivial
    next hgenerated =>
      obtain ⟨value, hvalue, htrue⟩ : ∃ value, object.tags.lookup t.generatedTag = some value ∧
          Ownership.isTrue value = true := by
        simpa [Ownership.isGenerated, Option.any_eq_true] using hgenerated
      refine .bind (.log (by simp [Limits, Stage.reportWords])) fun logged _ hlogged => ?_
      rw [hlogged]
      refine .bind (Access.delete_keeps (h _ object value (by simp) hshown.logged hvalue htrue))
        fun _ handle _ => ?_
      refine .bind (isConfirmed_keeps limits_allowsFollowing) fun _ deleted _ => ?_
      exact .mayLog (by simp [Limits, Stage.reportWords]) fun _ => .pure trivial

theorem tryPublicIp_keeps {id : ResourceId}
    (h : ∀ later ip value, past <+: later → JustShown later .publicIp id.place ip →
      ip.tags.lookup t.generatedTag = some value → Ownership.isTrue value = true →
        warrant later (.resource .publicIp id.group (some id.name))) :
    Always (Limits [.publicIp] warrant) past (t.tryPublicIp id : Action τ W Bool) := by
  refine .rescue (removePublicIp_keeps h) fun _ _ => ?_
  exact .bind (.log (by simp [Limits, Stage.reportWords])) fun _ _ _ => .pure trivial

/-- The IPs are those of the interface that was read just before. -/
theorem removeInterface_keeps {interfaceId : String} (h : Covers t warrant past machine)
    (hmem : interfaceId ∈ machine.interfaceIds) :
    Always (Limits [.networkInterface, .publicIp] warrant) past
      (t.removeInterface interfaceId : Action τ W Bool) := by
  unfold removeInterface
  refine .bind .ofExcept ?_
  rintro events id ⟨hevents, hid⟩
  rw [hevents]
  have hlisted : machine.HasInterface id.place :=
    ⟨interfaceId, hmem, id, read_eq_ok_iff.mp hid, rfl⟩
  refine .bind (Access.get_keeps List.mem_cons_self) fun fetched found hfound => ?_
  cases found with
  | none => exact .bind (.log (by simp [Limits, Stage.reportWords])) fun _ _ _ => .pure trivial
  | some nic =>
    obtain ⟨object, hshown, hview⟩ := hfound nic rfl
    refine .bind .ofExcept ?_
    rintro read publicIps ⟨hread, hids⟩
    rw [hread]
    refine .bind (.log (by simp [Limits, Stage.reportWords])) fun logged _ hlogged => ?_
    rw [hlogged]
    refine .bind (Access.delete_keeps (h.interface _ _ object (by simp) hlisted hshown.logged))
      fun deleting handle _ => ?_
    refine .bind (isConfirmed_keeps limits_allowsFollowing) fun following deleted _ => ?_
    refine .mayLog (by simp [Limits, Stage.reportWords]) fun warned => ?_
    refine .bind (Teardown.all_keeps fun ip hip => ?_) fun _ _ _ => .pure trivial
    intro more
    refine Keeps.mono (tryPublicIp_keeps ?_) (Limits.mono (by simp) fun _ _ h => h)
      fun _ _ h => h
    intro later shown value hlater hshownIp hvalue htrue
    refine h.publicIp later id.group id.name object ip.place shown value ?_ ?_ ?_ hshownIp hvalue
      htrue
    · exact List.IsPrefix.trans (by simp) hlater
    · exact (List.IsPrefix.trans (by simp) hlater).subset hshown.mem
    · rw [← View.interface_hasIp hview]
      obtain ⟨text, htext, hread⟩ := (View.mem_of_mapM_read hids).mp hip
      exact ⟨text, htext, ip, hread, rfl⟩

theorem removeInterfaces_keeps (h : Covers t warrant past machine) :
    Always (Limits [.networkInterface, .publicIp] warrant) past
      (t.removeInterfaces machine : Action τ W Bool) :=
  all_keeps fun _ hmem _ => removeInterface_keeps (h.later _) hmem

/-! ## Disks -/

omit [Timescale τ] in
theorem mem_diskIds {ids : List ResourceId} (h : diskIds machine = .ok ids) {id : ResourceId} :
    id ∈ ids ↔ ∃ text, (machine.osDiskId = some text ∨ text ∈ machine.dataDiskIds) ∧
      ResourceId.parse? text = some id := by
  have hnonempty : ∀ text, ResourceId.parse? text = some id → text ≠ "" := by
    rintro _ hparse rfl
    rw [parse?_empty] at hparse
    cases hparse
  unfold diskIds at h
  cases hread : (((View.given machine.osDiskId).toList ++ machine.dataDiskIds).filter
      (· ≠ "")).mapM fun text => ResourceId.read (.str text) with
  | error fault =>
    simp only [hread, bind, Except.bind] at h
    cases h
  | ok found =>
    simp only [hread, bind, Except.bind, pure, Except.pure, Except.ok.injEq] at h
    rw [← h, List.mem_eraseDups, View.mem_of_mapM_read hread]
    refine exists_congr fun text => and_congr_left fun hparse => ?_
    simp [View.given, Option.filter_eq_some_iff, hnonempty text hparse]

theorem requestDisks_keeps {ids : List ResourceId}
    (h : ∀ id ∈ ids, ∀ later, past <+: later →
      warrant later (.resource .disk id.group (some id.name))) :
    Always (Limits [.disk] warrant) past (requestDisks ids : Action τ W _) := by
  induction ids generalizing past with
  | nil => exact .pure trivial
  | cons id rest ih =>
    rw [requestDisks]
    refine .bind (.log (by simp [Limits, Stage.reportWords])) fun logged _ _ => ?_
    refine .bind (Access.delete_keeps (h id List.mem_cons_self _ (by simp)))
      fun deleting handle _ => ?_
    refine .bind (ih fun id hid later hlater => ?_) fun _ _ _ => .pure trivial
    exact h id (List.mem_cons_of_mem _ hid) later (List.IsPrefix.trans (by simp) hlater)

omit [Timescale τ] in
theorem warnOf_keeps {rule : Rule τ} {event : String} {ids : List ResourceId}
    (h : ∀ past fields, rule past (.logged ⟨.warning, event, fields, none⟩)) :
    Always rule past (warnOf event ids : Action τ W Unit) := by
  unfold warnOf
  split
  · exact .pure trivial
  · exact (Keeps.log (h _ _)).always

theorem isDiskMissing_keeps {id : ResourceId} :
    Always (Limits [.disk] warrant) past (isDiskMissing id : Action τ W Bool) :=
  .bind (Access.get_keeps List.mem_cons_self) fun _ _ _ => .pure trivial

/-- A disk is looked for once, or as often as the tracker of the settings asks. -/
theorem diskCheckOf_eq_ok {isGone : ResourceId → Action τ W Bool} (h : t.diskCheckOf = .ok isGone) :
    t.diskCheck = none ∧ isGone = isDiskMissing ∨
      ∃ given escalation, t.diskCheck = some given ∧ given.checked = .ok escalation ∧
        isGone = fun id => escalation.await (isDiskMissing id) := by
  unfold diskCheckOf at h
  cases hcheck : t.diskCheck with
  | none =>
    rw [hcheck] at h
    cases h
    exact .inl ⟨rfl, rfl⟩
  | some given =>
    rw [hcheck] at h
    dsimp only at h
    cases hchecked : given.checked with
    | error fault =>
      rw [hchecked] at h
      cases h
    | ok escalation =>
      rw [hchecked] at h
      cases h
      exact .inr ⟨given, escalation, rfl, hchecked, rfl⟩

theorem diskCheck_keeps {isGone : ResourceId → Action τ W Bool} (h : t.diskCheckOf = .ok isGone)
    {id : ResourceId} : Always (Limits [.disk] warrant) past (isGone id) := by
  obtain ⟨-, rfl⟩ | ⟨_, escalation, -, -, rfl⟩ := diskCheckOf_eq_ok h
  · exact isDiskMissing_keeps
  · exact Escalation.await_keeps limits_allowsFollowing.toAllowsWaiting fun _ => isDiskMissing_keeps

theorem removeDisks_keeps (h : Covers t warrant past machine) :
    Always (Limits [.disk] warrant) past (t.removeDisks machine : Action τ W Bool) := by
  unfold removeDisks
  refine .bind .ofExcept ?_
  rintro events ids ⟨hevents, hids⟩
  rw [hevents]
  have hlisted : ∀ id ∈ ids, machine.HasDisk id.place := by
    intro id hid
    obtain ⟨text, htext, hread⟩ := (mem_diskIds hids).mp hid
    exact ⟨text, htext, id, hread, rfl⟩
  refine .bind (requestDisks_keeps fun id hid later hlater =>
    h.disk later id.place hlater (hlisted id hid)) fun requested jobs _ => ?_
  refine .bind (failing_keeps fun job _ _ => isConfirmed_keeps limits_allowsFollowing)
    fun following unconfirmed _ => ?_
  refine .bind (warnOf_keeps fun _ _ => by simp [Limits, Stage.reportWords]) fun warned _ _ => ?_
  refine .bind .ofExcept fun made isGone hmade => ?_
  refine .bind (failing_keeps fun id _ _ => ?_) fun looked present _ => ?_
  · exact checked_keeps (diskCheck_keeps hmade.2) fun _ _ => by simp [Limits, Stage.reportWords]
  refine .bind (warnOf_keeps fun _ _ => by simp [Limits, Stage.reportWords]) fun _ _ _ => ?_
  refine .bind (failing_keeps fun id _ _ => hasLeft_keeps) fun listed still _ => ?_
  refine .bind (warnOf_keeps fun _ _ => by simp [Limits, Stage.reportWords]) fun _ _ _ => ?_
  exact .pure trivial

/-! ## The availability set -/

omit [Timescale τ] in
theorem given_eq_some {text : Option String} {s : String} (h : View.given text = some s) :
    text = some s := by
  cases text with
  | none => cases h
  | some text =>
    obtain ⟨h, -⟩ := Option.filter_eq_some_iff.mp h
    exact h

omit [Timescale τ] in
theorem isOrphanedSet_iff (key : String) {object : Model.AvailabilitySet}
    {view : View.AvailabilitySet} (h : View.availabilitySet (some object) = .ok view) :
    Ownership.isOrphanedSet key view = true ↔
      Ownership.hasTag key object.tags = true ∧ Model.SaysNothing object.machines := by
  obtain ⟨htagged, hmachines⟩ := View.availabilitySet_eq_ok h
  rw [← View.mapM_linkIds_isEmpty hmachines, ← htagged, Ownership.isOrphanedSet,
    Bool.and_eq_true]

theorem removeAvailabilitySet_keeps (h : Covers t warrant past machine) :
    Always (Limits [.availabilitySet] warrant) past
      (t.removeAvailabilitySet machine : Action τ W Bool) := by
  unfold removeAvailabilitySet
  split
  next setId hset =>
    refine .bind .ofExcept ?_
    rintro events id ⟨hevents, hid⟩
    rw [hevents]
    have hplace : machine.HasSet id.place :=
      ⟨id, by rw [given_eq_some hset, Option.bind_some, read_eq_ok_iff.mp hid], rfl⟩
    refine .bind (Access.get_keeps List.mem_cons_self) fun fetched found hfound => ?_
    dsimp only
    split
    · exact .bind (.log (by simp [Limits, Stage.reportWords])) fun _ _ _ => .pure trivial
    next horphaned =>
      cases found with
      | none => exact absurd rfl horphaned
      | some view =>
        obtain ⟨object, hshown, hview⟩ := hfound view rfl
        have hours : Ownership.hasTag t.ownershipTag object.tags = true ∧
            Model.SaysNothing object.machines := by
          rw [← isOrphanedSet_iff _ hview]
          simpa using horphaned
        refine .bind (.log (by simp [Limits, Stage.reportWords])) fun logged _ hlogged => ?_
        rw [hlogged]
        refine .bind (Access.delete_keeps (h.availabilitySet _ _ object (by simp) hplace
          hshown.logged hours.1 hours.2)) fun _ handle _ => ?_
        refine .bind (isConfirmed_keeps limits_allowsFollowing) fun _ deleted _ => ?_
        exact .mayLog (by simp [Limits, Stage.reportWords]) fun _ => .pure trivial
  · exact .pure trivial

/-! ## Networks -/

theorem removeNetwork_keeps {network : Model.Tagged}
    (h : ∀ later, past <+: later →
      warrant later (.resource .virtualNetwork group network.name)) :
    Always (Limits [] warrant) past (t.removeNetwork group network : Action τ W Bool) := by
  unfold removeNetwork
  refine .bind (.log (by simp [Limits, Stage.reportWords])) fun _ _ _ => ?_
  refine .bind (Access.delete_keeps (h _ (by simp))) fun _ handle _ => ?_
  refine .bind (isConfirmed_keeps limits_allowsFollowing) fun _ deleted _ => ?_
  refine .bind .ofExcept fun _ id _ => ?_
  refine .bind hasLeft_keeps fun _ left _ => ?_
  dsimp only
  refine .mayLog (by simp [Limits, Stage.reportWords]) fun _ => ?_
  exact .mayLog (by simp [Limits, Stage.reportWords]) fun _ => .pure trivial

theorem tryNetwork_keeps {network : Model.Tagged}
    (h : ∀ later, past <+: later →
      warrant later (.resource .virtualNetwork group network.name)) :
    Always (Limits [] warrant) past (t.tryNetwork group network : Action τ W Bool) := by
  refine .rescue (removeNetwork_keeps h) fun _ fault => ?_
  split
  · exact .bind (.log (by simp [Limits, Stage.reportWords])) fun _ _ _ => .pure trivial
  · exact .stop

theorem removeNetworks_keeps (h : CoversNetworks t warrant past group) :
    Always (Limits [] warrant) past (t.removeNetworks group : Action τ W Bool) := by
  unfold removeNetworks
  refine .bind Access.list_keeps fun listed networks hnetworks => ?_
  refine all_keeps fun network hnetwork events => tryNetwork_keeps fun later hlater => ?_
  obtain ⟨hmem, howned⟩ := List.mem_filter.mp hnetwork
  obtain ⟨listing, object, hasked, hcomplete, hitem, hview⟩ := hnetworks network hmem
  obtain rfl : object = network := by injection hview
  have hpast : past ++ listed <+: later := (List.prefix_append _ _).trans hlater
  exact h later listing object ((List.prefix_append _ _).trans hpast) (hpast.subset hasked)
    hcomplete hitem howned

/-! ## A stage of the cascade -/

theorem perform_keeps (h : Covers t warrant past machine)
    (hnetworks : CoversNetworks t warrant past group) {kinds : List Kind}
    (hkinds : ∀ kind ∈ [.networkInterface, .publicIp, .disk, .availabilitySet], kind ∈ kinds)
    (stage : Stage) :
    Always (Limits kinds warrant) past (t.perform group machine stage : Action τ W Bool) := by
  have hweaken : ∀ {some : List Kind} {action : Action τ W Bool}, (∀ kind ∈ some, kind ∈ kinds) →
      Always (Limits some warrant) past action → Always (Limits kinds warrant) past action :=
    fun hsome haction => haction.mono (Limits.mono hsome fun _ _ h => h) fun _ _ h => h
  cases stage with
  | interfaces => exact hweaken (by simp_all) (removeInterfaces_keeps h)
  | disks => exact hweaken (by simp_all) (removeDisks_keeps h)
  | availabilitySet => exact hweaken (by simp_all) (removeAvailabilitySet_keeps h)
  | networks => exact hweaken (by simp) (removeNetworks_keeps hnetworks)

/-! ## A sample -/

/-- The teardown of the sample scenes. It waits a minute for each thing that it waits for. -/
def sample : Teardown Rat where
  deletion := ⟨60, 5⟩
  departure := ⟨60, 5⟩
  diskCheck := some ⟨60, 5, 15⟩
  naming := .standard
  ownershipTag := "owner"
  generatedTag := "generated"

end Teardown
end Reclaim
