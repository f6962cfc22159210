import Reclaim.Proofs.Effect.Interfaces

/-!
# Disks, the availability set and networks leave the cloud

The other things that a machine leaves behind, each removed if it is its own.
-/

namespace Reclaim

open Reclaim.Action

variable {W α : Type} {provider : Provider Rat W} {others : Cloud → Cloud → Prop}
variable {cloudOf : W → Cloud} {limit : Nat} {session : Session Rat W}

section

variable (hs : provider.Serves others cloudOf) (ho : IsErosion others) {t : Teardown Rat}

include hs ho

/-! ## Disks -/

omit hs in
theorem failing_effect (certain : Prop) {act : α → Action Rat W Bool} {items : List α}
    (h : ∀ a ∈ items, ∀ between : Session Rat W,
      others (cloudOf session.world) (cloudOf between.world) →
        Returns ⟨provider, limit⟩ between (act a) fun _ done after =>
          (certain → done = true) ∧ others (cloudOf between.world) (cloudOf after.world)) :
    Returns ⟨provider, limit⟩ session (Teardown.failing act items) fun _ failed after =>
      (certain → failed = []) ∧ others (cloudOf session.world) (cloudOf after.world) := by
  induction items generalizing session with
  | nil => exact Returns.pure ⟨fun _ => rfl, ho.refl _⟩
  | cons a rest ih =>
    rw [Teardown.failing]
    refine (h a List.mem_cons_self session (ho.refl _)).bind ?_
    rintro _ done between ⟨hdone, hfirst⟩
    refine (ih fun b hb later hlater =>
      h b (List.mem_cons_of_mem _ hb) later (ho.trans hfirst hlater)).bind ?_
    rintro _ failed after ⟨hfailed, hrest⟩
    refine Returns.pure ⟨fun hcertain => ?_, ho.trans hfirst hrest⟩
    rw [hdone hcertain, if_pos rfl, hfailed hcertain]

theorem requestDisks_effect {ids : List ResourceId} :
    Returns ⟨provider, limit⟩ session (Teardown.requestDisks ids) fun _ _ after =>
      Leaves others (cloudOf session.world) {spot | ∃ id ∈ ids, spot = (.disk, id.place)}
        (cloudOf after.world) := by
  induction ids generalizing session with
  | nil => exact Returns.pure (by simpa using Leaves.of_others ho (ho.refl _))
  | cons id rest ih =>
    rw [Teardown.requestDisks]
    apply log_effect.bind
    rintro _ _ logged ⟨-, hworld, -⟩
    refine (delete_returns hs ho .disk id.place (by decide)).bind ?_
    rintro _ handle between hfirst
    apply ih.bind
    rintro _ jobs after hrest
    rw [hworld] at hfirst
    exact Returns.pure ((Leaves.trans ho hfirst hrest).congr fun kind place _ => by simp)

theorem isDiskMissing_effect {id : ResourceId}
    (h : (cloudOf session.world).objects .disk id.place = none) :
    Returns ⟨provider, limit⟩ session (Teardown.isDiskMissing id) fun _ missing after =>
      missing = true ∧ others (cloudOf session.world) (cloudOf after.world) := by
  refine (get_effect hs .disk id.place fun _ object _ _ => ⟨object, rfl⟩).bind ?_
  rintro _ found after ⟨hothers, hfound⟩
  cases found with
  | none => exact Returns.pure ⟨rfl, hothers⟩
  | some disk =>
    obtain ⟨object, ⟨stored, hstored, -⟩, -⟩ := hfound
    rw [(ho.shrinks hothers).absent h] at hstored
    cases hstored

theorem diskCheck_effect (ht : t.IsSound) (hlimit : 0 < limit) :
    ∃ isGone : ResourceId → Action Rat W Bool, t.diskCheckOf = .ok isGone ∧
      ∀ (id : ResourceId) (session : Session Rat W),
        (cloudOf session.world).objects .disk id.place = none →
          Returns ⟨provider, limit⟩ session (isGone id) fun _ gone after =>
            gone = true ∧ others (cloudOf session.world) (cloudOf after.world) := by
  cases hcheck : t.diskCheck with
  | none =>
    exact ⟨Teardown.isDiskMissing, by rw [Teardown.diskCheckOf, hcheck],
      fun id session h => isDiskMissing_effect hs ho h⟩
  | some e =>
    refine ⟨fun id => e.await (Teardown.isDiskMissing id), ?_, fun id session h => ?_⟩
    · rw [Teardown.diskCheckOf, hcheck]
      dsimp only
      rw [ht.diskCheck e hcheck]
      rfl
    · refine escalation_at_once hlimit fun between hworld => ?_
      rw [← hworld] at h ⊢
      exact isDiskMissing_effect hs ho h

omit hs ho in
theorem exists_diskIds {machine : View.Machine} (h : machine.IsReadable) :
    ∃ ids, Teardown.diskIds machine = .ok ids := by
  obtain ⟨ids, hids⟩ : ∃ ids, (((View.given machine.osDiskId).toList ++ machine.dataDiskIds).filter
      (· ≠ "")).mapM (fun text => ResourceId.read (.str text)) = .ok ids := by
    refine View.exists_mapM fun text htext => ?_
    rcases List.mem_append.mp (List.mem_filter.mp htext).1 with hsystem | hdata
    · obtain ⟨id, hid⟩ := h.osDisk text (Option.mem_toList.mp hsystem)
      exact ⟨id, read_eq_ok_iff.mpr hid⟩
    · obtain ⟨id, hid⟩ := h.dataDisks text hdata
      exact ⟨id, read_eq_ok_iff.mpr hid⟩
  exact ⟨ids.eraseDups, by rw [Teardown.diskIds, hids]; rfl⟩

omit hs ho in
theorem warnOf_effect {setting : Setting Rat W} {event : String} {ids : List ResourceId} :
    Returns setting session (Teardown.warnOf event ids) fun _ _ after =>
      after.world = session.world := by
  unfold Teardown.warnOf
  split
  · exact Returns.pure rfl
  · exact log_effect.mono fun _ _ _ h => h.2.1

theorem removeDisks_effect (ht : t.IsSound) (hlimit : t.departure.polls ≤ limit)
    {machine : View.Machine} (hmachine : machine.IsReadable) :
    Returns ⟨provider, limit⟩ session (t.removeDisks machine) fun _ done after =>
      done = true ∧ Leaves others (cloudOf session.world)
        {spot | spot.1 = .disk ∧ machine.HasDisk spot.2} (cloudOf after.world) := by
  have hpositive : 0 < limit := (Nat.succ_pos _).trans_le hlimit
  obtain ⟨ids, hids⟩ := exists_diskIds hmachine
  obtain ⟨isGone, hcheck, hgone⟩ := diskCheck_effect hs ho ht hpositive
  have hlisted : ∀ place, (∃ id ∈ ids, id.place = place) ↔ machine.HasDisk place := by
    intro place
    constructor
    · rintro ⟨id, hid, rfl⟩
      obtain ⟨text, htext, hread⟩ := (Teardown.mem_diskIds hids).mp hid
      exact ⟨text, htext, id, hread, rfl⟩
    · rintro ⟨text, htext, id, hread, rfl⟩
      exact ⟨id, (Teardown.mem_diskIds hids).mpr ⟨text, htext, hread⟩, rfl⟩
  unfold Teardown.removeDisks
  refine (ofExcept_effect hids).bind ?_
  rintro _ _ _ ⟨-, rfl, rfl⟩
  refine (requestDisks_effect hs ho).bind ?_
  rintro _ jobs requested hrequested
  refine (failing_effect ho True fun job _ between _ =>
    (isConfirmed_effect hs ho hpositive).mono fun _ _ _ h => ⟨fun _ => h.1, h.2⟩).bind ?_
  rintro _ unconfirmed confirmed ⟨hconfirmed, hothers⟩
  obtain rfl := hconfirmed trivial
  have hremoved := Leaves.then ho hrequested hothers
  apply warnOf_effect.bind
  rintro _ _ warned hwarned
  rw [← hwarned] at hremoved
  refine (ofExcept_effect hcheck).bind ?_
  rintro _ _ _ ⟨-, rfl, rfl⟩
  -- All deletes were requested, so none of the disks is found any more.
  have hlooking : Returns ⟨provider, limit⟩ warned
      (Teardown.failing (fun id => Teardown.checked id (isGone id)) ids) fun _ present after =>
        (False → present = []) ∧ others (cloudOf warned.world) (cloudOf after.world) := by
    refine failing_effect ho False fun id hid between hbetween => ?_
    have habsent : (cloudOf between.world).objects .disk id.place = none :=
      (ho.shrinks hbetween).absent (hremoved.absent ho ⟨id, hid, rfl⟩)
    exact (hgone id between habsent).rescue.mono fun _ _ _ h => ⟨nofun, h.2⟩
  apply hlooking.bind
  rintro _ present looked ⟨-, hlooked⟩
  apply warnOf_effect.bind
  rintro _ _ noted hnoted
  rw [← hnoted] at hlooked
  have hleaving : Returns ⟨provider, limit⟩ noted (Teardown.failing t.hasLeft ids)
      fun _ listed after =>
        (False → listed = []) ∧ others (cloudOf noted.world) (cloudOf after.world) :=
    failing_effect ho False fun id _ between _ =>
      (hasLeft_effect hs ho ht.departure_isPositive hlimit).mono fun _ _ _ h => ⟨nofun, h⟩
  apply hleaving.bind
  rintro _ listed left ⟨-, hleft⟩
  apply warnOf_effect.bind
  rintro _ _ after hworld
  refine Returns.pure ⟨rfl, ?_⟩
  rw [hworld]
  refine (Leaves.then ho (Leaves.then ho hremoved hlooked) hleft).congr fun kind place _ => ?_
  constructor
  · rintro ⟨id, hid, ⟨⟩⟩
    exact ⟨rfl, (hlisted _).mp ⟨id, hid, rfl⟩⟩
  · rintro ⟨rfl, hdisk⟩
    obtain ⟨id, hid, rfl⟩ := (hlisted _).mpr hdisk
    exact ⟨id, hid, rfl⟩

/-! ## The availability set -/

/-- The machine's set, if it was read and was ours and without machines. -/
def SetGone (key : String) (machine : View.Machine) (events : List (Event Rat)) : Set Spot :=
  {spot | spot.1 = .availabilitySet ∧ machine.HasSet spot.2 ∧
    ∃ shown, Fetched events .availabilitySet spot.2 shown ∧
      Ownership.hasTag key shown.tags = true ∧ Model.SaysNothing shown.machines}

/-- The set was fetched if there is one, as the cloud showed it. -/
structure ReadsSet (c : Cloud) (machine : View.Machine) (events : List (Event Rat)) : Prop where
  shown : ∀ {place object}, Fetched events .availabilitySet place object →
    machine.HasSet place ∧ c.Shows .availabilitySet place object
  all : ∀ {place}, machine.HasSet place → c.objects .availabilitySet place ≠ none →
    ∃ object, Fetched events .availabilitySet place object

/-- What the removal of the machine's set did to the cloud `c`. -/
structure ClearsSet (others : Cloud → Cloud → Prop) (key : String) (c : Cloud)
    (machine : View.Machine) (events : List (Event Rat)) (after : Cloud) : Prop where
  reads : IsQuiet others → ReadsSet c machine events
  gone : Leaves others c (SetGone key machine events) after

section

variable {key : String} {c d e : Cloud} {machine : View.Machine} {events : List (Event Rat)}
variable {place : Place} {object : Model.AvailabilitySet}
variable (hset : ∀ other, machine.HasSet other ↔ other = place)

omit hs

omit ho in
theorem not_hasSet (h : ∀ text, View.given machine.availabilitySetId ≠ some text) :
    ¬ machine.HasSet place := by
  intro hset
  obtain ⟨id, hid, -⟩ := names_given.mpr hset
  obtain ⟨text, htext, -⟩ := Option.bind_eq_some_iff.mp hid
  exact h text htext

theorem clearsSet_of_unset (hunset : ∀ place, ¬ machine.HasSet place) :
    ClearsSet others key c machine [] c where
  reads _ := by
    refine ⟨?_, fun hset => absurd hset (hunset _)⟩
    rintro _ _ ⟨⟩
  gone := by
    refine .of_absent ho (ho.refl _) ?_
    rintro _ _ ⟨-, hset, -⟩
    exact absurd hset (hunset _)

include hset

theorem clearsSet_of_absent (hothers : others c d)
    (habsent : d.objects .availabilitySet place = none)
    (hnone : NoneFetched events .availabilitySet) : ClearsSet others key c machine events d where
  reads hquiet := by
    refine ⟨fun hfetched => absurd hfetched (hnone _ _), fun hplace hthere => ?_⟩
    rw [(hset _).mp hplace, ← hquiet hothers] at hthere
    exact absurd habsent hthere
  gone := by
    apply Leaves.of_absent ho hothers
    rintro _ other ⟨-, -, shown, hfetched, -⟩
    exact absurd hfetched (hnone other shown)

variable (hfetched : ∀ other shown, Fetched events .availabilitySet other shown ↔
  other = place ∧ shown = object)

include hfetched

omit ho in
theorem mem_setGone {spot : Spot} :
    spot ∈ SetGone key machine events ↔ spot = (.availabilitySet, place) ∧
      Ownership.hasTag key object.tags = true ∧ Model.SaysNothing object.machines := by
  obtain ⟨kind, other⟩ := spot
  constructor
  · rintro ⟨⟨⟩, -, shown, hshown, howned⟩
    obtain ⟨rfl, rfl⟩ := (hfetched _ _).mp hshown
    exact ⟨rfl, howned⟩
  · rintro ⟨⟨⟩, howned⟩
    exact ⟨rfl, (hset _).mpr rfl, object, (hfetched _ _).mpr ⟨rfl, rfl⟩, howned⟩

omit ho in
theorem clearsSet_of_fetched (hothers : others c d) (hshows : d.Shows .availabilitySet place object)
    (hleaves : Leaves others c (SetGone key machine events) e) :
    ClearsSet others key c machine events e where
  reads hquiet := by
    rw [← hquiet hothers]
    constructor
    · intro other shown h
      obtain ⟨rfl, rfl⟩ := (hfetched _ _).mp h
      exact ⟨(hset _).mpr rfl, hshows⟩
    · intro other hother _
      exact ⟨object, (hfetched _ _).mpr ⟨(hset _).mp hother, rfl⟩⟩
  gone := hleaves

end

omit hs ho in
theorem exists_setView {c : Cloud} {place : Place} {object : Model.AvailabilitySet}
    (h : c.Shows .availabilitySet place object) :
    ∃ view, View.availabilitySet (some object) = .ok view := by
  obtain ⟨stored, -, -, hlists, -⟩ := h
  refine View.exists_availabilitySet fun item hitem => ?_
  obtain ⟨link, _, rfl, -⟩ := hlists item hitem
  exact ⟨link, rfl⟩

theorem removeAvailabilitySet_effect (hlimit : 0 < limit) {machine : View.Machine}
    (hmachine : machine.IsReadable) :
    Returns ⟨provider, limit⟩ session (t.removeAvailabilitySet machine) fun events done after =>
      done = true ∧ ClearsSet others t.ownershipTag (cloudOf session.world) machine events
        (cloudOf after.world) := by
  unfold Teardown.removeAvailabilitySet
  split
  next setId hgiven =>
    obtain ⟨id, hid⟩ := hmachine.availabilitySet setId hgiven
    have hset : ∀ place, machine.HasSet place ↔ place = id.place := by
      intro place
      rw [View.Machine.HasSet, Teardown.given_eq_some hgiven, names_some_iff hid]
    refine (ofExcept_effect (read_eq_ok_iff.mpr hid)).bind ?_
    rintro _ _ _ ⟨rfl, rfl, rfl⟩
    refine (get_effect hs .availabilitySet id.place fun _ _ _ => exists_setView).bind ?_
    rintro events found read ⟨hothers, hfound⟩
    cases found with
    | none =>
      obtain ⟨habsent, fault, rfl⟩ := hfound
      apply log_effect.bind
      rintro _ _ logged ⟨rfl, hworld, -⟩
      rw [← hworld] at hothers habsent
      refine Returns.pure ⟨rfl, clearsSet_of_absent ho hset hothers habsent ?_⟩
      simp [NoneFetched, Fetched]
    | some view =>
      obtain ⟨object, hshows, hof, rfl⟩ := hfound
      have hours := Teardown.isOrphanedSet_iff t.ownershipTag hof
      have hfirst : ∀ rest : List (Event Rat), NoneFetched rest .availabilitySet →
          ∀ other shown, Fetched ([.asked (.get .availabilitySet id.place.group id.place.name)
            (.ok (some object))] ++ rest) .availabilitySet other shown ↔
              other = id.place ∧ shown = object :=
        fun rest hrest other shown => fetched_cons hrest
      dsimp only
      split
      next hkept =>
        apply log_effect.bind
        rintro _ _ logged ⟨rfl, hworld, -⟩
        rw [← hworld] at hothers hshows
        have hfetched := hfirst [.logged ⟨.debug, "availability_set_kept",
          Teardown.aboutId id, none⟩] noneFetched_nil.logged
        refine Returns.pure ⟨rfl, clearsSet_of_fetched hset hfetched hothers hshows ?_⟩
        refine .of_absent ho hothers fun kind place hmem => ?_
        have horphaned := ((mem_setGone hset hfetched).mp hmem).2
        rw [Option.any_some, hours.mpr horphaned] at hkept
        cases hkept
      next horphaned =>
        rw [Option.any_some, Bool.not_eq_true', Bool.not_eq_false, hours] at horphaned
        apply log_effect.bind
        rintro _ _ logged ⟨rfl, hworld, -⟩
        rw [← hworld] at hothers hshows
        apply delete_confirmed hs ho hlimit .availabilitySet id.place (by decide)
        intro deleting after hdeleted hnone
        have hfetched := hfirst (.logged ⟨.debug, "deleting_orphaned_availability_set",
          Teardown.aboutId id, none⟩ :: (deleting ++ []))
            ((hnone _).append noneFetched_nil).logged
        refine Returns.pure ⟨rfl, clearsSet_of_fetched hset hfetched hothers hshows ?_⟩
        refine (hdeleted.since ho hothers).congr fun kind place _ => ?_
        refine Iff.trans ?_ (mem_setGone hset hfetched).symm
        rw [and_iff_left horphaned, Set.mem_singleton_iff]
  next hnone => exact Returns.pure ⟨rfl, clearsSet_of_unset ho fun _ => not_hasSet hnone⟩

/-! ## Networks -/

/-- The networks of the group that are ours and not in use. -/
def NetworksGone (key : String) (c : Cloud) (group : String) : Set Spot :=
  {spot | spot.1 = .virtualNetwork ∧ spot.2.group = group ∧ spot.2 ∉ c.inUse ∧
    ∃ network, c.objects .virtualNetwork spot.2 = some network ∧
      Ownership.hasTag key network.tags = true}

theorem removeNetwork_ends (ht : t.IsSound) (hlimit : t.departure.polls ≤ limit) {place : Place}
    {network : Model.Tagged} (hname : network.name = some place.name)
    (hid : Names network.id place) :
    Ends ⟨provider, limit⟩ session (t.removeNetwork place.group network) fun _ outcome after =>
      (outcome = .ok true ∧ Leaves others (cloudOf session.world)
        {spot | spot = (.virtualNetwork, place) ∧
          ¬ (cloudOf session.world).Blocks .virtualNetwork place} (cloudOf after.world)) ∨
      ∃ report, outcome = .error (.raised (.inUse report)) ∧
        (cloudOf session.world).Blocks .virtualNetwork place ∧
          others (cloudOf session.world) (cloudOf after.world) := by
  have hpositive : 0 < limit := (Nat.succ_pos _).trans_le hlimit
  obtain ⟨id, hreference⟩ := Named.exists_reference hid
  rw [Teardown.removeNetwork, hname]
  apply log_effect.before
  rintro _ _ logged ⟨-, hworld, -⟩
  rw [← hworld]
  refine Ends.bind (delete_effect hs ho .virtualNetwork place) ?_ ?_
  · rintro _ _ deleted (⟨handle, ⟨⟩, hdeleted⟩ | ⟨_, ⟨⟩, -⟩)
    refine (isConfirmed_effect hs ho hpositive).before ?_
    rintro _ _ confirmed ⟨rfl, hconfirmed⟩
    refine (ofExcept_effect hreference).before ?_
    rintro _ _ _ ⟨-, rfl, rfl⟩
    refine (hasLeft_effect hs ho ht.departure_isPositive hlimit).before ?_
    rintro _ left waited hwaited
    have hremoved := Leaves.then ho (Leaves.then ho hdeleted hconfirmed) hwaited
    cases left with
    | true => exact Ends.pure (.inl ⟨rfl, hremoved⟩)
    | false =>
      apply log_effect.before
      rintro _ _ warned ⟨-, hsame, -⟩
      rw [← hsame] at hremoved
      exact Ends.pure (.inl ⟨rfl, hremoved⟩)
  · rintro _ reason after (⟨_, ⟨⟩, -⟩ | ⟨report, ⟨⟩, hblocks, hothers⟩)
    exact .inr ⟨report, rfl, hblocks, hothers⟩

theorem tryNetwork_effect (ht : t.IsSound) (hlimit : t.departure.polls ≤ limit) {place : Place}
    {network : Model.Tagged} (hname : network.name = some place.name)
    (hid : Names network.id place) :
    Returns ⟨provider, limit⟩ session (t.tryNetwork place.group network) fun _ done after =>
      ((cloudOf session.world).inUse = ∅ → done = true) ∧ Leaves others (cloudOf session.world)
        {spot | spot = (.virtualNetwork, place) ∧ place ∉ (cloudOf session.world).inUse}
        (cloudOf after.world) := by
  refine Ends.rescue (removeNetwork_ends hs ho ht hlimit hname hid) ?_ ?_ ?_
  · rintro _ _ after (⟨⟨⟩, hleaves⟩ | ⟨_, ⟨⟩, -⟩)
    exact ⟨true, rfl, fun _ => rfl, hleaves.congr fun kind at' _ => by simp [Cloud.Blocks]⟩
  · rintro _ fault after (⟨⟨⟩, -⟩ | ⟨report, ⟨⟩, hblocks, hothers⟩)
    apply log_effect.bind
    rintro _ _ warned ⟨-, hworld, -⟩
    rw [← hworld] at hothers
    refine Returns.pure ⟨fun hfree => ?_, .of_absent ho hothers ?_⟩
    · exact absurd hblocks.2 (hfree ▸ Set.notMem_empty place)
    · rintro _ _ ⟨-, hfree⟩
      exact absurd hblocks.2 hfree
  · rintro _ after (⟨⟨⟩, -⟩ | ⟨_, ⟨⟩, -⟩)

theorem removeNetworks_effect (ht : t.IsSound) (hlimit : t.departure.polls ≤ limit) {c₀ : Cloud}
    (h₀ : c₀.Shrinks (cloudOf session.world)) {group : String} :
    Returns ⟨provider, limit⟩ session (t.removeNetworks group) fun _ done after =>
      (c₀.inUse = ∅ → done = true) ∧ Leaves others (cloudOf session.world)
        (NetworksGone t.ownershipTag c₀ group) (cloudOf after.world) := by
  unfold Teardown.removeNetworks
  refine (list_effect hs fun object => ⟨object, rfl⟩).bind ?_
  rintro _ networks listed ⟨hothers, hnetworks, hcomplete⟩
  have hsince : c₀.Shrinks (cloudOf listed.world) := h₀.trans (ho.shrinks hothers)
  have hplaced : ∀ network ∈ networks, ∃ name,
      (cloudOf listed.world).objects .virtualNetwork ⟨group, name⟩ = some network := by
    intro network hmem
    obtain ⟨name, object, ⟨stored, hstored, rfl⟩, hview⟩ := hnetworks network hmem
    obtain rfl : object = network := by injection hview
    exact ⟨name, hstored⟩
  have hall : Returns ⟨provider, limit⟩ listed (Teardown.all (t.tryNetwork group)
      (networks.filter (Ownership.isOwnedNetwork t.ownershipTag))) fun _ done after =>
        (c₀.inUse = ∅ → done = true) ∧ Leaves others (cloudOf listed.world)
          {spot | ∃ network ∈ networks.filter (Ownership.isOwnedNetwork t.ownershipTag), spot ∈
            {spot | ∃ name, network.name = some name ∧ spot = (.virtualNetwork, ⟨group, name⟩) ∧
              ⟨group, name⟩ ∉ c₀.inUse}} (cloudOf after.world) := by
    refine all_effect ho _ hsince fun network hmem between hbetween => ?_
    obtain ⟨name, hstored⟩ := hplaced network (List.mem_filter.mp hmem).1
    obtain ⟨hname, hid⟩ := (cloudOf listed.world).named _ _ _ hstored
    refine (tryNetwork_effect hs ho ht hlimit hname hid).mono ?_
    rintro _ done after ⟨hdone, hleaves⟩
    rw [hbetween.inUse] at hdone hleaves
    refine ⟨hdone, hleaves.congr fun kind at' _ => ?_⟩
    constructor
    · rintro ⟨hspot, hfree⟩
      exact ⟨name, hname, hspot, hfree⟩
    · rintro ⟨other, hother, hspot, hfree⟩
      obtain rfl : name = other := Option.some.inj (hname.symm.trans hother)
      exact ⟨hspot, hfree⟩
  apply hall.mono
  rintro _ done after ⟨hdone, hleaves⟩
  refine ⟨hdone, Leaves.widen ho (Leaves.trans ho (.of_others ho hothers) hleaves) ?_ ?_⟩
  · rw [Set.empty_union]
    rintro _ ⟨network, hmem, name, hname, rfl, hfree⟩
    obtain ⟨hlisted, howned⟩ := List.mem_filter.mp hmem
    obtain ⟨other, hstored⟩ := hplaced network hlisted
    obtain ⟨hother, -⟩ := (cloudOf listed.world).named _ _ _ hstored
    obtain rfl : name = other := Option.some.inj (hname.symm.trans hother)
    exact ⟨rfl, rfl, hfree, network, hsince.objects hstored, howned⟩
  · rintro _ ⟨group, name⟩ ⟨⟨⟩, ⟨⟩, hfree, network, hthere, howned⟩
    by_cases habsent : (cloudOf listed.world).objects .virtualNetwork ⟨group, name⟩ = none
    · exact (hleaves.shrinks ho).absent habsent
    -- A network that is still there at the listing is listed.
    obtain ⟨view, hlisted, object, ⟨stored, hstored, rfl⟩, hview⟩ := hcomplete name habsent
    obtain rfl : object = view := by injection hview
    obtain rfl : network = object := Option.some.inj (hthere.symm.trans (hsince.objects hstored))
    obtain ⟨hname, -⟩ := (cloudOf listed.world).named _ _ _ hstored
    exact hleaves.absent ho
      ⟨network, List.mem_filter.mpr ⟨hlisted, howned⟩, name, hname, rfl, hfree⟩

end

end Reclaim
