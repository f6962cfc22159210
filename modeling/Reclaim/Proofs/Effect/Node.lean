import Reclaim.Proofs.Effect.Leftovers
import Reclaim.Proofs.Cascade.Ending

/-!
# A node leaves the cloud

What the teardown of a node removes, given what it fetched on the way. Others may erode the cloud
all the while.
-/

namespace Reclaim

open Reclaim.Action

variable {W : Type} {provider : Provider Rat W} {others : Cloud → Cloud → Prop}
variable {cloudOf : W → Cloud} {limit : Nat} {session : Session Rat W}

def NodeId.place (node : NodeId) : Place := ⟨node.group, node.name⟩

/-! ## Sets that show fewer machines -/

theorem Cloud.refers_without {c : Cloud} {gone : Set Spot} {place set : Place} :
    (c.without gone).Refers place set ↔ c.Refers place set ∧ (.virtualMachine, place) ∉ gone := by
  by_cases hgone : (.virtualMachine, place) ∈ gone
  · simp [Refers, without_of_mem hgone, hgone]
  · simp [Refers, without_of_notMem hgone, hgone]

theorem Cloud.ListsMachines.saysNothing_iff {c : Cloud} {set : Place}
    {links : Option (List (Option Link))} (h : c.ListsMachines set links) :
    Model.SaysNothing links ↔ ∀ place, ¬ c.Refers place set := by
  obtain ⟨hlists, hcomplete⟩ := h
  constructor
  · intro hnothing place hrefers
    obtain ⟨link, hlink, hnames⟩ := hcomplete place hrefers
    obtain ⟨id, hid, -⟩ := names_given.mpr hnames
    rw [hnothing link hlink] at hid
    cases hid
  · intro hnone link hlink
    obtain ⟨_, place, -, -, hrefers⟩ := hlists _ hlink
    exact absurd hrefers (hnone place)

theorem Cloud.Shows.of_without {c : Cloud} {gone : Set Spot} {place : Place}
    {object : Model.AvailabilitySet} (h : (c.without gone).Shows .availabilitySet place object)
    (hgone : ∀ spot ∈ gone, spot.1 ≠ .virtualMachine) : c.Shows .availabilitySet place object := by
  obtain ⟨stored, hstored, hobject, hlists, hcomplete⟩ := h
  have hrefers : ∀ at', (c.without gone).Refers at' place ↔ c.Refers at' place := by
    intro at'
    rw [refers_without, and_iff_left]
    exact fun hmem => hgone _ hmem rfl
  refine ⟨stored, shrinks_without.objects hstored, hobject, fun item hitem => ?_, fun at' h => ?_⟩
  · obtain ⟨link, at', hlink, hnames, h⟩ := hlists item hitem
    exact ⟨link, at', hlink, hnames, (hrefers at').mp h⟩
  · exact hcomplete at' ((hrefers at').mpr h)

variable (hs : provider.Serves others cloudOf) (ho : IsErosion others) {t : Teardown Rat}

include hs ho

/-! ## The machine -/

theorem machine_of_answer (place : Place) {machine : Model.Machine}
    (hfirst : (provider.answer (.get .virtualMachine place.group place.name) session.world).1 =
      .ok (some machine)) :
    (cloudOf session.world).objects .virtualMachine place = some machine := by
  obtain ⟨found, hothers, ⟨-, hgets⟩, -⟩ :=
    hs (.get .virtualMachine place.group place.name) session.world
  rw [hfirst] at hgets
  obtain ⟨_, ⟨⟩, stored, hstored, rfl⟩ := hgets
  exact (ho.shrinks hothers).objects hstored

omit ho in
theorem getMachine_effect (place : Place) {machine : Model.Machine} {view : View.Machine}
    (hview : View.machine (some machine) = .ok view)
    (hfirst : (provider.answer (.get .virtualMachine place.group place.name) session.world).1 =
      .ok (some machine)) :
    Returns ⟨provider, limit⟩ session (Access.get .virtualMachine place.group place.name)
      fun events found after => found = some view ∧
        events = [.asked (.get .virtualMachine place.group place.name) (.ok (some machine))] ∧
          others (cloudOf session.world) (cloudOf after.world) := by
  have hask : Returns ⟨provider, limit⟩ session (ask (.get .virtualMachine place.group place.name))
      fun events reply after => reply = .ok (some machine) ∧
        events = [.asked (.get .virtualMachine place.group place.name) reply] ∧
          others (cloudOf session.world) (cloudOf after.world) := by
    obtain ⟨found, hothers, ⟨hafter, -⟩, -⟩ :=
      hs (.get .virtualMachine place.group place.name) session.world
    rw [← hafter] at hothers
    refine Ends.ask fun reply elapsed world hanswer => ⟨reply, rfl, ?_, rfl, ?_⟩
    · rw [← hfirst, hanswer]
    · rw [hanswer] at hothers
      exact hothers
  unfold Access.get
  apply hask.bind
  rintro _ _ after ⟨rfl, rfl, hothers⟩
  dsimp only
  refine (ofExcept_effect hview).bind ?_
  rintro _ _ _ ⟨rfl, rfl, rfl⟩
  exact Returns.pure ⟨rfl, rfl, hothers⟩

theorem removeMachine_effect (ht : t.IsSound) (hlimit : t.departure.polls ≤ limit) {place : Place}
    {machine : View.Machine} (hname : machine.name = some place.name)
    (hid : Names machine.id place) :
    Returns ⟨provider, limit⟩ session (t.removeMachine place.group machine) fun _ verdict after =>
      verdict = true ∧ Leaves others (cloudOf session.world) {(.virtualMachine, place)}
        (cloudOf after.world) := by
  have hpositive : 0 < limit := (Nat.succ_pos _).trans_le hlimit
  obtain ⟨id, hreference⟩ := Named.exists_reference hid
  rw [Teardown.removeMachine, hname]
  refine delete_confirmed hs ho hpositive .virtualMachine place (by decide)
    fun _ deleted hdeleted _ => ?_
  refine (ofExcept_effect hreference).bind ?_
  rintro _ _ _ ⟨-, rfl, rfl⟩
  refine (hasLeft_effect hs ho ht.departure_isPositive hlimit).bind ?_
  rintro _ left waited hwaited
  have hremoved := hdeleted.then ho hwaited
  cases left with
  | true => exact Returns.pure ⟨rfl, hremoved⟩
  | false =>
    apply log_effect.bind
    rintro _ _ warned ⟨-, hworld, -⟩
    rw [← hworld] at hremoved
    exact Returns.pure ⟨rfl, hremoved⟩

/-! ## The stages -/

def Stage.kinds : Stage → List Kind
  | interfaces => [.networkInterface, .publicIp]
  | disks => [.disk]
  | availabilitySet => [.availabilitySet]
  | networks => []

omit hs ho in
theorem perform_fetches {group : String} {machine : View.Machine} {stage : Stage} :
    Always (Limits stage.kinds fun _ _ => True) []
      (t.perform group machine stage : Action Rat W Bool) := by
  cases stage with
  | interfaces => exact Teardown.removeInterfaces_keeps covers_everything
  | disks => exact Teardown.removeDisks_keeps covers_everything
  | availabilitySet => exact Teardown.removeAvailabilitySet_keeps covers_everything
  | networks => exact Teardown.removeNetworks_keeps fun _ _ _ _ _ _ _ _ => trivial

omit hs ho in
theorem tryStage_effect {setting : Setting Rat W} {node : NodeId} {machine : View.Machine}
    {stage : Stage} {post : List (Event Rat) → Bool → Session Rat W → Prop}
    (h : Returns setting session (t.perform node.group machine stage) post) :
    Returns setting session (t.tryStage node machine stage) fun events _ after =>
      (∃ performed done between, post performed done between ∧ between.world = after.world ∧
        (∀ kind, Fetched events kind = Fetched performed kind) ∧
          (done = true → reports events = [])) ∧
      ∀ kind, kind ∉ stage.kinds → NoneFetched events kind := by
  have hsilent := (h.and perform_silent).fetchingOnly stage.kinds perform_fetches
  unfold Teardown.tryStage
  apply hsilent.rescue.bind
  rintro performed done between ⟨⟨hpost, hreports⟩, hfetched⟩
  cases done with
  | true =>
    rw [if_neg (by nofun)]
    refine Returns.pure ⟨⟨performed, true, between, hpost, rfl, fun kind => ?_, fun _ => ?_⟩, ?_⟩
    · rw [List.append_nil]
    · rw [List.append_nil, hreports]
    · rw [List.append_nil]
      exact hfetched
  | false =>
    apply log_effect.mono
    rintro _ _ after ⟨rfl, hworld, -⟩
    refine ⟨⟨performed, false, between, hpost, hworld.symm, fun kind => ?_, nofun⟩, ?_⟩
    · exact noneFetched_nil.logged.append_right
    · exact fun kind hkind => (hfetched kind hkind).append noneFetched_nil.logged

/-! ## All stages -/

/-- What the stages remove, given what they fetched. -/
def StagesGone (t : Teardown Rat) (c : Cloud) (group : String) (machine : View.Machine)
    (events : List (Event Rat)) : Set Spot :=
  InterfacesGone t.generatedTag c {place | machine.HasInterface place} events ∪
    {spot | spot.1 = .disk ∧ machine.HasDisk spot.2} ∪
      SetGone t.ownershipTag machine events ∪ NetworksGone t.ownershipTag c group

/-- What the stages did to the cloud `c`, which once was `c₀`. -/
structure Cleared (t : Teardown Rat) (others : Cloud → Cloud → Prop) (c₀ c : Cloud)
    (group : String) (machine : View.Machine) (events : List (Event Rat)) (after : Cloud) :
    Prop where
  interfaces : IsQuiet others → ReadsInterfaces c {place | machine.HasInterface place} events
  set : IsQuiet others → ReadsSet c machine events
  gone : Leaves others c (StagesGone t c₀ group machine events) after
  silent : c₀.inUse = ∅ → reports events = []

section

variable {c₀ c d after : Cloud} {group : String} {machine : View.Machine}
variable {events more : List (Event Rat)}

omit hs

omit ho in
theorem Cleared.congr (h : Cleared t others c₀ c group machine events after)
    (hfetched : ∀ kind ≠ .virtualMachine, Fetched more kind = Fetched events kind)
    (hreports : reports more = reports events) :
    Cleared t others c₀ c group machine more after := by
  have hnic := hfetched .networkInterface (by decide)
  have hset := hfetched .availabilitySet (by decide)
  refine ⟨fun hquiet => ?_, fun hquiet => ⟨?_, ?_⟩, ?_, ?_⟩
  · rw [ReadsInterfaces, hnic]
    exact h.interfaces hquiet
  · rw [hset]
    exact (h.set hquiet).shown
  · rw [hset]
    exact (h.set hquiet).all
  · rw [StagesGone, InterfacesGone, SetGone, hnic, hset]
    exact h.gone
  · rw [hreports]
    exact h.silent

theorem Cleared.since (h : Cleared t others c₀ d group machine events after)
    (hbefore : others c d) : Cleared t others c₀ c group machine events after where
  interfaces hquiet := hquiet hbefore ▸ h.interfaces hquiet
  set hquiet := hquiet hbefore ▸ h.set hquiet
  gone := h.gone.since ho hbefore
  silent := h.silent

end

theorem stages_effect (ht : t.IsSound) (hlimit : t.departure.polls ≤ limit) {c₀ : Cloud}
    (h₀ : c₀.Shrinks (cloudOf session.world)) {node : NodeId} {machine : View.Machine}
    (hmachine : machine.IsReadable) (hinterfaces : ∀ place nic, machine.HasInterface place →
      c₀.objects .networkInterface place = some nic → nic.IsReadable) :
    Returns ⟨provider, limit⟩ session (Stage.sequence.forM (t.tryStage node machine))
      fun events _ after => Cleared t others c₀ (cloudOf session.world) node.group machine events
        (cloudOf after.world) := by
  have hpositive : 0 < limit := (Nat.succ_pos _).trans_le hlimit
  have hfirst : Returns ⟨provider, limit⟩ session (t.perform node.group machine .interfaces) _ :=
    interfaces_effect hs ho hpositive h₀ hmachine.interfaces hinterfaces
  refine (tryStage_effect hfirst).bind ?_
  rintro e₁ _ s₁ ⟨⟨p₁, _, b₁, ⟨rfl, hreads, h₁⟩, hworld₁, hfetch₁, hreports₁⟩, hnone₁⟩
  rw [hworld₁] at h₁
  have hsecond : Returns ⟨provider, limit⟩ s₁ (t.perform node.group machine .disks) _ :=
    removeDisks_effect hs ho ht hlimit hmachine
  refine (tryStage_effect hsecond).bind ?_
  rintro e₂ _ s₂ ⟨⟨p₂, _, b₂, ⟨rfl, h₂⟩, hworld₂, -, hreports₂⟩, hnone₂⟩
  rw [hworld₂] at h₂
  have hthird : Returns ⟨provider, limit⟩ s₂ (t.perform node.group machine .availabilitySet) _ :=
    removeAvailabilitySet_effect hs ho hpositive hmachine
  refine (tryStage_effect hthird).bind ?_
  rintro e₃ _ s₃ ⟨⟨p₃, _, b₃, ⟨rfl, hset, h₃⟩, hworld₃, hfetch₃, hreports₃⟩, hnone₃⟩
  rw [hworld₃] at h₃
  have hshrinks : c₀.Shrinks (cloudOf s₃.world) :=
    ((h₀.trans (h₁.shrinks ho)).trans (h₂.shrinks ho)).trans (h₃.shrinks ho)
  have hfourth : Returns ⟨provider, limit⟩ s₃ (t.perform node.group machine .networks) _ :=
    removeNetworks_effect hs ho ht hlimit hshrinks
  refine (tryStage_effect hfourth).bind ?_
  rintro e₄ _ s₄ ⟨⟨p₄, done, b₄, ⟨hdone, h₄⟩, hworld₄, -, hreports₄⟩, hnone₄⟩
  rw [hworld₄] at h₄
  have hnic : Fetched (e₁ ++ (e₂ ++ (e₃ ++ (e₄ ++ [])))) .networkInterface =
      Fetched p₁ .networkInterface := by
    rw [NoneFetched.append_right, hfetch₁]
    exact (hnone₂ _ (by decide)).append
      ((hnone₃ _ (by decide)).append ((hnone₄ _ (by decide)).append noneFetched_nil))
  have hsets : Fetched (e₁ ++ (e₂ ++ (e₃ ++ (e₄ ++ [])))) .availabilitySet =
      Fetched p₃ .availabilitySet := by
    rw [(hnone₁ _ (by decide)).append_left, (hnone₂ _ (by decide)).append_left,
      NoneFetched.append_right, hfetch₃]
    exact (hnone₄ _ (by decide)).append noneFetched_nil
  -- When the set is read, neither it nor a machine was removed by the stages.
  have hbefore := Leaves.trans ho h₁ h₂
  have hapart : ∀ spot ∈ InterfacesGone t.generatedTag c₀ {place | machine.HasInterface place} p₁ ∪
      {spot | spot.1 = .disk ∧ machine.HasDisk spot.2},
        spot.1 ≠ .virtualMachine ∧ spot.1 ≠ .availabilitySet := by
    rintro ⟨kind, place⟩ ((⟨⟨⟩, -⟩ | ⟨⟨⟩, -⟩) | ⟨⟨⟩, -⟩) <;> exact ⟨by simp, by simp⟩
  refine Returns.pure ⟨fun hquiet => ?_, fun hquiet => ⟨?_, ?_⟩, ?_, fun hfree => ?_⟩
  · intro place nic
    rw [hnic]
    exact hreads hquiet place nic
  · intro place object hfetched
    rw [hsets] at hfetched
    obtain ⟨hplace, hshows⟩ := (hset hquiet).shown hfetched
    rw [hquiet hbefore] at hshows
    exact ⟨hplace, hshows.of_without fun spot hspot => (hapart spot hspot).1⟩
  · intro place hplace hthere
    rw [hsets]
    refine (hset hquiet).all hplace ?_
    rw [hquiet hbefore, Cloud.without_of_notMem]
    · exact hthere
    · exact fun hmem => (hapart _ hmem).2 rfl
  · have hleaves := Leaves.trans ho (Leaves.trans ho hbefore h₃) h₄
    rw [StagesGone, InterfacesGone, SetGone, hnic, hsets]
    exact hleaves
  · simp [reports_append, hreports₁, hreports₂, hreports₃, hreports₄ (hdone hfree)]

/-! ## The whole teardown -/

theorem removeNode_effect (ht : t.IsSound) (hlimit : t.departure.polls ≤ limit) {token : Value}
    {node : NodeId} (hnode : NodeId.read token = .ok node) {machine : Model.Machine}
    {view : View.Machine} (hview : View.machine (some machine) = .ok view)
    (hfirst : (provider.answer (.get .virtualMachine node.group node.name) session.world).1 =
      .ok (some machine))
    (hreadable : view.IsReadable) (hinterfaces : ∀ place nic, view.HasInterface place →
      (cloudOf session.world).objects .networkInterface place = some nic → nic.IsReadable) :
    Returns ⟨provider, limit⟩ session (t.removeNode token) fun events verdict after =>
      verdict = true ∧ Cleared t others (cloudOf session.world)
        ((cloudOf session.world).without {(.virtualMachine, node.place)}) node.group view events
        (cloudOf after.world) := by
  have hpresent := machine_of_answer hs ho node.place hfirst
  obtain ⟨hname, hid⟩ := (cloudOf session.world).named _ _ _ hpresent
  rw [Kind.named, ← View.machine_toNamed hview] at hname hid
  unfold Teardown.removeNode
  refine (ofExcept_effect hnode).bind ?_
  rintro _ _ _ ⟨rfl, rfl, rfl⟩
  refine (getMachine_effect hs node.place hview hfirst).bind ?_
  rintro _ _ read ⟨rfl, rfl, hothers⟩
  apply log_effect.bind
  rintro _ _ logged ⟨rfl, hworld, -⟩
  rw [← hworld] at hothers
  refine (((removeMachine_effect hs ho ht hlimit hname hid).and
    removeMachine_silent).fetchingOnly []
      (Teardown.removeMachine_keeps fun _ _ => trivial)).bind ?_
  rintro removing _ removed ⟨⟨⟨rfl, hremoved⟩, hreports⟩, hnone⟩
  have hgone := hremoved.since ho hothers
  refine (stages_effect hs ho ht hlimit (hgone.shrinks ho) hreadable hinterfaces).bind ?_
  rintro events _ staged hcleared
  apply log_effect.bind
  rintro _ _ after ⟨rfl, hsame, -⟩
  rw [← hsame] at hcleared
  refine Returns.pure ⟨rfl, (hcleared.since ho hgone).congr (fun kind hkind => ?_) ?_⟩
  · -- But for the machine itself, only the stages read anything.
    rw [List.nil_append, (noneFetched_asked hkind).append_left, noneFetched_nil.logged.append_left,
      (hnone kind (List.not_mem_nil)).append_left, NoneFetched.append_right]
    exact noneFetched_nil.logged.append noneFetched_nil
  · simp only [reports_append, hreports]
    simp [reports, Event.report?, Stage.reportWords]

/-! ## In terms of the machine -/

/-- What is gone after a teardown with these events, whoever removed it. Of the public IPs and the
availability set only what was fetched tells. -/
inductive Due (t : Teardown Rat) (c : Cloud) (node : NodeId) (machine : Model.Machine)
    (events : List (Event Rat)) : Spot → Prop
  | machine : Due t c node machine events (.virtualMachine, node.place)
  | interface {place : Place} (hlisted : machine.HasInterface place) :
      Due t c node machine events (.networkInterface, place)
  | publicIp {place at' : Place} {nic : Model.Interface}
      (hfetched : Fetched events .networkInterface at' nic) (hip : nic.HasIp place)
      (hgenerated : c.HasGenerated t.generatedTag place) :
      Due t c node machine events (.publicIp, place)
  | disk {place : Place} (hdisk : machine.HasDisk place) :
      Due t c node machine events (.disk, place)
  | availabilitySet {place : Place} {shown : Model.AvailabilitySet}
      (hplace : machine.HasSet place) (hfetched : Fetched events .availabilitySet place shown)
      (howned : Ownership.hasTag t.ownershipTag shown.tags = true)
      (hempty : Model.SaysNothing shown.machines) :
      Due t c node machine events (.availabilitySet, place)
  | network {place : Place} {network : Model.Tagged} (hgroup : place.group = node.group)
      (hnetwork : c.objects .virtualNetwork place = some network)
      (howned : Ownership.hasTag t.ownershipTag network.tags = true) (hfree : place ∉ c.inUse) :
      Due t c node machine events (.virtualNetwork, place)

omit hs ho in
theorem gone_eq_due {c : Cloud} {node : NodeId} {machine : Model.Machine} {view : View.Machine}
    {events : List (Event Rat)} (hview : View.machine (some machine) = .ok view) :
    {(.virtualMachine, node.place)} ∪ StagesGone t c node.group view events =
      {spot | Due t c node machine events spot} := by
  ext ⟨kind, place⟩
  constructor
  · rintro (⟨⟨⟩⟩ | ((((⟨⟨⟩, hlisted⟩ | ⟨⟨⟩, hgenerated, at', nic, hfetched, hip⟩) | ⟨⟨⟩, hdisk⟩) |
      ⟨⟨⟩, hplace, shown, hfetched, howned, hempty⟩) |
      ⟨⟨⟩, hgroup, hfree, network, hnetwork, howned⟩))
    · exact .machine
    · exact .interface ((View.machine_hasInterface hview).mp hlisted)
    · exact .publicIp hfetched hip hgenerated
    · exact .disk ((View.machine_hasDisk hview).mp hdisk)
    · exact .availabilitySet ((View.machine_hasSet hview).mp hplace) hfetched howned hempty
    · exact .network hgroup hnetwork howned hfree
  · intro hdue
    cases hdue with
    | machine => exact .inl rfl
    | interface hlisted =>
      exact .inr (.inl (.inl (.inl (.inl ⟨rfl, (View.machine_hasInterface hview).mpr hlisted⟩))))
    | publicIp hfetched hip hgenerated =>
      exact .inr (.inl (.inl (.inl (.inr ⟨rfl, hgenerated, _, _, hfetched, hip⟩))))
    | disk hdisk => exact .inr (.inl (.inl (.inr ⟨rfl, (View.machine_hasDisk hview).mpr hdisk⟩)))
    | availabilitySet hplace hfetched howned hempty =>
      have hlisted := (View.machine_hasSet hview).mpr hplace
      exact .inr (.inl (.inr ⟨rfl, hlisted, _, hfetched, howned, hempty⟩))
    | network hgroup hnetwork howned hfree =>
      exact .inr (.inr ⟨rfl, hgroup, hfree, _, hnetwork, howned⟩)

/-- The teardown of a node whose machine is found removes all that is due, and nothing else. -/
theorem removeNode_leaves (ht : t.IsSound) (hlimit : t.departure.polls ≤ limit) {token : Value}
    {node : NodeId} (hnode : NodeId.read token = .ok node) {machine : Model.Machine}
    (hfirst : (provider.answer (.get .virtualMachine node.group node.name) session.world).1 =
      .ok (some machine))
    (hreadable : machine.IsReadable) (hinterfaces : ∀ place nic, machine.HasInterface place →
      (cloudOf session.world).objects .networkInterface place = some nic → nic.IsReadable) :
    ∃ after events view, (t.removeNode token).run ⟨provider, limit⟩ session = .ok true after ∧
      after.trace.toList = session.trace.toList ++ events ∧
        View.machine (some machine) = .ok view ∧
          Cleared t others (cloudOf session.world)
            ((cloudOf session.world).without {(.virtualMachine, node.place)}) node.group view events
            (cloudOf after.world) ∧
          Leaves others (cloudOf session.world)
            {spot | Due t (cloudOf session.world) node machine events spot}
            (cloudOf after.world) := by
  obtain ⟨view, hview, hread⟩ := View.exists_machine hreadable
  have heffect := removeNode_effect hs ho ht hlimit hnode hview hfirst hread
    fun place nic hlisted => hinterfaces place nic ((View.machine_hasInterface hview).mp hlisted)
  obtain ⟨events, _, after, hrun, htrace, rfl, hcleared⟩ := heffect.run_eq
  refine ⟨after, events, view, hrun, htrace, hview, hcleared, ?_⟩
  have hgone := hcleared.gone
  rw [Leaves, Cloud.without_union, gone_eq_due hview] at hgone
  exact hgone

end Reclaim
