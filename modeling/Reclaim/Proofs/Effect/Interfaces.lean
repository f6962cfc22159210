import Reclaim.Proofs.Effect.Waiting
import Reclaim.Proofs.Stages

/-!
# Interfaces and their public IPs leave the cloud

All listed interfaces are gone afterwards, and so are the generated IPs of those that could be read.
-/

namespace Reclaim

open Reclaim.Action

variable {W α : Type} {provider : Provider Rat W} {others : Cloud → Cloud → Prop}
variable {cloudOf : W → Cloud} {limit : Nat} {session : Session Rat W}

/-- The trackers pass the checks that they are made with. -/
structure Teardown.IsSound (t : Teardown Rat) : Prop where
  departure : Patience.make t.departure.timeout t.departure.period = .ok t.departure
  diskCheck : ∀ e, t.diskCheck = some e → e.checked = .ok e

theorem Teardown.IsSound.departure_isPositive {t : Teardown Rat} (h : t.IsSound) :
    t.departure.IsPositive :=
  (Patience.make_eq_ok h.departure).2

def Cloud.HasGenerated (c : Cloud) (key : String) (place : Place) : Prop :=
  ∃ ip, c.objects .publicIp place = some ip ∧ Ownership.isGenerated key ip = true

section

variable (hs : provider.Serves others cloudOf) (ho : IsErosion others) {t : Teardown Rat}
variable (hlimit : 0 < limit) {c₀ : Cloud} (h₀ : c₀.Shrinks (cloudOf session.world))

include hs ho

/-! ## Each of a list -/

omit hs in
theorem all_effect (certain : Prop) {act : α → Action Rat W Bool} {items : List α}
    {gone : α → Set Spot} (h₀ : c₀.Shrinks (cloudOf session.world))
    (h : ∀ a ∈ items, ∀ between : Session Rat W, c₀.Shrinks (cloudOf between.world) →
      Returns ⟨provider, limit⟩ between (act a) fun _ done after =>
        (certain → done = true) ∧
          Leaves others (cloudOf between.world) (gone a) (cloudOf after.world)) :
    Returns ⟨provider, limit⟩ session (Teardown.all act items) fun _ done after =>
      (certain → done = true) ∧ Leaves others (cloudOf session.world)
        {spot | ∃ a ∈ items, spot ∈ gone a} (cloudOf after.world) := by
  induction items generalizing session with
  | nil =>
    refine Returns.pure ⟨fun _ => rfl, ?_⟩
    simpa using Leaves.of_others ho (ho.refl _)
  | cons a rest ih =>
    rw [Teardown.all]
    refine (h a List.mem_cons_self session h₀).bind ?_
    rintro _ done between ⟨hdone, hfirst⟩
    refine (ih (h₀.trans (hfirst.shrinks ho))
      fun b hb => h b (List.mem_cons_of_mem _ hb)).bind ?_
    rintro _ finished after ⟨hfinished, hrest⟩
    refine Returns.pure ⟨fun hcertain => by rw [hdone hcertain, hfinished hcertain]; rfl, ?_⟩
    refine (Leaves.trans ho hfirst hrest).congr fun kind place _ => ?_
    simp

/-! ## Public IPs -/

include hlimit h₀

theorem removePublicIp_effect {id : ResourceId} :
    Returns ⟨provider, limit⟩ session (t.removePublicIp id) fun _ done after =>
      done = true ∧ Leaves others (cloudOf session.world)
        {spot | spot = (.publicIp, id.place) ∧ c₀.HasGenerated t.generatedTag id.place}
        (cloudOf after.world) := by
  unfold Teardown.removePublicIp
  refine (get_effect hs .publicIp id.place fun _ object _ _ => ⟨object, rfl⟩).bind ?_
  rintro _ found read ⟨hothers, hfound⟩
  cases found with
  | none =>
    apply log_effect.bind
    rintro _ _ logged ⟨-, hworld, -⟩
    rw [← hworld] at hothers hfound
    refine Returns.pure ⟨rfl, .of_absent ho hothers ?_⟩
    rintro _ _ ⟨⟨⟩, -⟩
    exact hfound.1
  | some ip =>
    obtain ⟨object, ⟨stored, hstored, rfl⟩, hview, -⟩ := hfound
    obtain rfl : object = ip := by injection hview
    have hthere : c₀.objects .publicIp id.place = some object :=
      (h₀.trans (ho.shrinks hothers)).objects hstored
    dsimp only
    split
    next hnot =>
      apply log_effect.bind
      rintro _ _ logged ⟨-, hworld, -⟩
      rw [← hworld] at hothers
      refine Returns.pure ⟨rfl, .of_absent ho hothers ?_⟩
      rintro _ _ ⟨-, other, hother, hgenerated⟩
      obtain rfl : object = other := Option.some.inj (hthere.symm.trans hother)
      rw [hgenerated] at hnot
      cases hnot
    next hgenerated =>
      apply log_effect.bind
      rintro _ _ logged ⟨-, hworld, -⟩
      rw [← hworld] at hothers
      refine delete_confirmed hs ho hlimit .publicIp id.place (by decide)
        fun _ after hdeleted _ => ?_
      refine Returns.pure ⟨rfl, ?_⟩
      have hleaves := hdeleted.since ho hothers
      refine hleaves.congr fun kind place _ => ?_
      have hc : c₀.HasGenerated t.generatedTag id.place :=
        ⟨object, hthere, by simpa using hgenerated⟩
      simp [hc]

theorem tryPublicIp_effect {id : ResourceId} :
    Returns ⟨provider, limit⟩ session (t.tryPublicIp id) fun _ done after =>
      done = true ∧ Leaves others (cloudOf session.world)
        {spot | spot = (.publicIp, id.place) ∧ c₀.HasGenerated t.generatedTag id.place}
        (cloudOf after.world) :=
  (removePublicIp_effect hs ho hlimit h₀).rescue

theorem publicIps_effect {ids : List ResourceId} :
    Returns ⟨provider, limit⟩ session (Teardown.all t.tryPublicIp ids) fun events done after =>
      (done = true ∧ Leaves others (cloudOf session.world)
        {spot | ∃ id ∈ ids, spot = (.publicIp, id.place) ∧ c₀.HasGenerated t.generatedTag id.place}
        (cloudOf after.world)) ∧ NoneFetched events .networkInterface := by
  have hall : Returns ⟨provider, limit⟩ session (Teardown.all t.tryPublicIp ids)
      fun _ done after => (True → done = true) ∧ Leaves others (cloudOf session.world)
        {spot | ∃ id ∈ ids, spot ∈ {spot | spot = ((.publicIp, id.place) : Spot) ∧
          c₀.HasGenerated t.generatedTag id.place}} (cloudOf after.world) :=
    all_effect ho True h₀ fun id _ between hbetween =>
      (tryPublicIp_effect hs ho hlimit hbetween).mono fun _ _ _ h => ⟨fun _ => h.1, h.2⟩
  refine (hall.fetchingOnly [.publicIp] ?_).mono ?_
  · exact Teardown.all_keeps fun _ _ _ => Teardown.tryPublicIp_keeps fun _ _ _ _ _ _ _ => trivial
  · rintro events done after ⟨⟨hdone, hleaves⟩, hfetched⟩
    exact ⟨⟨hdone trivial, hleaves⟩, hfetched _ (by simp)⟩

/-! ## Interfaces -/

/-- What the removal of interfaces at these places removes, given which of them could be read. -/
def InterfacesGone (key : String) (c : Cloud) (listed : Set Place) (events : List (Event Rat)) :
    Set Spot :=
  {spot | spot.1 = .networkInterface ∧ spot.2 ∈ listed ∨
    spot.1 = .publicIp ∧ c.HasGenerated key spot.2 ∧
      ∃ place nic, Fetched events .networkInterface place nic ∧ nic.HasIp spot.2}

omit hs ho hlimit h₀ in
theorem interfacesGone_append {key : String} {c : Cloud} {listed more : Set Place}
    {events later : List (Event Rat)} :
    InterfacesGone key c (listed ∪ more) (events ++ later) =
      InterfacesGone key c listed events ∪ InterfacesGone key c more later := by
  ext spot
  constructor
  · rintro (⟨hkind, hlisted | hmore⟩ | ⟨hkind, hgenerated, place, nic, hfetched, hip⟩)
    · exact .inl (.inl ⟨hkind, hlisted⟩)
    · exact .inr (.inl ⟨hkind, hmore⟩)
    · rcases fetched_append.mp hfetched with h | h
      · exact .inl (.inr ⟨hkind, hgenerated, place, nic, h, hip⟩)
      · exact .inr (.inr ⟨hkind, hgenerated, place, nic, h, hip⟩)
  · rintro ((⟨hkind, hlisted⟩ | ⟨hkind, hgenerated, place, nic, hfetched, hip⟩) |
      (⟨hkind, hlisted⟩ | ⟨hkind, hgenerated, place, nic, hfetched, hip⟩))
    · exact .inl ⟨hkind, .inl hlisted⟩
    · exact .inr ⟨hkind, hgenerated, place, nic, fetched_append.mpr (.inl hfetched), hip⟩
    · exact .inl ⟨hkind, .inr hlisted⟩
    · exact .inr ⟨hkind, hgenerated, place, nic, fetched_append.mpr (.inr hfetched), hip⟩

/-- The listed interfaces that there are were fetched, and no others. -/
def ReadsInterfaces (c : Cloud) (listed : Set Place) (events : List (Event Rat)) : Prop :=
  ∀ place nic, Fetched events .networkInterface place nic ↔
    place ∈ listed ∧ c.objects .networkInterface place = some nic

/-- What the removal of the listed interfaces did to the cloud `c`, which once was `c₀`. -/
structure ClearsInterfaces (others : Cloud → Cloud → Prop) (key : String) (c₀ c : Cloud)
    (listed : Set Place) (events : List (Event Rat)) (after : Cloud) : Prop where
  reads : IsQuiet others → ReadsInterfaces c listed events
  gone : Leaves others c (InterfacesGone key c₀ listed events) after

section

variable {key : String} {c d e : Cloud} {listed more : Set Place} {place : Place}
variable {events later : List (Event Rat)}

omit hs hlimit h₀

theorem clearsInterfaces_of_absent (hothers : others c d)
    (habsent : d.objects .networkInterface place = none)
    (hnone : NoneFetched events .networkInterface) :
    ClearsInterfaces others key c₀ c {place} events d where
  reads hquiet other nic := by
    refine ⟨fun hfetched => absurd hfetched (hnone other nic), ?_⟩
    rintro ⟨rfl, hthere⟩
    rw [hquiet hothers, hthere] at habsent
    cases habsent
  gone := by
    apply Leaves.of_absent ho hothers
    rintro kind other (⟨⟨⟩, hlisted⟩ | ⟨-, -, at', nic, hfetched, -⟩)
    · obtain rfl : other = place := hlisted
      exact habsent
    · exact absurd hfetched (hnone at' nic)

omit ho in
theorem clearsInterfaces_of_fetched {object : Model.Interface} (hothers : others c d)
    (hstored : d.objects .networkInterface place = some object)
    (hfetched : ∀ other nic, Fetched events .networkInterface other nic ↔
      other = place ∧ nic = object)
    (hleaves : Leaves others c ({(.networkInterface, place)} ∪
      {spot | spot.1 = .publicIp ∧ c₀.HasGenerated key spot.2 ∧ object.HasIp spot.2}) e) :
    ClearsInterfaces others key c₀ c {place} events e where
  reads hquiet other nic := by
    rw [hfetched, ← hquiet hothers]
    refine and_congr_right fun hplace => ?_
    rw [hplace, hstored, Option.some.injEq, eq_comm]
  gone := by
    refine hleaves.congr fun kind other _ => or_congr (by simp) ?_
    constructor
    · rintro ⟨hkind, hgenerated, hip⟩
      exact ⟨hkind, hgenerated, place, object, (hfetched _ _).mpr ⟨rfl, rfl⟩, hip⟩
    · rintro ⟨hkind, hgenerated, at', nic, hnic, hip⟩
      obtain ⟨rfl, rfl⟩ := (hfetched at' nic).mp hnic
      exact ⟨hkind, hgenerated, hip⟩

theorem ClearsInterfaces.append (h : ClearsInterfaces others key c₀ c listed events d)
    (hlater : ClearsInterfaces others key c₀ d more later e) :
    ClearsInterfaces others key c₀ c (listed ∪ more) (events ++ later) e where
  reads hquiet place nic := by
    rw [fetched_append, h.reads hquiet, hlater.reads hquiet, hquiet h.gone]
    by_cases hlisted : place ∈ listed
    · have hgone : (.networkInterface, place) ∈ InterfacesGone key c₀ listed events :=
        .inl ⟨rfl, hlisted⟩
      rw [Cloud.without_of_mem hgone]
      simp [hlisted]
    · have hkept : (.networkInterface, place) ∉ InterfacesGone key c₀ listed events := by
        rintro (⟨-, h⟩ | ⟨⟨⟩, -⟩)
        exact hlisted h
      rw [Cloud.without_of_notMem hkept]
      simp [hlisted]
  gone := by
    rw [interfacesGone_append]
    exact Leaves.trans ho h.gone hlater.gone

end

omit hs ho hlimit h₀ in
theorem exists_publicIps {object : Model.Interface} {nic : View.Interface}
    (hreadable : object.IsReadable) (hnic : View.interface (some object) = .ok nic) :
    ∃ ids, nic.publicIpIds.mapM (fun ip => ResourceId.read (.str ip)) = .ok ids ∧
      ∀ place, (∃ ip ∈ ids, ip.place = place) ↔ object.HasIp place := by
  obtain ⟨view, hview, hread⟩ := View.exists_interface hreadable
  obtain rfl : view = nic := Except.ok.inj (hview.symm.trans hnic)
  obtain ⟨ids, hids⟩ : ∃ ids, view.publicIpIds.mapM (fun ip => ResourceId.read (.str ip)) =
      .ok ids := by
    refine View.exists_mapM fun text htext => ?_
    obtain ⟨ip, hip⟩ := hread text htext
    exact ⟨ip, read_eq_ok_iff.mpr hip⟩
  refine ⟨ids, hids, fun place => ?_⟩
  rw [← View.interface_hasIp hnic]
  constructor
  · rintro ⟨ip, hip, rfl⟩
    obtain ⟨text, htext, hparse⟩ := (View.mem_of_mapM_read hids).mp hip
    exact ⟨text, htext, ip, hparse, rfl⟩
  · rintro ⟨text, htext, ip, hparse, rfl⟩
    exact ⟨ip, (View.mem_of_mapM_read hids).mpr ⟨text, htext, hparse⟩, rfl⟩

theorem removeInterface_effect {text : String} {id : ResourceId}
    (hid : ResourceId.parse? text = some id)
    (hreadable : ∀ nic, c₀.objects .networkInterface id.place = some nic → nic.IsReadable) :
    Returns ⟨provider, limit⟩ session (t.removeInterface text) fun events done after =>
      done = true ∧ ClearsInterfaces others t.generatedTag c₀ (cloudOf session.world) {id.place}
        events (cloudOf after.world) := by
  have hstands : ∀ {found object}, others (cloudOf session.world) found →
      found.objects .networkInterface id.place = some object →
        c₀.objects .networkInterface id.place = some object :=
    fun hothers hstored => (h₀.trans (ho.shrinks hothers)).objects hstored
  have hview : ∀ found object, others (cloudOf session.world) found →
      found.Shows .networkInterface id.place object →
        ∃ view, Kind.view .networkInterface (some object) = .ok view := by
    rintro found object hothers ⟨stored, hstored, rfl⟩
    obtain ⟨view, hview, -⟩ := View.exists_interface (hreadable _ (hstands hothers hstored))
    exact ⟨view, hview⟩
  unfold Teardown.removeInterface
  refine (ofExcept_effect (read_eq_ok_iff.mpr hid)).bind ?_
  rintro _ _ _ ⟨rfl, rfl, rfl⟩
  refine (get_effect hs .networkInterface id.place hview).bind ?_
  rintro events found read ⟨hothers, hfound⟩
  cases found with
  | none =>
    obtain ⟨habsent, fault, rfl⟩ := hfound
    apply log_effect.bind
    rintro _ _ logged ⟨rfl, hworld, -⟩
    rw [← hworld] at hothers habsent
    refine Returns.pure ⟨rfl, clearsInterfaces_of_absent ho hothers habsent ?_⟩
    simp [NoneFetched, Fetched]
  | some nic =>
    obtain ⟨object, ⟨stored, hstored, rfl⟩, hnic, rfl⟩ := hfound
    obtain ⟨ids, hids, hips⟩ := exists_publicIps (hreadable _ (hstands hothers hstored)) hnic
    refine (ofExcept_effect hids).bind ?_
    rintro _ _ _ ⟨rfl, rfl, rfl⟩
    apply log_effect.bind
    rintro _ _ logged ⟨rfl, hworld, -⟩
    rw [← hworld] at hothers hstored
    apply delete_confirmed hs ho hlimit .networkInterface id.place (by decide)
    intro deleting deleted hdeleted hnone
    have hgone := hdeleted.since ho hothers
    refine (publicIps_effect hs ho hlimit (h₀.trans (hgone.shrinks ho))).bind ?_
    rintro removing _ after ⟨⟨rfl, hremoved⟩, hremoving⟩
    -- Only the first event shows an interface.
    have hrest : NoneFetched (.logged ⟨.debug, "destroying_nic", Teardown.aboutId id, none⟩ ::
        (deleting ++ removing)) .networkInterface := ((hnone _).append hremoving).logged
    refine Returns.pure ⟨rfl, clearsInterfaces_of_fetched hothers hstored ?_ ?_⟩
    · intro other nic
      simpa using fetched_cons hrest
    · refine (Leaves.trans ho hgone hremoved).congr fun kind place _ => or_congr_right ?_
      constructor
      · rintro ⟨ip, hip, ⟨⟩, hgenerated⟩
        exact ⟨rfl, hgenerated, (hips _).mp ⟨ip, hip, rfl⟩⟩
      · rintro ⟨rfl, hgenerated, hip⟩
        obtain ⟨ip, hmem, rfl⟩ := (hips _).mpr hip
        exact ⟨ip, hmem, rfl, hgenerated⟩

theorem interfaces_effect {texts : List String}
    (hids : ∀ text ∈ texts, ∃ id, ResourceId.parse? text = some id)
    (hreadable : ∀ place nic, (∃ text ∈ texts, Names (some text) place) →
      c₀.objects .networkInterface place = some nic → nic.IsReadable) :
    Returns ⟨provider, limit⟩ session (Teardown.all t.removeInterface texts)
      fun events done after =>
        done = true ∧ ClearsInterfaces others t.generatedTag c₀ (cloudOf session.world)
          {place | ∃ text ∈ texts, Names (some text) place} events (cloudOf after.world) := by
  induction texts generalizing session with
  | nil =>
    refine Returns.pure ⟨rfl, fun _ _ _ => ⟨?_, ?_⟩, .of_absent ho (ho.refl _) ?_⟩
    · rintro ⟨⟩
    · rintro ⟨⟨_, ⟨⟩, -⟩, -⟩
    · rintro _ _ (⟨-, _, ⟨⟩, -⟩ | ⟨-, -, _, _, ⟨⟩, -⟩)
  | cons text rest ih =>
    obtain ⟨id, hid⟩ := hids text List.mem_cons_self
    have hlisted : {place | ∃ s ∈ text :: rest, Names (some s) place} =
        {id.place} ∪ {place | ∃ s ∈ rest, Names (some s) place} := by
      ext place
      simp [names_some_iff hid]
    rw [Teardown.all]
    refine (removeInterface_effect hs ho hlimit h₀ hid
      (hreadable id.place · ⟨text, List.mem_cons_self, id, hid, rfl⟩)).bind ?_
    rintro first _ between ⟨rfl, hfirst⟩
    refine (ih (h₀.trans (hfirst.gone.shrinks ho)) (fun s hs => hids s (List.mem_cons_of_mem _ hs))
      fun place nic ⟨s, hs, hnames⟩ =>
        hreadable place nic ⟨s, List.mem_cons_of_mem _ hs, hnames⟩).bind ?_
    rintro more _ after ⟨rfl, hmore⟩
    rw [hlisted]
    refine Returns.pure ⟨rfl, ?_⟩
    rw [List.append_nil]
    exact hfirst.append ho hmore

end

end Reclaim
