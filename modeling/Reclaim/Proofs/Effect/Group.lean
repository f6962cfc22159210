import Reclaim.Proofs.Effect.Estate
import Reclaim.Proofs.Effect.Waiting
import Reclaim.Finalize.Group

/-!
# Groups that are used no more

The security group that the nodes of a group share is deleted once no interface uses it. The
resource group is deleted once nothing is left in it.
-/

namespace Reclaim

open Reclaim.Action

/-- Where the nodes of the group have their shared security group. -/
def Teardown.sharedPlace (t : Teardown Rat) (resourceGroup group : String) : Place :=
  ⟨resourceGroup, t.naming.stem ++ t.naming.delimiter ++ group⟩

namespace Cloud

variable {c : Cloud} {kind : Kind} {place : Place}

/-! ## What a view shows -/

/-- The view of what stands at the place, which may fail. -/
def viewed (c : Cloud) (kind : Kind) (place : Place) : Except Fault (Option kind.View) :=
  match c.objects kind place with
  | none => .ok none
  | some object => some <$> kind.view (some object)

theorem viewed_eq_some {view : kind.View} (h : c.viewed kind place = .ok (some view)) :
    ∃ object, c.objects kind place = some object ∧ kind.view (some object) = .ok view := by
  unfold viewed at h
  cases hobject : c.objects kind place with
  | none =>
    rw [hobject] at h
    cases h
  | some object =>
    rw [hobject] at h
    dsimp only at h
    cases hview : kind.view (some object) with
    | error fault =>
      rw [hview] at h
      cases h
    | ok other =>
      rw [hview] at h
      cases h
      exact ⟨object, rfl, hview⟩

theorem there_of_viewed {fault : Fault} (h : c.viewed kind place = .error fault) :
    c.objects kind place ≠ none := by
  intro habsent
  rw [viewed, habsent] at h
  cases h

/-- The security group can be viewed, and its view shows no interface. -/
def Orphaned (c : Cloud) (place : Place) : Prop :=
  ∃ view, c.viewed .securityGroup place = .ok (some view) ∧ view.interfaceIds.getD [] = []

/-- The spot of the security group, if it may be cleared. -/
def unused (c : Cloud) (place : Place) : Set Spot :=
  {spot | spot = (.securityGroup, place) ∧ c.Orphaned place}

theorem orphaned_iff {view : View.SecurityGroup}
    (h : c.viewed .securityGroup place = .ok (some view)) :
    c.Orphaned place ↔ Ownership.isOrphanedSecurityGroup view = true := by
  rw [Ownership.isOrphanedSecurityGroup, List.isEmpty_iff]
  constructor
  · rintro ⟨other, hother, hempty⟩
    cases h.symm.trans hother
    exact hempty
  · exact fun hempty => ⟨view, h, hempty⟩

theorem without_unused (h : ¬ c.Orphaned place) : c.without (c.unused place) = c :=
  without_of_absent fun _ _ hspot => absurd hspot.2 h

theorem unused_of_orphaned (h : c.Orphaned place) : c.unused place = {(.securityGroup, place)} := by
  ext spot
  exact and_iff_left h

end Cloud

/-! ## The security group in the cloud -/

section

variable {W : Type} {provider : Provider Rat W} {cloudOf : W → Cloud} {limit : Nat}
variable {session : Session Rat W} {t : Teardown Rat} {resourceGroup name : String}
variable (hs : provider.Serves (· = ·) cloudOf)

include hs

/-- All kinds but availability sets are shown as they are stored. -/
theorem get_ends {kind : Kind} (hkind : kind ≠ .availabilitySet) (place : Place) :
    Ends ⟨provider, limit⟩ session (Access.get kind place.group place.name) fun _ outcome after =>
      outcome = ((cloudOf session.world).viewed kind place).mapError .raised ∧
        cloudOf after.world = cloudOf session.world := by
  unfold Access.get
  refine (ask_effect hs _).before ?_
  rintro _ reply after ⟨-, -, found, rfl, hafter, hgets⟩
  cases reply with
  | ok object =>
    obtain ⟨object, rfl, stored, hstored, hdisplays⟩ := hgets
    obtain rfl : object = stored := by
      cases kind with
      | availabilitySet => contradiction
      | _ => exact hdisplays
    rw [Cloud.viewed, hstored]
    dsimp only
    cases kind.view (some object) with
    | ok view => exact Ends.pure ⟨rfl, hafter⟩
    | error fault => exact Ends.stop ⟨rfl, hafter⟩
  | error fault =>
    obtain ⟨hnotFound, habsent⟩ := hgets
    rw [Cloud.viewed, habsent]
    dsimp only
    rw [orGone_of_notFound hnotFound]
    exact Ends.pure ⟨rfl, hafter⟩

theorem removeFound_effect (hp : t.departure.IsPositive) (hlimit : t.departure.polls ≤ limit)
    {view : View.SecurityGroup} {fields : Log.Fields}
    (hview : (cloudOf session.world).viewed .securityGroup ⟨resourceGroup, name⟩ =
      .ok (some view)) :
    Returns ⟨provider, limit⟩ session (do
        log .debug "deleting_orphaned_security_group" fields
        let deleted ← t.isConfirmed (← Access.delete .securityGroup resourceGroup name)
        if deleted then
          if !(← t.hasLeft (← ofExcept view.reference)) then
            log .warning "security_group_still_listed" fields
        return deleted) fun _ done after =>
      done = true ∧ Leaves (· = ·) (cloudOf session.world)
        {(.securityGroup, ⟨resourceGroup, name⟩)} (cloudOf after.world) := by
  have hpositive : 0 < limit := (Nat.succ_pos _).trans_le hlimit
  obtain ⟨object, hobject, hof⟩ := Cloud.viewed_eq_some hview
  have hnames : Names view.id ⟨resourceGroup, name⟩ := by
    rw [(View.securityGroup_eq_ok hof).1]
    exact ((cloudOf session.world).named _ _ _ hobject).2
  obtain ⟨id, hreference⟩ := Named.exists_reference hnames
  apply log_effect.bind
  rintro _ _ logged ⟨-, hworld, -⟩
  rw [← hworld]
  refine delete_confirmed hs isErosion_eq hpositive .securityGroup ⟨resourceGroup, name⟩ (by decide)
    fun _ deleted hdeleted _ => ?_
  rw [if_pos rfl]
  refine (ofExcept_effect hreference).bind ?_
  rintro _ _ _ ⟨-, rfl, rfl⟩
  refine (hasLeft_effect hs isErosion_eq hp hlimit).bind ?_
  rintro _ left waited hwaited
  have hremoved := hdeleted.then isErosion_eq hwaited
  cases left with
  | true => exact Returns.pure ⟨rfl, hremoved⟩
  | false =>
    apply log_effect.bind
    rintro _ _ warned ⟨-, hworld, -⟩
    rw [← hworld] at hremoved
    exact Returns.pure ⟨rfl, hremoved⟩

/-- The unused security group is gone, unless a fault says that it could not be viewed. -/
theorem removeSecurityGroup_ends (hp : t.departure.IsPositive) (hlimit : t.departure.polls ≤ limit)
    {group : Option String} (hname : t.naming.sharedName group = .ok name) :
    Ends ⟨provider, limit⟩ session (t.removeSecurityGroup resourceGroup group)
      fun _ outcome after =>
        cloudOf after.world = (cloudOf session.world).without
          ((cloudOf session.world).unused ⟨resourceGroup, name⟩) ∧
        (outcome = .ok true ∨ ∃ fault, outcome = .error (.raised fault) ∧
          (cloudOf after.world).objects .securityGroup ⟨resourceGroup, name⟩ ≠ none) := by
  refine (ofExcept_effect hname).before ?_
  rintro _ _ _ ⟨-, rfl, rfl⟩
  have hget : Ends ⟨provider, limit⟩ session (Access.get .securityGroup resourceGroup name) _ :=
    get_ends hs (by decide) ⟨resourceGroup, name⟩
  cases hviewed : (cloudOf session.world).viewed .securityGroup ⟨resourceGroup, name⟩ with
  | error fault =>
    have hkept : ¬ (cloudOf session.world).Orphaned ⟨resourceGroup, name⟩ := by
      rintro ⟨view, hview, -⟩
      cases hviewed.symm.trans hview
    rw [hviewed] at hget
    refine Ends.bind hget ?_ ?_
    · rintro _ _ _ ⟨⟨⟩, -⟩
    · rintro _ reason after ⟨⟨⟩, hsame⟩
      rw [Cloud.without_unused hkept, hsame]
      exact ⟨rfl, .inr ⟨fault, rfl, Cloud.there_of_viewed hviewed⟩⟩
  | ok found =>
    rw [hviewed] at hget
    refine Ends.bind hget ?_ ?_
    · rintro _ _ after ⟨⟨⟩, hsame⟩
      rw [← hsame] at hviewed ⊢
      cases found with
      | none =>
        have hkept : ¬ (cloudOf after.world).Orphaned ⟨resourceGroup, name⟩ := by
          rintro ⟨view, hview, -⟩
          cases hviewed.symm.trans hview
        exact Ends.pure ⟨(Cloud.without_unused hkept).symm, .inl rfl⟩
      | some view =>
        have horphaned := Cloud.orphaned_iff hviewed
        dsimp only
        split
        next hused =>
          have hkept : ¬ (cloudOf after.world).Orphaned ⟨resourceGroup, name⟩ := by
            rw [horphaned]
            simpa using hused
          apply log_effect.before
          rintro _ _ logged ⟨-, hworld, -⟩
          rw [← hworld] at hkept ⊢
          exact Ends.pure ⟨(Cloud.without_unused hkept).symm, .inl rfl⟩
        next hfree =>
          rw [Cloud.unused_of_orphaned (horphaned.mpr (by simpa using hfree))]
          refine Ends.mono (removeFound_effect hs hp hlimit hviewed) ?_
          rintro _ _ cleared ⟨_, rfl, rfl, hremoved⟩
          exact ⟨hremoved.symm, .inl rfl⟩
    · rintro _ _ _ ⟨⟨⟩, -⟩

theorem trySecurityGroup_effect (hp : t.departure.IsPositive) (hlimit : t.departure.polls ≤ limit)
    {group : Option String} (hname : t.naming.sharedName group = .ok name) :
    Returns ⟨provider, limit⟩ session (t.trySecurityGroup resourceGroup group)
      fun _ done after =>
        cloudOf after.world = (cloudOf session.world).without
          ((cloudOf session.world).unused ⟨resourceGroup, name⟩) ∧
        (done = false →
          (cloudOf after.world).objects .securityGroup ⟨resourceGroup, name⟩ ≠ none) := by
  refine Ends.rescue (removeSecurityGroup_ends hs hp hlimit hname) ?_ ?_ ?_
  · rintro _ done after ⟨hcloud, ⟨⟨⟩⟩ | ⟨_, ⟨⟩, -⟩⟩
    exact ⟨true, rfl, hcloud, nofun⟩
  · rintro _ fault after ⟨hcloud, ⟨⟨⟩⟩ | ⟨_, -, hthere⟩⟩
    apply record_effect.bind
    rintro _ _ logged ⟨-, hworld, -⟩
    rw [← hworld] at hcloud hthere
    exact Returns.pure ⟨hcloud, fun _ => hthere⟩
  · rintro _ after ⟨-, ⟨⟨⟩⟩ | ⟨_, ⟨⟩, -⟩⟩

end

/-! ## Groups stay on the way -/

section

variable {W : Type} {t : Teardown Rat}

theorem trySecurityGroup_settles {scene : Scene W}
    (hasks : ∀ request, (∀ group, request ≠ .beginDeleteGroup group) → scene.asks request)
    (hdeletion : t.deletion.IsPositive) (hdeparture : t.departure.IsPositive)
    (hpolls : t.deletion.polls ≤ scene.setting.pollLimit)
    (hlimit : t.departure.polls ≤ scene.setting.pollLimit) {resourceGroup : String}
    {group : Option String} :
    scene.Settles (t.deletion.span + t.departure.span)
      (t.trySecurityGroup resourceGroup group) := by
  have hspan := hdeparture.span_nonneg
  have htotal := add_nonneg hdeletion.span_nonneg hspan
  have hremove : scene.Settles (t.deletion.span + t.departure.span)
      (t.removeSecurityGroup resourceGroup group) := by
    refine .ofExcept_bind htotal fun name _ => ?_
    refine .before (Scene.get_settles (hasks _ nofun)) (fun found => ?_) htotal
    cases found with
    | none => exact .pure htotal
    | some view =>
      dsimp only
      split
      · exact .before .log (fun _ => .pure htotal) htotal
      · refine .before .log (fun _ => ?_) htotal
        refine .before (Scene.delete_settles (hasks _ nofun) (hasks _ nofun)) (fun handle => ?_)
          htotal
        refine .bind (Scene.isConfirmed_settles (fun _ => hasks _ nofun) (fun _ => hasks _ nofun)
          hdeletion hpolls) (fun deleted => ?_) hspan
        split
        · refine .ofExcept_bind hspan fun id _ => ?_
          exact .followed (Scene.hasLeft_settles (fun _ => hasks _ nofun) hdeparture hlimit)
            fun left => .remark (.pure le_rfl) le_rfl
        · exact .pure hspan
  exact .rescue hremove fun _ => .before (.record (by simp)) (fun _ => .pure le_rfl) le_rfl

end

/-! ## The estate -/

section

variable {W : Type} {provider : Provider Rat W} {estateOf : W → Estate} {limit : Nat}
variable {session : Session Rat W} {t : Teardown Rat} {resourceGroup : String}
variable (h : provider.Hosts estateOf)

include h

theorem isConfirmed_estate {handle : Option Handle} (hdeletion : t.deletion.IsPositive)
    (hlimit : t.deletion.polls ≤ limit) :
    Returns ⟨provider, limit⟩ session (t.isConfirmed handle) fun _ verdict after =>
      verdict = true ∧ (estateOf after.world).cloud = (estateOf session.world).cloud ∧
        (estateOf after.world).groups = (estateOf session.world).groups ∧
          (estateOf after.world).further = (estateOf session.world).further := by
  have hpositive : 0 < limit := (Nat.succ_pos _).trans_le hlimit
  have hsettles : (h.keepingGroups limit (estateOf session.world)).Settles t.deletion.span
      (t.isConfirmed handle) :=
    Scene.isConfirmed_settles (fun _ _ => nofun) (fun _ _ => nofun) hdeletion hlimit
  refine Ends.mono (Ends.and (isConfirmed_effect h.serves isErosion_eq hpositive)
    (hsettles session ⟨rfl, rfl⟩)) ?_
  rintro _ _ after ⟨⟨verdict, rfl, rfl, hcloud⟩, hsettled⟩
  exact ⟨true, rfl, rfl, hcloud.symm, hsettled.holds.1, hsettled.holds.2⟩

omit h in
theorem isEmpty_iff {e : Estate} {group : String} {listing : Listing Model.Member}
    (hitems : ∀ item ∈ listing.items, ∃ member, item = some member ∧ e.HasMember group member)
    (hobjects : ∀ kind place object, place.group = group →
      e.cloud.objects kind place = some object →
        ∃ member, some member ∈ listing.items ∧ member.toNamed = kind.named object)
    (hfurther : ∀ member ∈ e.further group, some member ∈ listing.items) :
    listing.items = [] ↔ e.HoldsOnly group ∅ := by
  constructor
  · intro hnone
    refine ⟨?_, Set.eq_empty_iff_forall_notMem.mpr ?_⟩
    · intro kind place hgroup hthere
      obtain ⟨object, hobject⟩ := Option.ne_none_iff_exists'.mp hthere
      obtain ⟨member, hmem, -⟩ := hobjects kind place object hgroup hobject
      rw [hnone] at hmem
      cases hmem
    · intro member hmember
      have hmem := hfurther member hmember
      rw [hnone] at hmem
      cases hmem
  · rintro ⟨hnothing, hnofurther⟩
    refine List.eq_nil_iff_forall_not_mem.mpr fun item hitem => ?_
    obtain ⟨member, -, ⟨kind, place, object, hgroup, hobject, -⟩ | hmember⟩ := hitems item hitem
    · exact hnothing kind place hgroup (by rw [hobject]; nofun)
    · rw [hnofurther] at hmember
      exact hmember

/-- A group that exists is listed, and the listing is empty if nothing is in the group. -/
theorem members_estate :
    Returns ⟨provider, limit⟩ session (Access.members resourceGroup) fun _ found after =>
      estateOf after.world = estateOf session.world ∧
        (found = none ∧ resourceGroup ∉ (estateOf session.world).groups ∨
          ∃ members, found = some members ∧ resourceGroup ∈ (estateOf session.world).groups ∧
            (members = [] ↔ (estateOf session.world).HoldsOnly resourceGroup ∅)) := by
  have hask : Returns ⟨provider, limit⟩ session (ask (.members resourceGroup))
      fun _ listing after => estateOf after.world = estateOf session.world ∧
        (estateOf session.world).ListsMembers resourceGroup listing := by
    refine Ends.ask fun listing elapsed world hanswer => ⟨listing, rfl, ?_⟩
    have hhosts := (h (.members resourceGroup) session.world).1
    rw [hanswer] at hhosts
    exact hhosts
  refine hask.bind ?_
  rintro _ listing after ⟨hsame,
    ⟨hexists, hfailure, hitems, hobjects, hfurther⟩ | ⟨habsent, fault, rfl, hfault⟩⟩
  · obtain ⟨members, hmembers⟩ : ∃ members, listing.items.mapM View.member = .ok members := by
      refine View.exists_mapM fun item hitem => ?_
      obtain ⟨member, rfl, -⟩ := hitems item hitem
      exact ⟨_, rfl⟩
    have hread : Access.readListing View.member listing = .ok members := by
      rw [Access.readListing, hmembers, hfailure]
      rfl
    rw [hread]
    refine Returns.pure ⟨hsame, .inr ⟨members, rfl, hexists, ?_⟩⟩
    rw [← isEmpty_iff hitems hobjects hfurther, ← List.length_eq_zero_iff,
      ← List.length_eq_zero_iff, (View.forall₂_of_mapM hmembers).length_eq]
  · have hread : Access.readListing View.member ⟨[], some fault⟩ = .error fault := rfl
    rw [hread]
    dsimp only
    rw [orGone_of_notFound hfault]
    exact Returns.pure ⟨hsame, .inl ⟨rfl, habsent⟩⟩

theorem deleteGroup_estate (hexists : resourceGroup ∈ (estateOf session.world).groups)
    (hempty : (estateOf session.world).HoldsOnly resourceGroup ∅) :
    Returns ⟨provider, limit⟩ session (Access.deleteGroup resourceGroup) fun _ _ after =>
      (estateOf after.world).cloud = (estateOf session.world).cloud ∧
        (estateOf after.world).groups = (estateOf session.world).groups \ {resourceGroup} ∧
          (estateOf after.world).further = (estateOf session.world).further := by
  have hask : Returns ⟨provider, limit⟩ session (ask (.beginDeleteGroup resourceGroup))
      fun _ reply after =>
        (estateOf session.world).DeletesGroup resourceGroup (estateOf after.world) reply := by
    refine Ends.ask fun reply elapsed world hanswer => ⟨reply, rfl, ?_⟩
    have hhosts := (h (.beginDeleteGroup resourceGroup) session.world).1
    rw [hanswer] at hhosts
    exact hhosts
  refine hask.bind ?_
  rintro _ reply after hdeletes
  cases reply with
  | error fault => exact absurd hexists hdeletes.2.1
  | ok handle =>
    obtain ⟨-, hcloud, hgroups, hfurther⟩ := hdeletes
    refine Returns.pure ⟨?_, hgroups, funext fun other => ?_⟩
    · rw [hcloud]
      refine Cloud.without_of_absent fun kind place hgroup => ?_
      by_contra hthere
      exact hempty.1 kind place hgroup hthere
    · rw [hfurther]
      split
      next hother => rw [hother, hempty.2]
      next => rfl

/-- The group is gone afterwards if it did not exist or was empty. -/
theorem removeResourceGroup_effect (hdeletion : t.deletion.IsPositive)
    (hlimit : t.deletion.polls ≤ limit) :
    Returns ⟨provider, limit⟩ session (t.removeResourceGroup resourceGroup) fun _ done after =>
      (done = true ↔ resourceGroup ∉ (estateOf after.world).groups) ∧
        (estateOf session.world).Reduces (estateOf after.world) resourceGroup ∅ := by
  refine (members_estate h).bind ?_
  rintro _ found listed ⟨hsame, ⟨rfl, habsent⟩ | ⟨members, rfl, hexists, hempty⟩⟩
  · rw [← hsame] at habsent ⊢
    apply log_effect.bind
    rintro _ _ logged ⟨-, hworld, -⟩
    rw [← hworld] at habsent ⊢
    exact Returns.pure ⟨iff_of_true rfl habsent, Estate.reduces_self (absurd · habsent)⟩
  · rw [← hsame] at hexists hempty ⊢
    cases members with
    | nil =>
      apply log_effect.bind
      rintro _ _ logged ⟨-, hworld, -⟩
      rw [← hworld] at hexists hempty ⊢
      have hnothing := hempty.mp rfl
      refine (deleteGroup_estate h hexists hnothing).bind ?_
      rintro _ handle deleted ⟨hcloud, hgroups, hfurther⟩
      refine (isConfirmed_estate h hdeletion hlimit).mono ?_
      rintro _ _ after ⟨rfl, hcloud', hgroups', hfurther'⟩
      have hclosed := hgroups'.trans hgroups
      refine ⟨iff_of_true rfl fun hmem => ?_, Estate.reduces_of_closed hnothing
        (hcloud'.trans hcloud) hclosed (hfurther'.trans hfurther)⟩
      rw [hclosed] at hmem
      exact hmem.2 rfl
    | cons member rest =>
      apply log_effect.bind
      rintro _ _ logged ⟨-, hworld, -⟩
      rw [← hworld] at hexists hempty ⊢
      refine Returns.pure ⟨iff_of_false nofun (not_not_intro hexists), Estate.reduces_self ?_⟩
      exact fun _ honly => nomatch hempty.mpr honly

/-! ## Both together -/

theorem trySecurityGroup_estate (hdeletion : t.deletion.IsPositive)
    (hdeparture : t.departure.IsPositive) (hpolls : t.deletion.polls ≤ limit)
    (hlimit : t.departure.polls ≤ limit) {group : String}
    (hgroup : Naming.accepts group.toList = true) :
    Returns ⟨provider, limit⟩ session (t.trySecurityGroup resourceGroup (some group))
      fun _ done after =>
        (estateOf after.world).cloud = (estateOf session.world).cloud.without
          ((estateOf session.world).cloud.unused (t.sharedPlace resourceGroup group)) ∧
        (estateOf after.world).groups = (estateOf session.world).groups ∧
        (estateOf after.world).further = (estateOf session.world).further ∧
        (done = false → (estateOf after.world).cloud.objects .securityGroup
          (t.sharedPlace resourceGroup group) ≠ none) := by
  have hname : t.naming.sharedName (some group) =
      .ok (t.naming.stem ++ t.naming.delimiter ++ group) := if_pos hgroup
  have hsettles : (h.keepingGroups limit (estateOf session.world)).Settles
      (t.deletion.span + t.departure.span) (t.trySecurityGroup resourceGroup (some group)) :=
    trySecurityGroup_settles (fun _ hrequest => hrequest) hdeletion hdeparture hpolls hlimit
  refine Ends.mono (Ends.and (trySecurityGroup_effect h.serves hdeparture hlimit hname)
    (hsettles session ⟨rfl, rfl⟩)) ?_
  rintro _ _ after ⟨⟨done, rfl, hcloud, hthere⟩, hsettled⟩
  exact ⟨done, rfl, hcloud, hsettled.holds.1, hsettled.holds.2, hthere⟩

/-- What belongs to a group of nodes and is used no more is deleted: the security group they share,
and the resource group if nothing else is in it. The result tells whether the resource group is
gone. -/
theorem removeGroup_removes_what_is_unused (hdeletion : t.deletion.IsPositive)
    (hdeparture : t.departure.IsPositive) (hpolls : t.deletion.polls ≤ limit)
    (hlimit : t.departure.polls ≤ limit) {group : String}
    (hgroup : Naming.accepts group.toList = true) :
    ∃ verdict after, (t.removeGroup resourceGroup (some group)).run ⟨provider, limit⟩ session =
        .ok verdict after ∧
      (verdict = true ↔ resourceGroup ∉ (estateOf after.world).groups) ∧
      (estateOf session.world).Reduces (estateOf after.world) resourceGroup
        ((estateOf session.world).cloud.unused (t.sharedPlace resourceGroup group)) := by
  have hboth : Returns ⟨provider, limit⟩ session (t.removeGroup resourceGroup (some group))
      fun _ verdict after => (verdict = true ↔ resourceGroup ∉ (estateOf after.world).groups) ∧
        (estateOf session.world).Reduces (estateOf after.world) resourceGroup
          ((estateOf session.world).cloud.unused (t.sharedPlace resourceGroup group)) := by
    refine (trySecurityGroup_estate h hdeletion hdeparture hpolls hlimit hgroup).bind ?_
    rintro _ cleared between ⟨hcloud, hgroups, hfurther, hfailed⟩
    refine (removeResourceGroup_effect h hdeletion hpolls).bind ?_
    rintro _ deleted after ⟨hdone, hreduces⟩
    refine Returns.pure ⟨?_, hreduces.after_clearing hcloud hgroups hfurther⟩
    cases cleared with
    | true => simpa using hdone
    | false =>
      -- The security group is still there, so the group that houses it is not empty.
      have hthere : (estateOf after.world).cloud.objects .securityGroup
          (t.sharedPlace resourceGroup group) ≠ none := by
        rw [hreduces.cloud, Cloud.without_of_notMem (Set.notMem_empty _)]
        exact hfailed rfl
      exact iff_of_false nofun (not_not_intro ((estateOf after.world).housed _ _ hthere))
  obtain ⟨_, verdict, after, hrun, -, hpost⟩ := hboth.run_eq
  exact ⟨verdict, after, hrun, hpost⟩

end

/-! ## A site whose nodes are gone -/

namespace Spare

/-- Only the security group is left that the nodes shared. -/
def items : (kind : Kind) → List (Place × kind.Model)
  | .securityGroup => [(⟨"rg", "jclouds-web"⟩, {
      id := some "/subscriptions/s/resourceGroups/rg/providers/p/securityGroups/jclouds-web"
      name := some "jclouds-web"
      interfaces := some [] })]
  | _ => []

theorem items_named : ∀ kind, ∀ item ∈ items kind,
    (kind.named item.2).name = some item.1.name ∧ Names (kind.named item.2).id item.1 := by
  intro kind
  cases kind <;> decide +kernel

theorem items_housed : ∀ kind, ∀ item ∈ items kind, item.1.group ∈ ["rg", "other"] := by
  intro kind
  cases kind <;> decide

def site : Site := ⟨⟨items, [], items_named⟩, ["rg", "other"], items_housed⟩

def start : Session Rat Site.World := ⟨([], []), 0, #[]⟩

theorem removes_what_is_unused :
    ∃ verdict after, (Teardown.sample.removeGroup "rg" (some "web")).run
        ⟨site.provider, 13⟩ start = .ok verdict after ∧
      (verdict = true ↔ "rg" ∉ (site.estate after.world).groups) ∧
      (site.estate start.world).Reduces (site.estate after.world) "rg"
        ((site.estate start.world).cloud.unused (Teardown.sample.sharedPlace "rg" "web")) := by
  have hpositive : (⟨60, 5⟩ : Patience Rat).IsPositive := ⟨by decide +kernel, by decide +kernel⟩
  have hpolls : (⟨60, 5⟩ : Patience Rat).polls ≤ 13 := by decide +kernel
  have hdeletion : Teardown.sample.deletion.IsPositive := hpositive
  have hdeparture : Teardown.sample.departure.IsPositive := hpositive
  have haccepts : Naming.accepts "web".toList = true := by decide +kernel
  exact removeGroup_removes_what_is_unused site.hosts hdeletion hdeparture hpolls hpolls haccepts

end Spare

end Reclaim
