import Reclaim.Proofs.Authorisation.Spec
import Reclaim.Proofs.Stages

/-!
# Every delete is authorised

The stages delete what their warrant covers. Here the warrant of each operation is shown to cover
what it passes to its stages, and with it what every run of operations deletes.
-/

namespace Reclaim

open Reclaim.Action

variable {τ W : Type} {t : Teardown τ} {operation : Operation} {past : List (Event τ)}
variable {machine : View.Machine} {group : String}

/-! ## Warrants of operations -/

theorem Operation.Concerns.later (h : operation.Concerns past machine) {later : List (Event τ)}
    (hlater : past <+: later) : operation.Concerns later machine := by
  cases operation with
  | node token =>
    obtain ⟨node, object, hnode, hasked, hview⟩ := h
    exact ⟨node, object, hnode, hlater.subset hasked, hview⟩
  | _ => exact h

theorem covers_of_concerns (h : operation.Concerns past machine) :
    Covers t (Warranted t operation) past machine where
  interface _ _ object hlater hlisted hshown :=
    ⟨machine, object, h.later hlater, hlisted, hshown⟩
  publicIp _ group name nic _ ip value _ hnic hip hshown hvalue htrue :=
    ⟨group, name, nic, ip, value, hnic, hip, hshown, hvalue, htrue⟩
  disk _ _ hlater hdisk := ⟨machine, h.later hlater, hdisk⟩
  availabilitySet _ _ object hlater hset hshown htag hempty :=
    ⟨machine, object, h.later hlater, hset, hshown, htag, hempty⟩

theorem coversNetworks_of_scans (h : operation.Scans group) :
    CoversNetworks t (Warranted t operation) past group :=
  fun _ listing object _ hasked hcomplete hitem htag =>
    ⟨listing, object, h, hasked, hcomplete, hitem, rfl, htag⟩

/-- Whatever is deleted is warranted. Nothing else matters. -/
def Authorised (t : Teardown τ) (operation : Operation) : Rule τ
  | past, .asked request _ => ∀ removal ∈ request.removal?, Warranted t operation past removal
  | _, _ => True

theorem authorised_of_limits {kinds : List Kind} (past : List (Event τ)) (event : Event τ)
    (h : Limits kinds (Warranted t operation) past event) : Authorised t operation past event := by
  cases event with
  | asked request reply => exact h.2
  | _ => trivial

theorem authorised_logged {entry : Log.Entry} : Authorised t operation past (.logged entry) :=
  trivial

theorem authorised_of_keeps (kinds : List Kind) {α : Type} {action : Action τ W α}
    {post : List (Event τ) → α → Prop}
    (h : Keeps (Limits kinds (Warranted t operation)) past action post) :
    Keeps (Authorised t operation) past action post :=
  h.mono authorised_of_limits fun _ _ h => h

/-! ## The cascade -/

variable [Timescale τ]

namespace Teardown

theorem tryStage_authorised {node : NodeId} (h : operation.Concerns past machine)
    (hscans : operation.Scans node.group) (stage : Stage) :
    Always (Authorised t operation) past (t.tryStage node machine stage : Action τ W Unit) := by
  have hstage : Always (Authorised t operation) past (t.perform node.group machine stage) :=
    authorised_of_keeps _ (perform_keeps (W := W) (covers_of_concerns h)
      (coversNetworks_of_scans hscans) (fun _ hkind => hkind) stage)
  unfold tryStage
  refine .bind (hstage.rescue fun _ _ => ?_) fun _ complete _ => ?_
  · exact .bind (.record authorised_logged) fun _ _ _ => .pure trivial
  · split
    · exact (Keeps.log authorised_logged).always
    · exact .pure trivial

theorem removeNode_authorised {token : Value} :
    Always (Authorised t (.node token)) past (t.removeNode token : Action τ W Bool) := by
  unfold removeNode
  refine .bind .ofExcept ?_
  rintro events node ⟨hevents, hnode⟩
  rw [hevents]
  refine .bind (authorised_of_keeps _ (Access.get_keeps (List.mem_singleton_self _)))
    fun read found hfound => ?_
  cases found with
  | none => exact .bind (.log authorised_logged) fun _ _ _ => .pure trivial
  | some machine =>
    obtain ⟨object, hshown, hview⟩ := hfound machine rfl
    have hconcerns : Operation.Concerns (.node token) (past ++ read) machine :=
      ⟨node, object, hnode, hshown.mem, hview⟩
    have hname : machine.name = object.name := congrArg Named.name (View.machine_toNamed hview)
    refine .bind (.log authorised_logged) fun logged _ _ => ?_
    refine .bind (authorised_of_keeps [] (removeMachine_keeps fun later hlater => ?_))
      fun removed deleted _ => ?_
    · refine ⟨token, node.name, object, rfl, hnode, ?_, hname.symm⟩
      exact (List.IsPrefix.trans (by simp) hlater).subset hshown.mem
    · refine .bind (forM_keeps fun stage _ more => ?_) fun _ _ _ => ?_
      · exact tryStage_authorised (hconcerns.later (by simp)) ⟨node.name, hnode⟩ stage
      · dsimp only
        split
        · exact .bind (.log authorised_logged) fun _ _ _ => .pure trivial
        · exact .bind (.log authorised_logged) fun _ _ _ => .pure trivial

/-! ## Groups of nodes -/

theorem removeSecurityGroup_authorised {resourceGroup : String} {who : Option String}
    (h : ∀ name, t.naming.sharedName who = .ok name →
      operation.Shares t.naming ⟨resourceGroup, name⟩) :
    Always (Authorised t operation) past
      (t.removeSecurityGroup resourceGroup who : Action τ W Bool) := by
  unfold removeSecurityGroup
  refine .bind .ofExcept ?_
  rintro events name ⟨hevents, hname⟩
  rw [hevents]
  refine .bind (authorised_of_keeps _ (Access.get_keeps (List.mem_singleton_self _)))
    fun read found hfound => ?_
  cases found with
  | none => exact .pure trivial
  | some view =>
    obtain ⟨object, hshown, hview⟩ := hfound view rfl
    dsimp only
    split
    · exact .bind (.log authorised_logged) fun _ _ _ => .pure trivial
    next horphaned =>
      have hunused : Model.SaysNothing object.interfaces := by
        rw [← View.mapM_linkIds_isEmpty (View.securityGroup_eq_ok hview).2]
        simpa [Ownership.isOrphanedSecurityGroup] using horphaned
      refine .bind (.log authorised_logged) fun logged _ hlogged => ?_
      rw [hlogged]
      refine .bind (authorised_of_keeps [] (Access.delete_keeps
        ⟨object, h name hname, hshown.logged, hunused⟩)) fun _ handle _ => ?_
      refine .bind (authorised_of_keeps [] (isConfirmed_keeps limits_allowsFollowing))
        fun _ deleted _ => ?_
      split
      · refine .bind .ofExcept fun _ id _ => ?_
        refine .bind (authorised_of_keeps [] hasLeft_keeps) fun _ left _ => ?_
        exact .mayLog authorised_logged fun _ => .pure trivial
      · exact .pure trivial

theorem trySecurityGroup_authorised {resourceGroup : String} {who : Option String}
    (h : ∀ name, t.naming.sharedName who = .ok name →
      operation.Shares t.naming ⟨resourceGroup, name⟩) :
    Always (Authorised t operation) past
      (t.trySecurityGroup resourceGroup who : Action τ W Bool) :=
  .rescue (removeSecurityGroup_authorised h) fun _ _ =>
    .bind (.record authorised_logged) fun _ _ _ => .pure trivial

theorem removeResourceGroup_authorised (h : operation.Closes group) :
    Always (Authorised t operation) past (t.removeResourceGroup group : Action τ W Bool) := by
  unfold removeResourceGroup
  refine .bind (authorised_of_keeps [] Access.members_keeps) fun read found hfound => ?_
  dsimp only
  split
  · exact .bind (.log authorised_logged) fun _ _ _ => .pure trivial
  · refine .bind (.log authorised_logged) fun logged _ hlogged => ?_
    rw [hlogged]
    refine .bind (authorised_of_keeps []
      (Access.deleteGroup_keeps ⟨h, (hfound rfl).logged⟩)) fun _ handle _ => ?_
    exact authorised_of_keeps [] (isConfirmed_keeps limits_allowsFollowing)
  · exact .bind (.log authorised_logged) fun _ _ _ => .pure trivial

/-! ## Every operation -/

theorem carryOut_authorised (operation : Operation) :
    Always (Authorised t operation) past (t.carryOut operation : Action τ W Bool) := by
  cases operation with
  | node token => exact removeNode_authorised
  | interfaces machine =>
    exact authorised_of_keeps _ (removeInterfaces_keeps (covers_of_concerns rfl))
  | disks machine => exact authorised_of_keeps _ (removeDisks_keeps (covers_of_concerns rfl))
  | availabilitySet machine =>
    exact authorised_of_keeps _ (removeAvailabilitySet_keeps (covers_of_concerns rfl))
  | networks group =>
    exact authorised_of_keeps _ (removeNetworks_keeps (coversNetworks_of_scans rfl))
  | securityGroup resourceGroup who =>
    exact trySecurityGroup_authorised fun name hname => ⟨rfl, hname⟩
  | resourceGroup name => exact removeResourceGroup_authorised rfl
  | group resourceGroup who =>
    refine .bind (trySecurityGroup_authorised fun name hname => ⟨rfl, hname⟩) fun _ _ _ => ?_
    exact .bind (removeResourceGroup_authorised rfl) fun _ _ _ => .pure trivial

theorem carryOut_events (operation : Operation) (setting : Setting τ W) (session : Session τ W) :
    ∃ events, (left ((t.carryOut operation).run setting session)).trace.toList =
        session.trace.toList ++ events ∧
      (left ((t.carryOut operation).run setting session)).trace.toList.drop session.trace.size =
        events ∧
      Obeys (Authorised t operation) [] events := by
  obtain ⟨events, htrace, hobeys, -⟩ := carryOut_authorised (t := t) operation setting session
  refine ⟨events, htrace, ?_, hobeys⟩
  rw [htrace, ← Array.length_toList, List.drop_left]

/-- In every run of operations, with any provider and from any session, each delete is warranted by
what the same operation was told before. -/
theorem every_delete_is_warranted (t : Teardown τ) (setting : Setting τ W)
    (operations : List Operation) (session : Session τ W) :
    (t.afterAll setting operations session).trace.toList =
        session.trace.toList ++ ((t.episodes setting operations session).map (·.2)).flatten ∧
      (t.episodes setting operations session).map (·.1) = operations ∧
      ∀ operation events, (operation, events) ∈ t.episodes setting operations session →
        ∀ before request reply rest, events = before ++ .asked request reply :: rest →
          ∀ removal ∈ request.removal?, Warranted t operation before removal := by
  induction operations generalizing session with
  | nil => simp [afterAll, episodes]
  | cons operation rest ih =>
    obtain ⟨events, htrace, hevents, hobeys⟩ := carryOut_events (t := t) operation setting session
    obtain ⟨htotal, hnames, hrest⟩ := ih (left ((t.carryOut operation).run setting session))
    refine ⟨?_, ?_, ?_⟩
    · rw [afterAll, htotal, htrace]
      simp [episodes, hevents]
    · simp [episodes, hnames]
    · intro operation' events' hmem before request reply after hsplit removal hremoval
      rw [episodes] at hmem
      rcases List.mem_cons.mp hmem with hhere | hlater
      · obtain ⟨rfl, hhere⟩ := Prod.mk.inj hhere
        rw [hhere, hevents] at hsplit
        subst hsplit
        exact hobeys.at removal hremoval
      · exact hrest operation' events' hlater before request reply after hsplit removal hremoval

end Teardown

end Reclaim
