import Reclaim.Assembly
import Reclaim.Proofs.Cloud.Mention
import Reclaim.Proofs.Stages
import Reclaim.Proofs.Time.Requests
import Reclaim.Proofs.Time.Workload

/-!
# How long a teardown may take

Whatever the provider answers, a teardown comes to an end, and the time that it takes is bounded by
the work that it met.
-/

namespace Reclaim

open Reclaim.Action

variable {W : Type}

/-! ## Enough polls and enough credit -/

/-- How many polls suffice for each wait of the teardown. -/
def Teardown.polls (t : Teardown Rat) : Nat :=
  max (max t.deletion.polls t.departure.polls) (t.diskCheck.elim 0 (·.patience.polls))

/-- The longest wait for a disk to be missing. -/
def Teardown.diskTime (t : Teardown Rat) : Rat := t.diskCheck.elim 0 (·.timeout)

/-- The time that an event may cost which shows public IPs or networks. -/
def Teardown.credit (t : Teardown Rat) (event : Event Rat) : Rat :=
  event.publicIps * t.deletion.span +
    event.ownedNetworks t.ownershipTag * (t.deletion.span + t.departure.span)

/-- The trackers wait for a time that is not nothing, and there are polls enough for all of it. -/
structure Teardown.HasTime (t : Teardown Rat) (limit : Nat) : Prop where
  deletion : t.deletion.IsPositive
  departure : t.departure.IsPositive
  diskTime : 0 ≤ t.diskTime
  polls : t.polls ≤ limit

namespace Teardown.HasTime

variable {t : Teardown Rat} {limit : Nat} (h : t.HasTime limit)

include h

theorem deletion_polls : t.deletion.polls ≤ limit :=
  (le_max_left _ _).trans ((le_max_left _ _).trans h.polls)

theorem departure_polls : t.departure.polls ≤ limit :=
  (le_max_right _ _).trans ((le_max_left _ _).trans h.polls)

theorem diskCheck_polls : t.diskCheck.elim 0 (·.patience.polls) ≤ limit :=
  (le_max_right _ _).trans h.polls

theorem deletion_span : 0 ≤ t.deletion.span := h.deletion.span_nonneg

theorem departure_span : 0 ≤ t.departure.span := h.departure.span_nonneg

end Teardown.HasTime

/-- In the scene everything may be asked, and there are time and credit enough for the teardown. -/
structure Scene.Suits (scene : Scene W) (t : Teardown Rat) : Prop extends
    t.HasTime scene.setting.pollLimit where
  asks : ∀ request, scene.asks request
  credit : scene.credit = t.credit

namespace Scene

variable {scene : Scene W} {t : Teardown Rat} (hsuits : scene.Suits t)

include hsuits

namespace Suits

theorem isConfirmed {handle : Option Handle} :
    scene.Settles t.deletion.span (t.isConfirmed handle) :=
  isConfirmed_settles (fun _ => hsuits.asks _) (fun _ => hsuits.asks _) hsuits.deletion
    hsuits.deletion_polls

theorem hasLeft {id : ResourceId} : scene.Settles t.departure.span (t.hasLeft id) :=
  hasLeft_settles (fun _ => hsuits.asks _) hsuits.departure hsuits.departure_polls

theorem delete {kind : Kind} {group : String} {name : Option String} :
    scene.Settles 0 (Access.delete kind group name) :=
  delete_settles (hsuits.asks _) (hsuits.asks _)

theorem get {kind : Kind} {group name : String} : scene.Settles 0 (Access.get kind group name) :=
  get_settles (hsuits.asks _)

end Suits

/-! ## Interfaces -/

theorem removePublicIp_settles {id : ResourceId} :
    scene.Settles t.deletion.span (t.removePublicIp id) := by
  have hspan := hsuits.deletion_span
  refine .before hsuits.get (fun found => ?_) hspan
  cases found with
  | none => exact .before .log (fun _ => .pure hspan) hspan
  | some ip =>
    dsimp only
    split
    · exact .before .log (fun _ => .pure hspan) hspan
    · refine .before .log (fun _ => .before hsuits.delete (fun handle => ?_) hspan) hspan
      exact .followed hsuits.isConfirmed fun deleted => .remark (.pure le_rfl) le_rfl

theorem tryPublicIp_settles {id : ResourceId} :
    scene.Settles t.deletion.span (t.tryPublicIp id) :=
  .rescue (removePublicIp_settles hsuits) fun _ => .before .log (fun _ => .pure le_rfl) le_rfl

omit hsuits in
theorem length_eq_of_mapM {α β : Type} {read : α → Except Fault β} {items : List α}
    {results : List β} (h : items.mapM read = .ok results) : results.length = items.length :=
  (View.forall₂_of_mapM h).length_eq.symm

/-- The public IPs of an interface are paid for by the event that shows them. -/
theorem removeInterface_settles {interfaceId : String} :
    scene.Settles t.deletion.span (t.removeInterface interfaceId) := by
  have hspan := hsuits.deletion_span
  refine .ofExcept_bind hspan fun id _ => ?_
  let worth : Option View.Interface → Rat := fun found =>
    found.elim 0 fun interface => interface.publicIpIds.length * t.deletion.span
  have hget : scene.SettlesFor (leftover worth)
      (Access.get .networkInterface id.group id.name) := by
    refine get_settlesFor (hsuits.asks _) le_rfl fun object interface hview => ?_
    simp [worth, hsuits.credit, Teardown.credit, Event.publicIps_eq hview, Event.ownedNetworks]
  refine SettlesFor.bind hget (fun found => ?_) fun _ => hspan
  cases found with
  | none =>
    refine .before .log (fun _ => .pure ?_) ?_
    · simpa [leftover, worth] using hspan
    · simpa [leftover, worth] using hspan
  | some interface =>
    have hips : 0 ≤ (interface.publicIpIds.length : Rat) * t.deletion.span :=
      mul_nonneg (Nat.cast_nonneg _) hspan
    -- What the fetch left over is added to the span for the interface itself.
    have htime : t.deletion.span - leftover worth (.ok (some interface)) =
        t.deletion.span + interface.publicIpIds.length * t.deletion.span := by
      simp [leftover, worth]
    rw [htime]
    have htotal := add_nonneg hspan hips
    refine .ofExcept_bind htotal fun publicIps hread => ?_
    rw [← length_eq_of_mapM hread] at hips htotal ⊢
    refine .before .log (fun _ => .before hsuits.delete (fun handle => ?_) htotal) htotal
    refine .bind hsuits.isConfirmed (fun deleted => ?_) hips
    have hwalk : scene.Settles (publicIps.length * t.deletion.span) (do
        let ipsDeleted ← Teardown.all t.tryPublicIp publicIps
        return deleted && ipsDeleted) :=
      .followed (all_settles hspan fun _ => tryPublicIp_settles hsuits) fun _ => .pure le_rfl
    exact .remark hwalk hips

theorem removeInterfaces_settles {machine : View.Machine} :
    scene.Settles (Workload.interfacesOf machine * t.deletion.span) (t.removeInterfaces machine) :=
  all_settles hsuits.deletion_span fun _ => removeInterface_settles hsuits

/-! ## Disks -/

omit hsuits in
theorem length_of_requestDisks {setting : Setting Rat W} {session after : Session Rat W}
    {ids : List ResourceId} {jobs : List (ResourceId × Handle)}
    (h : (Teardown.requestDisks ids).run setting session = .ok jobs after) :
    jobs.length ≤ ids.length := by
  induction ids generalizing session jobs after with
  | nil =>
    cases h
    exact le_rfl
  | cons id rest ih =>
    obtain ⟨_, logged, -, h⟩ := run_bind_eq_ok.mp h
    obtain ⟨handle, asked, -, h⟩ := run_bind_eq_ok.mp h
    obtain ⟨others, requested, hrest, h⟩ := run_bind_eq_ok.mp h
    cases h
    have := ih hrest
    cases handle with
    | none => simp; omega
    | some handle => simp; omega

theorem requestDisks_settles {ids : List ResourceId} :
    scene.Settles 0 (Teardown.requestDisks ids) := by
  induction ids with
  | nil => exact .pure le_rfl
  | cons id rest ih =>
    refine .before .log (fun _ => .before hsuits.delete (fun _ => ?_) le_rfl) le_rfl
    exact .before ih (fun _ => .pure le_rfl) le_rfl

omit hsuits in
theorem warnOf_settles {event : String} {ids : List ResourceId} :
    scene.Settles 0 (Teardown.warnOf event ids) := by
  unfold Teardown.warnOf
  split
  · exact .pure le_rfl
  · exact .log

omit hsuits in
theorem diskCheck_settles (ht : t.HasTime scene.setting.pollLimit)
    (hasks : ∀ group name, scene.asks (.get .disk group name))
    {isGone : ResourceId → Action Rat W Bool} (h : t.diskCheckOf = .ok isGone) (id : ResourceId) :
    scene.Settles t.diskTime (isGone id) := by
  have hmissing : scene.Settles 0 (Teardown.isDiskMissing id) :=
    .before (get_settles (hasks _ _)) (fun _ => .pure le_rfl) le_rfl
  obtain ⟨-, rfl⟩ | ⟨_, escalation, hcheck, hchecked, rfl⟩ := Teardown.diskCheckOf_eq_ok h
  · exact hmissing.mono fun _ => ht.diskTime
  · obtain ⟨rfl, hpositive, hceiling⟩ := Escalation.checked_eq_ok hchecked
    have hpolls := ht.diskCheck_polls
    rw [hcheck] at hpolls
    rw [Teardown.diskTime, hcheck]
    exact escalation_settles hmissing hpositive hceiling hpolls

theorem removeDisks_settles {machine : View.Machine} :
    scene.Settles (Workload.disksOf machine *
      (t.deletion.span + (t.diskTime + t.departure.span))) (t.removeDisks machine) := by
  have hdeletion := hsuits.deletion_span
  have hdeparture := hsuits.departure_span
  have hdiskTime := hsuits.diskTime
  have hnonneg : ∀ {n : Nat} {x : Rat}, 0 ≤ x → 0 ≤ (n : Rat) * x :=
    fun hx => mul_nonneg (Nat.cast_nonneg _) hx
  refine .ofExcept_bind (hnonneg (by linarith)) fun ids hids => ?_
  have hcount : Workload.disksOf machine = ids.length := by
    rw [Workload.disksOf, hids]
    rfl
  have hwarned : ∀ {event : String} {unconfirmed : List ResourceId},
      scene.Settles 0 (Teardown.warnOf event unconfirmed) := warnOf_settles
  rw [hcount, mul_add, mul_add]
  refine (Settles.bind_ran (requestDisks_settles hsuits) (fun _ jobs _ hran => ?_)
    (add_nonneg (hnonneg hdeletion) (add_nonneg (hnonneg hdiskTime) (hnonneg hdeparture)))).mono
    fun _ => (zero_add _).le
  -- A disk that was already gone gives no handle to follow.
  have hjobs : (jobs.length : Rat) * t.deletion.span ≤ ids.length * t.deletion.span :=
    mul_le_mul_of_nonneg_right (by exact_mod_cast length_of_requestDisks hran) hdeletion
  refine .bind ((failing_settles hdeletion fun _ => hsuits.isConfirmed).mono fun _ => hjobs)
    (fun unconfirmed => ?_) (add_nonneg (hnonneg hdiskTime) (hnonneg hdeparture))
  refine .before hwarned (fun _ => .ofExcept_bind ?_ fun isGone hisGone => ?_) ?_
  · exact add_nonneg (hnonneg hdiskTime) (hnonneg hdeparture)
  · refine .bind (failing_settles hdiskTime fun id =>
      checked_settles (diskCheck_settles hsuits.toHasTime (fun _ _ => hsuits.asks _) hisGone id))
      (fun present => .before hwarned (fun _ => ?_) (hnonneg hdeparture)) (hnonneg hdeparture)
    exact .followed (failing_settles hdeparture fun _ => hsuits.hasLeft) fun listed =>
      .before hwarned (fun _ => .pure le_rfl) le_rfl
  · exact add_nonneg (hnonneg hdiskTime) (hnonneg hdeparture)

/-! ## Availability set and networks -/

theorem removeAvailabilitySet_settles {machine : View.Machine} :
    scene.Settles (Workload.availabilitySetsOf machine * t.deletion.span)
      (t.removeAvailabilitySet machine) := by
  have hspan := hsuits.deletion_span
  unfold Teardown.removeAvailabilitySet Workload.availabilitySetsOf
  cases View.given machine.availabilitySetId with
  | none => exact .pure (by simp)
  | some setId =>
    rw [Option.isSome_some, if_pos rfl, Nat.cast_one, one_mul]
    refine .before (.ofExcept le_rfl) (fun id => .before hsuits.get (fun set => ?_) hspan) hspan
    split
    · exact .before .log (fun _ => .pure hspan) hspan
    · refine .before .log (fun _ => .before hsuits.delete (fun handle => ?_) hspan) hspan
      exact .followed hsuits.isConfirmed fun deleted => .remark (.pure le_rfl) le_rfl

theorem removeNetwork_settles {group : String} {network : Model.Tagged} :
    scene.Settles (t.deletion.span + t.departure.span) (t.removeNetwork group network) := by
  have hdeletion := hsuits.deletion_span
  have hdeparture := hsuits.departure_span
  have htotal := add_nonneg hdeletion hdeparture
  refine .before .log (fun _ => .before hsuits.delete (fun handle => ?_) htotal) htotal
  refine .bind hsuits.isConfirmed (fun deleted => ?_) hdeparture
  refine .before (.ofExcept le_rfl) (fun id => .followed hsuits.hasLeft fun left => ?_) hdeparture
  exact .remark (.remark (.pure le_rfl) le_rfl) le_rfl

theorem tryNetwork_settles {group : String} {network : Model.Tagged} :
    scene.Settles (t.deletion.span + t.departure.span) (t.tryNetwork group network) := by
  refine .rescue (removeNetwork_settles hsuits) fun fault => ?_
  split
  · exact .before .log (fun _ => .pure le_rfl) le_rfl
  · exact .raise le_rfl

/-- The networks are paid for by the listing that shows them. -/
theorem removeNetworks_settles {group : String} : scene.Settles 0 (t.removeNetworks group) := by
  have hspan := add_nonneg hsuits.deletion_span hsuits.departure_span
  let worth : List Model.Tagged → Rat := fun networks =>
    (networks.filter (Ownership.isOwnedNetwork t.ownershipTag)).length *
      (t.deletion.span + t.departure.span)
  have hlist : scene.SettlesFor (leftover worth) (Access.list .virtualNetwork group) := by
    refine list_settlesFor (hsuits.asks _) (by simp [worth]) fun listing networks hread => ?_
    simp [worth, hsuits.credit, Teardown.credit, Event.publicIps, Event.ownedNetworks_eq hread]
  refine SettlesFor.bind hlist (fun networks => ?_) fun _ => le_rfl
  rw [show 0 - leftover worth (.ok networks) = worth networks by simp [leftover]]
  exact all_settles hspan fun _ => tryNetwork_settles hsuits

/-! ## The machine and the stages -/

theorem removeMachine_settles {group : String} {machine : View.Machine} :
    scene.Settles (t.deletion.span + t.departure.span) (t.removeMachine group machine) := by
  have hdeletion := hsuits.deletion_span
  have hdeparture := hsuits.departure_span
  refine .before hsuits.delete (fun handle => ?_) (add_nonneg hdeletion hdeparture)
  refine .bind hsuits.isConfirmed (fun deleted => ?_) hdeparture
  refine .before (.ofExcept le_rfl) (fun id => .followed hsuits.hasLeft fun left => ?_) hdeparture
  exact .remark (.pure le_rfl) le_rfl

/-- What a stage may take beside the time that its events are worth. -/
def stageTime (t : Teardown Rat) (machine : View.Machine) : Stage → Rat
  | .interfaces => Workload.interfacesOf machine * t.deletion.span
  | .disks => Workload.disksOf machine * (t.deletion.span + (t.diskTime + t.departure.span))
  | .availabilitySet => Workload.availabilitySetsOf machine * t.deletion.span
  | .networks => 0

theorem perform_settles {group : String} {machine : View.Machine} {stage : Stage} :
    scene.Settles (stageTime t machine stage) (t.perform group machine stage) := by
  cases stage with
  | interfaces => exact removeInterfaces_settles hsuits
  | disks => exact removeDisks_settles hsuits
  | availabilitySet => exact removeAvailabilitySet_settles hsuits
  | networks => exact removeNetworks_settles hsuits

theorem tryStage_settles {node : NodeId} {machine : View.Machine} {stage : Stage} :
    scene.Settles (stageTime t machine stage) (t.tryStage node machine stage) := by
  refine .followed (.rescue (perform_settles hsuits) fun fault => ?_) fun complete => ?_
  · exact .before (.record (by simp)) (fun _ => .pure le_rfl) le_rfl
  · split
    · exact .log
    · exact .pure le_rfl

theorem stageTime_nonneg {machine : View.Machine} {stage : Stage} :
    0 ≤ stageTime t machine stage := by
  have hdeletion := hsuits.deletion_span
  have hdeparture := hsuits.departure_span
  have hdiskTime := hsuits.diskTime
  cases stage with
  | networks => exact le_rfl
  | _ => exact mul_nonneg (Nat.cast_nonneg _) (by linarith)

theorem stagesTime_nonneg {machine : View.Machine} {stages : List Stage} :
    0 ≤ (stages.map (stageTime t machine)).sum := by
  refine List.sum_nonneg fun time htime => ?_
  obtain ⟨stage, -, rfl⟩ := List.mem_map.mp htime
  exact stageTime_nonneg hsuits

theorem stages_settle {node : NodeId} {machine : View.Machine} {stages : List Stage} :
    scene.Settles (stages.map (stageTime t machine)).sum
      (stages.forM (t.tryStage node machine)) := by
  induction stages with
  | nil => exact .pure le_rfl
  | cons stage rest ih =>
    exact .bind (tryStage_settles hsuits) (fun _ => ih) (stagesTime_nonneg hsuits)

/-! ## The node -/

/-- What the teardown of a machine may take beside the time that its events are worth. -/
def machineTime (t : Teardown Rat) (machine : View.Machine) : Rat :=
  t.deletion.span + t.departure.span + (Stage.sequence.map (stageTime t machine)).sum

theorem machineTime_nonneg {machine : View.Machine} : 0 ≤ machineTime t machine :=
  add_nonneg (add_nonneg hsuits.deletion_span hsuits.departure_span) (stagesTime_nonneg hsuits)

theorem cascade_settles {node : NodeId} {machine : View.Machine} {fields : Log.Fields} :
    scene.Settles (machineTime t machine) (do
      log .info "destroying_node" fields
      let deleted ← t.removeMachine node.group machine
      Stage.sequence.forM (t.tryStage node machine)
      if deleted then log .info "node_destroyed" fields
      else log .warning "node_not_deleted" fields
      return deleted) := by
  refine .before .log (fun _ => ?_) (machineTime_nonneg hsuits)
  refine .bind (removeMachine_settles hsuits) (fun deleted => ?_) (stagesTime_nonneg hsuits)
  refine .followed (stages_settle hsuits) fun _ => ?_
  split
  · exact .before .log (fun _ => .pure le_rfl) le_rfl
  · exact .before .log (fun _ => .pure le_rfl) le_rfl

/-- The machine is known from the event that shows it. -/
theorem removeNode_settled {token : Value} {session : Session Rat W}
    (hholds : scene.holds session.world) :
    Ends scene.setting session (t.removeNode token) fun events outcome after =>
      scene.Settled ((events.findSome? Event.machine?).elim 0 (machineTime t)) session events
        outcome after := by
  have hnonneg : ∀ events : List (Event Rat),
      0 ≤ (events.findSome? Event.machine?).elim 0 (machineTime t) := by
    intro events
    cases events.findSome? Event.machine? with
    | none => exact le_rfl
    | some machine => exact machineTime_nonneg hsuits
  unfold Teardown.removeNode
  cases NodeId.read token with
  | error fault =>
    exact Ends.stop
      (settled_still concludes_raised (fun _ _ => List.not_mem_nil) le_rfl hholds rfl rfl)
  | ok node =>
    rw [show (Action.ofExcept (.ok node) : Action Rat W NodeId) = pure node from rfl, pure_bind]
    refine Ends.bind (Ends.and (hsuits.get session hholds) get_shows) ?_ ?_
    · rintro events found read ⟨hread, hshows⟩
      cases found with
      | none =>
        have hnothing : scene.Settles 0 (do
            log .debug "node_already_deleted" [("node_id", token)]
            return true) := .before .log (fun _ => .pure le_rfl) le_rfl
        exact Ends.mono (hread.then (hnothing read hread.holds) (add_zero 0).le)
          fun more outcome after h => h.mono (hnonneg _)
      | some machine =>
        obtain ⟨object, hview, rfl⟩ := hshows machine rfl
        refine Ends.mono (hread.then (cascade_settles hsuits read hread.holds) (zero_add _).le)
          fun more outcome after h => h.mono (le_of_eq ?_)
        rw [List.singleton_append, List.findSome?_cons, Event.machine?_eq hview]
        rfl
    · rintro events reason read ⟨hread, -⟩
      exact hread.error.mono (hnonneg _)

end Scene

/-- The scene in which everything may be asked, in every world. -/
def Teardown.anywhere (t : Teardown Rat) (setting : Setting Rat W)
    (hdeletion : t.deletion.IsPositive) (hdeparture : t.departure.IsPositive)
    (hforward : ∀ request world, 0 ≤ (setting.provider.answer request world).2.1) : Scene W where
  setting := setting
  asks _ := True
  holds _ := True
  credit := t.credit
  credit_nonneg event := by
    have hdeletion := hdeletion.span_nonneg
    have hdeparture := hdeparture.span_nonneg
    exact add_nonneg (mul_nonneg (Nat.cast_nonneg _) hdeletion)
      (mul_nonneg (Nat.cast_nonneg _) (add_nonneg hdeletion hdeparture))
  elapsed_nonneg _ _ := hforward _ _
  holds_answer _ _ := trivial

section

variable {t : Teardown Rat} {setting : Setting Rat W} (ht : t.HasTime setting.pollLimit)
variable (hforward : ∀ request world, 0 ≤ (setting.provider.answer request world).2.1)

theorem Teardown.anywhere_suits :
    (t.anywhere setting ht.deletion ht.departure hforward).Suits t :=
  { ht with asks := fun _ => trivial, credit := rfl }

include ht hforward

/-- Whatever the provider answers, no tracker runs out of polls. -/
theorem removeNode_concludes {token : Value} {session : Session Rat W} :
    Ends setting session (t.removeNode token) fun _ outcome _ => Concludes outcome :=
  Ends.mono (Scene.removeNode_settled (Teardown.anywhere_suits ht hforward) trivial)
    fun _ _ _ hsettled => hsettled.concludes

end

/-! ## The bound in terms of the settings -/

/-- The longest time that the settings allow for the work. -/
def Settings.longest (s : Settings Rat) (work : Workload) : Rat :=
  (1 + work.interfaces + work.publicIps + work.disks + work.availabilitySets + work.networks) *
      (s.deletionTimeout + s.deletionPeriod) +
    (1 + work.disks + work.networks) * (s.departureTimeout + s.departurePeriod) +
      work.disks * s.diskTimeout

theorem except_bind_eq_ok {α β : Type} {result : Except Fault α} {next : α → Except Fault β} {b : β}
    (h : result >>= next = .ok b) : ∃ a, result = .ok a ∧ next a = .ok b := by
  cases result with
  | ok a => exact ⟨a, rfl, h⟩
  | error fault => cases h

/-- The teardown waits as long as the settings say. -/
structure Teardown.Follows (t : Teardown Rat) (s : Settings Rat) : Prop where
  deletion : t.deletion = ⟨s.deletionTimeout, s.deletionPeriod⟩
  deletion_isPositive : t.deletion.IsPositive
  departure : t.departure = ⟨s.departureTimeout, s.departurePeriod⟩
  departure_isPositive : t.departure.IsPositive
  diskCheck : t.diskCheck = some ⟨s.diskTimeout, s.diskPeriod, s.diskCeiling⟩
  ownershipTag : t.ownershipTag = s.ownershipTag

theorem Assembly.follows {s : Settings Rat} {supplies : Supplies} {assembly : Assembly Rat}
    (h : Assembly.make s supplies = .ok assembly) : assembly.teardown.Follows s := by
  obtain ⟨t, printer, events⟩ := assembly
  have ht : teardownOf s = .ok t := by
    unfold make at h
    split at h
    all_goals
      split at h
      all_goals
        obtain ⟨printer, -, h⟩ := except_bind_eq_ok h
        obtain ⟨events, -, h⟩ := except_bind_eq_ok h
        obtain ⟨t, ht, h⟩ := except_bind_eq_ok h
        cases h
        exact ht
  obtain ⟨deletion, hdeletion, ht⟩ := except_bind_eq_ok ht
  obtain ⟨departure, hdeparture, ht⟩ := except_bind_eq_ok ht
  obtain ⟨naming, -, ht⟩ := except_bind_eq_ok ht
  cases ht
  obtain ⟨rfl, hdeletion⟩ := Patience.make_eq_ok hdeletion
  obtain ⟨rfl, hdeparture⟩ := Patience.make_eq_ok hdeparture
  exact ⟨rfl, hdeletion, rfl, hdeparture, rfl, rfl⟩

theorem Settings.diskTimeout_pos {given s : Settings Rat} (h : given.checked = .ok s) :
    0 < s.diskTimeout := by
  unfold checked at h
  cases hfind : given.durations.find? fun (_, d) => !Timescale.isPositive d with
  | some found =>
    rw [hfind] at h
    cases h
  | none =>
    rw [hfind] at h
    have hpositive := List.find?_eq_none.mp hfind ("disk_deleted_timeout", given.diskTimeout)
      (by simp [durations])
    dsimp only at h
    split at h
    · cases h
    · split at h
      · cases h
      · cases h
        simpa using hpositive

theorem credit_eq {t : Teardown Rat} (events : List (Event Rat)) :
    (events.map t.credit).sum =
      (Workload.of t.ownershipTag events).publicIps * t.deletion.span +
        (Workload.of t.ownershipTag events).networks * (t.deletion.span + t.departure.span) := by
  induction events with
  | nil => simp [Workload.of]
  | cons event rest ih =>
    rw [List.map_cons, List.sum_cons, ih]
    simp only [Teardown.credit, Workload.of, List.map_cons, List.sum_cons, Nat.cast_add]
    ring

theorem time_le_longest {t : Teardown Rat} {s : Settings Rat} (h : t.Follows s)
    (events : List (Event Rat)) :
    (events.findSome? Event.machine?).elim 0 (Scene.machineTime t) + (events.map t.credit).sum ≤
      s.longest (Workload.of s.ownershipTag events) := by
  have hdeletion : t.deletion.span = s.deletionTimeout + s.deletionPeriod := by
    rw [h.deletion, Patience.span]
  have hdeparture : t.departure.span = s.departureTimeout + s.departurePeriod := by
    rw [h.departure, Patience.span]
  have hdiskTime : t.diskTime = s.diskTimeout := by
    rw [Teardown.diskTime, h.diskCheck, Option.elim_some]
  rw [credit_eq, h.ownershipTag, Settings.longest, ← hdeletion, ← hdeparture, ← hdiskTime]
  cases hmachine : events.findSome? Event.machine? with
  | none =>
    have hspare := add_nonneg h.deletion_isPositive.span_nonneg h.departure_isPositive.span_nonneg
    simp only [Workload.of, hmachine, Option.elim_none, Nat.cast_zero]
    linarith
  | some machine =>
    simp only [Workload.of, hmachine, Option.elim_some, Scene.machineTime, Stage.sequence,
      Scene.stageTime, List.map_cons, List.map_nil, List.sum_cons, List.sum_nil]
    linarith

/-- Whatever the provider answers, the teardown of a node ends, and it takes no longer than the
settings allow for the work that its trace shows. -/
theorem removeNode_ends_in_time {given s : Settings Rat} (hchecked : given.checked = .ok s)
    {supplies : Supplies} {assembly : Assembly Rat}
    (hmake : Assembly.make s supplies = .ok assembly) {provider : Provider Rat W}
    (hinstant : provider.IsInstant) {limit : Nat} (hlimit : assembly.teardown.polls ≤ limit)
    {session : Session Rat W} {token : Value} :
    Ends ⟨provider, limit⟩ session (assembly.teardown.removeNode token) fun events outcome after =>
      outcome ≠ .error .unfinished ∧
        after.clock ≤ session.clock + s.longest (Workload.of s.ownershipTag events) := by
  have hfollows := Assembly.follows hmake
  have ht : assembly.teardown.HasTime limit := {
    deletion := hfollows.deletion_isPositive
    departure := hfollows.departure_isPositive
    diskTime := by
      rw [Teardown.diskTime, hfollows.diskCheck]
      exact (Settings.diskTimeout_pos hchecked).le
    polls := hlimit }
  have hsuits := @Teardown.anywhere_suits W _ ⟨provider, limit⟩ ht
    fun request world => (hinstant request world).ge
  refine Ends.mono (Scene.removeNode_settled hsuits trivial) fun events outcome after hsettled => ?_
  refine ⟨fun hunfinished => hsettled.concludes _ hunfinished rfl, ?_⟩
  refine (hsettled.inTime hinstant).trans ?_
  rw [add_assoc]
  exact add_le_add_right (time_le_longest hfollows events) _

/-! ## A provider that finishes nothing -/

namespace Unending

/-- Whatever is asked for is found, and no delete comes to an end. -/
def provider : Provider Rat Unit where
  answer
    | .get .virtualMachine _ _, world =>
      (.ok (some {
        id := some "/subscriptions/s/resourceGroups/rg/providers/p/machines/vm"
        name := some "vm"
        interfaces := [some ⟨some "/subscriptions/s/resourceGroups/rg/providers/p/nics/nic"⟩]
        osDisk := some ⟨some "/subscriptions/s/resourceGroups/rg/providers/p/disks/d"⟩
        dataDisks := []
        availabilitySet := none }), 0, world)
    | .get .disk _ name, world => (.ok (some ⟨none, some name⟩), 0, world)
    | .get _ _ _, world => (.error (.unreachable "down"), 0, world)
    | .list _ _, world => (⟨[], none⟩, 0, world)
    | .beginDelete _ _ _, world => (.ok (some ⟨1⟩), 0, world)
    | .delete _ _ _, world => (.ok (), 0, world)
    | .members _, world => (⟨[], some (.unreachable "down")⟩, 0, world)
    | .beginDeleteGroup _, world => (.ok none, 0, world)
    | .isDone _, world => (.ok false, 0, world)
    | .status _, world => (.ok none, 0, world)
  deletesAtOnce := Kind.deletesAtOnce

theorem provider_isInstant : provider.IsInstant := by
  intro request world
  cases request with
  | get kind _ _ => cases kind <;> rfl
  | _ => rfl

/-- What the settings are made into that hold unless others are given. -/
def teardown : Teardown Rat where
  deletion := ⟨600, 5⟩
  departure := ⟨300, 5⟩
  diskCheck := some ⟨1200, 1, 15⟩
  naming := .standard
  ownershipTag := "jclouds"
  generatedTag := "autogenerated"

theorem polls_teardown : teardown.polls = 1201 := by
  decide +kernel

theorem ends_in_time :
    Ends ⟨provider, 1201⟩ ⟨(), 0, #[]⟩ (teardown.removeNode (.str "rg/vm"))
      fun events outcome after => outcome ≠ .error .unfinished ∧
        after.clock ≤ 0 + Settings.standard.longest (Workload.of "jclouds" events) := by
  have hchecked : (Settings.standard : Settings Rat).checked = .ok Settings.standard := by rfl
  have hmake : Assembly.make (Settings.standard : Settings Rat) ⟨true, true⟩ =
      .ok ⟨teardown, none, []⟩ := by rfl
  exact removeNode_ends_in_time hchecked hmake provider_isInstant polls_teardown.le

end Unending

end Reclaim
