import Reclaim.Proofs.Signals.Pair
import Reclaim.Proofs.Time.Bound
import Reclaim.Proofs.Cascade.Ending

/-!
# No signal decides anything

A teardown asks for the same deletes and comes to the same result, whatever the listings of groups
show and whatever is found in looking for disks.
-/

namespace Reclaim

namespace Pair

open Reclaim.Action Timescale

variable {W α : Type} {pair : Pair W} {lags : Set Rat} {related : α → α → Prop}

/-! ## Waiting -/

/-- Both sides poll in step. Their deadlines lie as far apart as their clocks. -/
theorem poll_twins {condition : Action Rat W Bool} {lag : Rat} (h : pair.Steady {lag} condition)
    {deadline deadline' period : Rat} (hdeadline : deadline' - deadline = lag) (limit : Nat) :
    pair.Twins {lag} (· = ·) (Patience.poll deadline period condition limit)
      (Patience.poll deadline' period condition limit) := by
  induction limit with
  | zero => exact .stop
  | succ limit ih =>
    refine .then (.record rfl rfl) fun _ => .then h fun done => ?_
    cases done with
    | true => exact .pure rfl
    | false =>
      refine .ofNow fun clock clock' hlag => ?_
      -- Clock and deadline are ahead by the same lag, so both sides are late together.
      have hlate : atMost deadline' clock' = atMost deadline clock := by
        rw [Bool.eq_iff_iff, atMost_rat, atMost_rat]
        have hlag : clock' - clock = lag := hlag
        constructor <;> intro hle <;> linarith
      rw [hlate]
      split
      · exact .pure rfl
      · exact .then .sleep fun _ => ih

theorem await_twins {condition : Action Rat W Bool} (h : ∀ lag, pair.Steady {lag} condition)
    (p : Patience Rat) : pair.Steady Set.univ (p.await condition) := by
  refine .of_lag fun lag => .ofNow fun clock clock' hlag => ?_
  rw [counted_rat, pure_bind, pure_bind]
  refine .ofSetting ?_
  rw [pair.pollLimit]
  refine poll_twins (h lag) ?_ _
  have hlag : clock' - clock = lag := hlag
  change clock' + p.timeout - (clock + p.timeout) = lag
  linarith

/-! ## Access -/

theorem orGone_steady {fault : Fault} {verb : String} {subject : Subject}
    {whenGone : Action Rat W α} (h : pair.Steady lags whenGone) :
    pair.Steady lags (Access.orGone fault verb subject whenGone) := by
  unfold Access.orGone
  split
  · exact h
  · exact .stop

theorem get_steady {kind : Kind} (hkind : kind ≠ .disk) {group name : String} :
    pair.Steady lags (Access.get kind group name) := by
  refine .then (.ask (by cases kind <;> first | rfl | contradiction)) fun reply => ?_
  cases reply with
  | ok object => exact .bind .ofExcept fun _ _ hview => .pure (congrArg some hview)
  | error fault => exact orGone_steady (.pure rfl)

theorem list_steady {kind : Kind} {group : String} : pair.Steady lags (Access.list kind group) := by
  refine .then (.ask rfl) fun listing => ?_
  split
  · exact .pure rfl
  · exact orGone_steady (.pure rfl)

theorem delete_steady {kind : Kind} {group : String} {name : Option String} :
    pair.Steady lags (Access.delete kind group name) := by
  refine .ofSetting ?_
  rw [pair.deletesAtOnce]
  split
  · refine .then (.ask rfl) fun reply => ?_
    cases reply with
    | ok _ => exact .pure rfl
    | error fault => exact orGone_steady (.then (.record rfl rfl) fun _ => .pure rfl)
  · refine .then (.ask rfl) fun reply => ?_
    cases reply with
    | ok handle => exact .pure rfl
    | error fault => exact orGone_steady (.then (.record rfl rfl) fun _ => .pure rfl)

variable {t : Teardown Rat}

theorem isConfirmed_steady {handle : Option Handle} :
    pair.Steady Set.univ (t.isConfirmed handle) := by
  cases handle with
  | none => exact .pure rfl
  | some handle =>
    have hdone : ∀ lag, pair.Steady {lag} (Deletion.isDone handle) := fun lag =>
      .then (.ask rfl) fun _ => .ofExcept
    have hstatus : pair.Steady Set.univ (Deletion.status handle) := by
      refine .then (.ask rfl) fun reply => ?_
      refine .then .ofExcept fun status => ?_
      exact .pure rfl
    refine .then (await_twins hdone t.deletion) fun done => ?_
    cases done with
    | false => exact .then .log fun _ => .pure rfl
    | true =>
      refine .then hstatus fun status => ?_
      split
      · exact .then .log fun _ => .pure rfl
      · exact .pure rfl

theorem all_steady {act : α → Action Rat W Bool} (h : ∀ a, pair.Steady lags (act a))
    (items : List α) : pair.Steady lags (Teardown.all act items) := by
  induction items with
  | nil => exact .pure rfl
  | cons a rest ih =>
    refine .then (h a) fun done => ?_
    refine .then ih fun others => ?_
    exact .pure rfl

theorem failing_steady {act : α → Action Rat W Bool} (h : ∀ a, pair.Steady lags (act a))
    (items : List α) : pair.Steady lags (Teardown.failing act items) := by
  induction items with
  | nil => exact .pure rfl
  | cons a rest ih =>
    refine .then (h a) fun done => ?_
    refine .then ih fun others => ?_
    exact .pure rfl

/-! ## Interfaces -/

theorem removePublicIp_steady {id : ResourceId} : pair.Steady Set.univ (t.removePublicIp id) := by
  refine .then (get_steady (by decide)) fun found => ?_
  cases found with
  | none => exact .then .log fun _ => .pure rfl
  | some ip =>
    dsimp only
    split
    · exact .then .log fun _ => .pure rfl
    · refine .then .log fun _ => .then delete_steady fun handle => ?_
      refine .then isConfirmed_steady fun deleted => ?_
      exact .remark (.pure rfl)

theorem tryPublicIp_steady {id : ResourceId} : pair.Steady Set.univ (t.tryPublicIp id) :=
  .rescue removePublicIp_steady fun _ => .then .log fun _ => .pure rfl

theorem removeInterface_steady {interfaceId : String} :
    pair.Steady Set.univ (t.removeInterface interfaceId) := by
  refine .bind_ofExcept fun id _ => .then (get_steady (by decide)) fun found => ?_
  cases found with
  | none => exact .then .log fun _ => .pure rfl
  | some interface =>
    refine .bind_ofExcept fun publicIps _ => .then .log fun _ => ?_
    refine .then delete_steady fun handle => .then isConfirmed_steady fun deleted => ?_
    refine .remark (.then (all_steady (fun _ => tryPublicIp_steady) publicIps) fun ipsDeleted => ?_)
    exact .pure rfl

/-! ## Looking for what should be gone -/

theorem failing_neverRaises {act : α → Action Rat W Bool} (h : ∀ a, NeverRaises (act a))
    (items : List α) : NeverRaises (Teardown.failing act items) := by
  induction items with
  | nil => exact .pure
  | cons a rest ih => exact .bind (h a) fun _ => .bind ih fun _ => .pure

theorem warnOf_neverRaises {event : String} {ids : List ResourceId} :
    NeverRaises (Teardown.warnOf event ids : Action Rat W Unit) := by
  unfold Teardown.warnOf
  split
  · exact .pure
  · exact .record

/-- Different findings may lead to different warnings. -/
theorem warnOf_twins {event : String} {ids ids' : List ResourceId} :
    pair.Twins Set.univ (fun _ _ => True) (Teardown.warnOf event ids)
      (Teardown.warnOf event ids') :=
  .looking warnOf_neverRaises warnOf_neverRaises (fun _ => Scene.warnOf_settles)
    fun _ => Scene.warnOf_settles

section

variable (ht : t.HasTime pair.one.pollLimit)

include ht

theorem hasTime_other : t.HasTime pair.other.pollLimit := pair.pollLimit ▸ ht

theorem hasLeft_settles_one {world : W} {id : ResourceId} :
    (pair.lookOne world).Settles t.departure.span (t.hasLeft id) :=
  (pair.lookOne world).hasLeft_settles (fun _ => rfl) ht.departure ht.departure_polls

theorem hasLeft_settles_other {world : W} {id : ResourceId} :
    (pair.lookOther world).Settles t.departure.span (t.hasLeft id) :=
  (pair.lookOther world).hasLeft_settles (fun _ => rfl) ht.departure
    (hasTime_other ht).departure_polls

theorem hasLeft_twins {id : ResourceId} :
    pair.Twins Set.univ (fun _ _ => True) (t.hasLeft id) (t.hasLeft id) :=
  .looking checked_neverRaises checked_neverRaises (fun _ => hasLeft_settles_one ht)
    fun _ => hasLeft_settles_other ht

theorem departures_twins {ids : List ResourceId} :
    pair.Twins Set.univ (fun _ _ => True) (Teardown.failing t.hasLeft ids)
      (Teardown.failing t.hasLeft ids) :=
  .looking (failing_neverRaises (fun _ => checked_neverRaises) ids)
    (failing_neverRaises (fun _ => checked_neverRaises) ids)
    (fun _ => Scene.failing_settles ht.departure_span fun _ => hasLeft_settles_one ht)
    fun _ => Scene.failing_settles ht.departure_span fun _ => hasLeft_settles_other ht

theorem diskChecks_twins {isGone : ResourceId → Action Rat W Bool} (h : t.diskCheckOf = .ok isGone)
    {ids : List ResourceId} :
    pair.Twins Set.univ (fun _ _ => True)
      (Teardown.failing (fun id => Teardown.checked id (isGone id)) ids)
      (Teardown.failing (fun id => Teardown.checked id (isGone id)) ids) :=
  .looking (failing_neverRaises (fun _ => checked_neverRaises) ids)
    (failing_neverRaises (fun _ => checked_neverRaises) ids)
    (fun world => Scene.failing_settles ht.diskTime fun id => Scene.checked_settles
      ((pair.lookOne world).diskCheck_settles ht (fun _ _ => rfl) h id))
    fun world => Scene.failing_settles ht.diskTime fun id => Scene.checked_settles
      ((pair.lookOther world).diskCheck_settles (hasTime_other ht) (fun _ _ => rfl) h id)

/-! ## Disks -/

omit ht in
theorem requestDisks_steady (ids : List ResourceId) :
    pair.Steady Set.univ (Teardown.requestDisks ids) := by
  induction ids with
  | nil => exact .pure rfl
  | cons id rest ih =>
    refine .then .log fun _ => .then delete_steady fun handle => ?_
    refine .then ih fun others => ?_
    exact .pure rfl

theorem removeDisks_steady {machine : View.Machine} :
    pair.Steady Set.univ (t.removeDisks machine) := by
  refine .bind_ofExcept fun ids _ => .then (requestDisks_steady ids) fun jobs => ?_
  refine .then (failing_steady (fun _ => isConfirmed_steady) jobs) fun unconfirmed => ?_
  refine .bind warnOf_twins fun _ _ _ => .bind_ofExcept fun isGone hisGone => ?_
  refine .bind (diskChecks_twins ht hisGone) fun _ _ _ => .bind warnOf_twins fun _ _ _ => ?_
  exact .bind (departures_twins ht) fun _ _ _ => .bind warnOf_twins fun _ _ _ => .pure rfl

/-! ## Availability set and networks -/

omit ht in
theorem removeAvailabilitySet_steady {machine : View.Machine} :
    pair.Steady Set.univ (t.removeAvailabilitySet machine) := by
  unfold Teardown.removeAvailabilitySet
  cases View.given machine.availabilitySetId with
  | none => exact .pure rfl
  | some setId =>
    refine .bind_ofExcept fun id _ => .then (get_steady (by decide)) fun set => ?_
    split
    · exact .then .log fun _ => .pure rfl
    · refine .then .log fun _ => .then delete_steady fun handle => ?_
      refine .then isConfirmed_steady fun deleted => ?_
      exact .remark (.pure rfl)

theorem removeNetwork_steady {group : String} {network : Model.Tagged} :
    pair.Steady Set.univ (t.removeNetwork group network) := by
  refine .then .log fun _ => .then delete_steady fun handle => ?_
  refine .then isConfirmed_steady fun deleted => ?_
  refine .bind_ofExcept fun id _ => .bind (hasLeft_twins ht) fun left left' _ => ?_
  exact .remark (.remark (.pure rfl))

theorem tryNetwork_steady {group : String} {network : Model.Tagged} :
    pair.Steady Set.univ (t.tryNetwork group network) := by
  refine .rescue (removeNetwork_steady ht) fun fault => ?_
  split
  · exact .then .log fun _ => .pure rfl
  · exact .stop

theorem removeNetworks_steady {group : String} : pair.Steady Set.univ (t.removeNetworks group) := by
  refine .then list_steady fun networks => ?_
  exact all_steady (fun _ => tryNetwork_steady ht) _

/-! ## The machine and the stages -/

theorem removeMachine_steady {group : String} {machine : View.Machine} :
    pair.Steady Set.univ (t.removeMachine group machine) := by
  refine .then delete_steady fun handle => ?_
  refine .then isConfirmed_steady fun deleted => ?_
  refine .bind_ofExcept fun id _ => .bind (hasLeft_twins ht) fun left left' _ => ?_
  exact .remark (.pure rfl)

theorem perform_steady {group : String} {machine : View.Machine} {stage : Stage} :
    pair.Steady Set.univ (t.perform group machine stage) := by
  cases stage with
  | interfaces => exact all_steady (fun _ => removeInterface_steady) _
  | disks => exact removeDisks_steady ht
  | availabilitySet => exact removeAvailabilitySet_steady
  | networks => exact removeNetworks_steady ht

theorem tryStage_steady {node : NodeId} {machine : View.Machine} {stage : Stage} :
    pair.Steady Set.univ (t.tryStage node machine stage) := by
  refine .then (.rescue (perform_steady ht) fun fault => ?_) fun complete => ?_
  · exact .then (.record rfl rfl) fun _ => .pure rfl
  · split
    · exact .log
    · exact .pure rfl

theorem stages_steady {node : NodeId} {machine : View.Machine} (stages : List Stage) :
    pair.Steady Set.univ (stages.forM (t.tryStage node machine)) := by
  induction stages with
  | nil => exact .pure rfl
  | cons stage rest ih => exact .then (tryStage_steady ht) fun _ => ih

/-! ## The node -/

theorem removeNode_steady {token : Value} : pair.Steady Set.univ (t.removeNode token) := by
  refine .bind_ofExcept fun node _ => .then (get_steady (by decide)) fun found => ?_
  cases found with
  | none => exact .then .log fun _ => .pure rfl
  | some machine =>
    refine .then .log fun _ => .then (removeMachine_steady ht) fun deleted => ?_
    refine .then (stages_steady ht Stage.sequence) fun _ => ?_
    split
    · exact .then .log fun _ => .pure rfl
    · exact .then .log fun _ => .pure rfl

end

end Pair

open Reclaim.Action

variable {W : Type}

/-- Whatever the signals are, the teardown of a node asks for the same in both worlds, and it ends
in both with the same result or the same fault. -/
theorem removeNode_ignores_signals (pair : Pair W) {t : Teardown Rat}
    (ht : t.HasTime pair.one.pollLimit) {token : Value} {session session' : Session Rat W}
    (halike : pair.alike session.world session'.world) :
    Ends pair.one session (t.removeNode token) fun events outcome _ =>
      Ends pair.other session' (t.removeNode token) fun events' outcome' _ =>
        outcome = outcome' ∧ outcome ≠ .error .unfinished ∧ decisive events = decisive events' := by
  refine Ends.mono (Ends.and (removeNode_concludes ht pair.forward_one)
    (Pair.removeNode_steady ht session session' ⟨halike, trivial⟩)) ?_
  rintro events outcome after ⟨hconcludes, hother⟩
  refine Ends.mono hother fun events' outcome' after' ⟨hsame, hagree, _⟩ => ?_
  exact ⟨hagree.eq, fun hunfinished => hconcludes _ hunfinished rfl, hsame⟩

/-! ## Seeing everything and seeing nothing -/

namespace Mirage

/-- The providers differ in whether they still show what was deleted, or nothing at all. -/
def setting (shows : Bool) : Setting Rat Unit where
  provider := {
    answer
      | .get .disk _ name, world =>
        if shows then (.ok (some ⟨none, some name⟩), 0, world)
        else (.error (.response ⟨.notFound, "gone", none⟩), 0, world)
      | .members _, world =>
        if shows then (⟨[some ⟨⟨some "/subscriptions/s/resourceGroups/rg/providers/p/machines/vm",
          some "vm"⟩, none⟩], none⟩, 0, world)
        else (⟨[], some (.unreachable "down")⟩, 0, world)
      | request, world => Unending.provider.answer request world
    deletesAtOnce := Kind.deletesAtOnce }
  pollLimit := 1201

theorem provider_isInstant (shows : Bool) : (setting shows).provider.IsInstant := by
  intro request world
  cases request with
  | get kind _ _ => cases kind <;> cases shows <;> rfl
  | members _ => cases shows <;> rfl
  | _ => rfl

theorem answer_eq {request : Request} (h : request.isSignal = false) (shows shows' : Bool)
    (world : Unit) :
    (setting shows).provider.answer request world =
      (setting shows').provider.answer request world := by
  cases request with
  | get kind _ _ => cases kind <;> first | rfl | contradiction
  | members _ => contradiction
  | _ => rfl

def pair : Pair Unit where
  one := setting true
  other := setting false
  alike _ _ := True
  pollLimit := rfl
  deletesAtOnce := rfl
  answers h _ := by
    rw [answer_eq h false true]
    exact ⟨rfl, rfl, trivial⟩
  signals_one _ _ := trivial
  signals_other _ _ := trivial
  forward_one request world := (provider_isInstant true request world).ge
  forward_other request world := (provider_isInstant false request world).ge

theorem teardown_hasTime : Unending.teardown.HasTime 1201 where
  deletion := ⟨by decide +kernel, by decide +kernel⟩
  departure := ⟨by decide +kernel, by decide +kernel⟩
  diskTime := by decide +kernel
  polls := Unending.polls_teardown.le

theorem same_result :
    Ends (setting true) ⟨(), 0, #[]⟩ (Unending.teardown.removeNode (.str "rg/vm"))
      fun events outcome _ =>
        Ends (setting false) ⟨(), 0, #[]⟩ (Unending.teardown.removeNode (.str "rg/vm"))
          fun events' outcome' _ => outcome = outcome' ∧ outcome ≠ .error .unfinished ∧
            decisive events = decisive events' :=
  removeNode_ignores_signals pair teardown_hasTime trivial

end Mirage

end Reclaim
