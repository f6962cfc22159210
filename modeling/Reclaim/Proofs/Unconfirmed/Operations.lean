import Reclaim.Proofs.Unconfirmed.Trackers
import Reclaim.Proofs.Cascade.Ending

/-!
# Every delete given up is named

Each step names what it gave up before it ends, or leaves it to the step around it as a debt. A
security group and a resource group are never named.
-/

namespace Reclaim

open Reclaim.Action

variable {τ W α : Type} {operation : Operation} {base debts : List Removal}
variable {past : List (Event τ)}

/-- What is to be reported if the delete is given up. -/
def Operation.debt (operation : Operation) (removal : Removal) : List Removal :=
  (operation.reportedAs removal).toList

theorem eq_of_mem_debt {kind : Kind} {group : String} {name : Option String}
    (hkind : kind ≠ .virtualMachine) {removal : Removal}
    (h : removal ∈ operation.debt (.resource kind group name)) :
    removal = .resource kind group name := by
  cases kind <;> simp_all [Operation.debt, Operation.reportedAs]

theorem names_about {kind : Kind} {group : String} {name : Option String} {channel : Log.Channel}
    {event : String} {fault : Option Fault} :
    Log.Entry.Names ⟨channel, event, Teardown.about group name, fault⟩
      (.resource kind group name) := by
  simp [Log.Entry.Names, Teardown.about]

theorem names_debt {kind : Kind} {group : String} {name : Option String} {event : String}
    (hkind : kind ≠ .virtualMachine) :
    ∀ removal ∈ operation.debt (.resource kind group name),
      Log.Entry.Names ⟨.warning, event, Teardown.about group name, none⟩ removal := by
  intro removal hdebt
  rw [eq_of_mem_debt hkind hdebt]
  exact names_about

/-- The action names all that it gives up, and leaves the debts of others as they are. -/
abbrev Action.Clears (operation : Operation) (base : List Removal) (action : Action τ W α) : Prop :=
  ∀ past : List (Event τ), Accounts operation base past base action (fun _ _ => True) fun _ => base

/-! ## The tracker of a delete -/

/-- Behind events without a notice there is room for the one notice only. -/
theorem notice_is_last {quiet before later : List (Event τ)} {notice other : Event τ}
    (h : quiet ++ [notice] = before ++ other :: later) (hquiet : ∀ event ∈ quiet, ¬ event.IsNotice)
    (hother : other.IsNotice) : quiet = before ∧ notice = other ∧ later = [] := by
  rcases List.eq_nil_or_concat later with rfl | ⟨rest, last, rfl⟩
  · obtain ⟨hsame, hlast⟩ := List.append_inj' h rfl
    exact ⟨hsame, (List.cons.inj hlast).1, rfl⟩
  · rw [List.concat_eq_append, ← List.cons_append, ← List.append_assoc] at h
    obtain ⟨hsame, -⟩ := List.append_inj' h rfl
    exact absurd hother (hquiet other (by simp [hsame]))

variable [Timescale τ] {t : Teardown τ}

theorem isConfirmed_accounts (hfits : t.deletion.Fits) {removal : Removal}
    {handle : Option Handle} (hopened : ∀ h ∈ handle, (removal, h) ∈ openings past) :
    Accounts operation base past debts (t.isConfirmed handle : Action τ W Bool) (fun _ _ => True)
      fun confirmed => if confirmed then debts else operation.debt removal ++ debts := by
  cases handle with
  | none => exact .pure trivial (by simp)
  | some handle =>
    intro setting session
    refine Ends.mono (isConfirmed_tracked hfits) fun events outcome after htracked => ?_
    refine ⟨fun hfinished hsound => ?_, fun _ _ => trivial⟩
    cases outcome with
    | error reason =>
      cases reason with
      | raised fault => exact absurd rfl (htracked.calm (sound_append.mp hsound).2 fault)
      | unfinished => exact absurd rfl hfinished
    | ok confirmed =>
      cases confirmed with
      | true => exact accounted_of_quiet (htracked.quiet (by simp)) fun r hr => .inr hr
      | false =>
        obtain ⟨before, told, notice, rfl, hgives, hquiet⟩ := htracked.gaveUp rfl
        refine ⟨?_, ?_, fun r hr => .inr (List.mem_append_right _ hr)⟩
        · intro first rest hevents
          refine hquiet first ?_
          cases before with
          | nil =>
            obtain ⟨rfl, -⟩ := List.cons.inj hevents
            exact List.mem_singleton_self _
          | cons head others =>
            obtain ⟨rfl, -⟩ := List.cons.inj hevents
            exact List.mem_cons_self
        · intro before' told' notice' later other hevents hother
          have hsplit : before ++ [told] ++ [notice] = before' ++ [told'] ++ notice' :: later := by
            simpa using hevents
          obtain ⟨hsame, -, rfl⟩ := notice_is_last hsplit hquiet hother.isNotice
          obtain ⟨rfl, htold⟩ := List.append_inj' hsame rfl
          obtain rfl : told = told' := (List.cons.inj htold).1
          obtain rfl := hgives.handle_eq hother
          refine ⟨removal, List.mem_append_left _ (hopened handle rfl), ?_⟩
          intro reported hreported
          right
          exact List.mem_append_left _ (Option.mem_toList.mpr hreported)

theorem delete_accounts {kind : Kind} {group : String} {name : Option String} :
    Accounts operation base past base (Access.delete kind group name : Action τ W _)
      (fun events found => ∀ handle ∈ found, (.resource kind group name, handle) ∈ openings events)
      fun _ => base :=
  .quiet (Access.delete_opens (fun past => quiet_allowsAsking.asked past _)
    (fun past => quiet_allowsAsking.asked past _) quiet_allowsAsking.noted)

/-- A delete that is asked for and followed, and what comes after the verdict. -/
theorem Action.Accounts.delete {β : Type} (hfits : t.deletion.Fits) {kind : Kind} {group : String}
    {name : Option String} {next : Bool → Action τ W β} {post : List (Event τ) → β → Prop}
    {owed : β → List Removal}
    (hnext : ∀ events confirmed, Accounts operation base (past ++ events)
      (if confirmed then base else operation.debt (.resource kind group name) ++ base)
      (next confirmed) post owed) :
    Accounts operation base past base
      (Access.delete kind group name >>= fun handle => t.isConfirmed handle >>= next)
      post owed := by
  refine .bind delete_accounts fun events handle hopened => ?_
  refine .bind (isConfirmed_accounts hfits hopened) fun more confirmed _ => ?_
  rw [List.append_assoc]
  exact hnext _ confirmed

theorem get_clears {kind : Kind} {group name : String} :
    (Access.get kind group name : Action τ W _).Clears operation base :=
  fun _ => .quiet (Access.get_shown (quiet_allowsAsking.asked _ _)).always

omit [Timescale τ] in
theorem log_clears {channel : Log.Channel} {event : String} {fields : Log.Fields}
    (h : event ∉ Deletion.noticeWords) :
    (log channel event fields : Action τ W Unit).Clears operation base :=
  fun _ => .log h

omit [Timescale τ] in
theorem remark_clears {channel : Log.Channel} {event : String} {fields : Log.Fields} {a : α}
    (h : event ∉ Deletion.noticeWords) :
    (log channel event fields >>= fun _ => pure a : Action τ W α).Clears operation base :=
  fun _ => .bind (.log h) fun _ _ _ => .pure trivial fun _ h => h

namespace Teardown

/-! ## Each of a list -/

omit [Timescale τ] in
theorem all_accounts {act : α → Action τ W Bool} {items : List α}
    (h : ∀ a ∈ items, ∀ events,
      Accounts operation base (past ++ events) base (act a) (fun _ _ => True) fun _ => base) :
    Accounts operation base past base (all act items) (fun _ _ => True) fun _ => base := by
  induction items generalizing past with
  | nil => exact .pure trivial fun _ h => h
  | cons a rest ih =>
    have hhere := h a List.mem_cons_self []
    rw [List.append_nil] at hhere
    refine .bind hhere fun events _ _ => ?_
    refine .bind (ih fun b hb more => ?_) fun _ _ _ => .pure trivial fun _ h => h
    rw [List.append_assoc]
    exact h b (List.mem_cons_of_mem _ hb) _

omit [Timescale τ] in
theorem forM_clears {act : α → Action τ W Unit} {items : List α}
    (h : ∀ a ∈ items, (act a).Clears operation base) : (items.forM act).Clears operation base := by
  induction items with
  | nil => exact fun _ => .pure trivial fun _ h => h
  | cons a rest ih =>
    intro past
    refine .bind (h a List.mem_cons_self _) fun _ _ _ => ?_
    exact ih (fun b hb => h b (List.mem_cons_of_mem _ hb)) _

/-! ## Interfaces and their public IPs -/

theorem removePublicIp_clears (hfits : t.deletion.Fits) {id : ResourceId} :
    (t.removePublicIp id : Action τ W Bool).Clears operation base := by
  intro past
  unfold removePublicIp
  refine .bind (get_clears _) fun _ found _ => ?_
  cases found with
  | none => exact remark_clears (by decide) _
  | some ip =>
    dsimp only
    split
    · exact remark_clears (by decide) _
    · refine .bind (log_clears (by decide) _) fun _ _ _ => ?_
      refine .delete hfits fun _ deleted => ?_
      exact .mayWarn (by decide) (names_debt (by decide)) fun _ => .pure trivial fun _ h => h

theorem tryPublicIp_clears (hfits : t.deletion.Fits) {id : ResourceId} :
    (t.tryPublicIp id : Action τ W Bool).Clears operation base := by
  intro past
  refine .rescue (removePublicIp_clears hfits _) fun _ _ => ?_
  exact remark_clears (by decide) _

theorem removeInterface_clears (hfits : t.deletion.Fits) {interfaceId : String} :
    (t.removeInterface interfaceId : Action τ W Bool).Clears operation base := by
  intro past
  unfold removeInterface
  refine .bind (.quiet .ofExcept) fun _ id _ => ?_
  refine .bind (get_clears _) fun _ found _ => ?_
  cases found with
  | none => exact remark_clears (by decide) _
  | some nic =>
    refine .bind (.quiet .ofExcept) fun _ publicIps _ => ?_
    refine .bind (log_clears (by decide) _) fun _ _ _ => ?_
    refine .delete hfits fun _ deleted => ?_
    refine .mayWarn (by decide) (names_debt (by decide)) fun _ => ?_
    refine .bind (all_accounts fun ip _ _ => tryPublicIp_clears hfits _) fun _ _ _ => ?_
    exact .pure trivial fun _ h => h

/-! ## Disks -/

theorem requestDisks_accounts {ids : List ResourceId} :
    Accounts operation base past base (requestDisks ids : Action τ W _)
      (fun events jobs => ∀ job ∈ jobs,
        (.resource .disk job.1.group (some job.1.name), job.2) ∈ openings events)
      fun _ => base := by
  induction ids generalizing past with
  | nil => exact .pure nofun fun _ h => h
  | cons id rest ih =>
    rw [requestDisks]
    refine .bind (log_clears (by decide) _) fun _ _ _ => ?_
    refine .bind delete_accounts fun _ handle hopened => ?_
    refine .bind ih fun more others hothers => .pure ?_ fun _ h => h
    intro job hjob
    rcases List.mem_append.mp hjob with hjob | hjob
    · obtain ⟨found, hfound, rfl⟩ : ∃ found, handle = some found ∧ (id, found) = job := by
        simpa using hjob
      rw [openings_append]
      exact List.mem_append_left _ (hopened found hfound)
    · exact hothers job hjob

def jobDebt (operation : Operation) (job : ResourceId × Handle) : List Removal :=
  operation.debt (.resource .disk job.1.group (some job.1.name))

theorem failing_isConfirmed_accounts (hfits : t.deletion.Fits) {jobs : List (ResourceId × Handle)}
    (hopened : ∀ job ∈ jobs,
      (.resource .disk job.1.group (some job.1.name), job.2) ∈ openings past) :
    Accounts operation base past debts
      (failing (fun job => t.isConfirmed (some job.2)) jobs : Action τ W _) (fun _ _ => True)
      fun unconfirmed => unconfirmed.flatMap (jobDebt operation) ++ debts := by
  induction jobs generalizing past debts with
  | nil => exact .pure trivial (by simp)
  | cons job rest ih =>
    rw [failing]
    have hjob : ∀ handle ∈ some job.2,
        (.resource .disk job.1.group (some job.1.name), handle) ∈ openings past := by
      rintro _ ⟨⟩
      exact hopened job List.mem_cons_self
    refine .bind (isConfirmed_accounts hfits hjob) fun events done _ => ?_
    refine .bind (ih fun other hother => ?_) fun _ others _ => .pure trivial ?_
    · rw [openings_append]
      exact List.mem_append_left _ (hopened other (List.mem_cons_of_mem _ hother))
    · intro removal hremoval
      cases done with
      | true => simpa using hremoval
      | false =>
        simp only [Bool.false_eq_true, if_false, List.mem_append] at hremoval
        simp only [Bool.false_eq_true, if_false, List.flatMap_cons, List.mem_append]
        unfold jobDebt at *
        tauto

omit [Timescale τ] in
/-- The warning names the disks in a list. -/
theorem warnOf_accounts {event : String} (h : event ∉ Deletion.noticeWords)
    {unconfirmed : List (ResourceId × Handle)} :
    Accounts operation base past (unconfirmed.flatMap (jobDebt operation) ++ debts)
      (warnOf event (unconfirmed.map (·.1)) : Action τ W Unit) (fun _ _ => True)
      fun _ => debts := by
  unfold warnOf
  split
  next hempty =>
    obtain rfl : unconfirmed = [] := by simpa using hempty
    exact .pure trivial (by simp)
  next =>
    refine .warn h (Nat.le_refl _) fun removal hremoval => ?_
    obtain ⟨job, hjob, hdebt⟩ := List.mem_flatMap.mp hremoval
    rw [eq_of_mem_debt (by decide) hdebt]
    right
    refine ⟨"disks", _, job.1.name, List.mem_singleton_self _, rfl, ?_⟩
    exact List.mem_map.mpr ⟨job.1, List.mem_map_of_mem hjob, rfl⟩

theorem diskCheck_quiet {isGone : ResourceId → Action τ W Bool} (h : t.diskCheckOf = .ok isGone)
    {id : ResourceId} : Always Quiet past (isGone id) := by
  have hlook : AlwaysAfter Quiet past (isDiskMissing id : Action τ W Bool) := fun _ =>
    .bind (Access.get_shown (quiet_allowsAsking.asked _ _)).always fun _ _ _ => .pure trivial
  obtain ⟨-, rfl⟩ | ⟨_, escalation, -, -, rfl⟩ := diskCheckOf_eq_ok h
  · simpa using hlook []
  · exact Escalation.await_keeps quiet_allowsAsking.toAllowsWaiting hlook

theorem removeDisks_clears (hfits : t.deletion.Fits) {machine : View.Machine} :
    (t.removeDisks machine : Action τ W Bool).Clears operation base := by
  intro past
  unfold removeDisks
  refine .bind (.quiet .ofExcept) fun _ ids _ => ?_
  refine .bind requestDisks_accounts fun _ jobs hopened => ?_
  refine .bind (failing_isConfirmed_accounts hfits hopened) fun _ unconfirmed _ => ?_
  refine .bind (warnOf_accounts (by decide)) fun _ _ _ => ?_
  refine .bind (.quiet .ofExcept) fun _ isGone hmade => ?_
  refine .bind (.quiet (failing_keeps fun id _ _ => checked_quiet (diskCheck_quiet hmade.2)))
    fun _ present _ => ?_
  refine .bind (.quiet (warnOf_keeps fun _ _ => quiet_logged (by decide))) fun _ _ _ => ?_
  refine .bind (.quiet (failing_keeps fun id _ _ => hasLeft_quiet)) fun _ still _ => ?_
  refine .bind (.quiet (warnOf_keeps fun _ _ => quiet_logged (by decide))) fun _ _ _ => ?_
  exact .pure trivial fun _ h => h

/-! ## The availability set -/

theorem removeAvailabilitySet_clears (hfits : t.deletion.Fits) {machine : View.Machine} :
    (t.removeAvailabilitySet machine : Action τ W Bool).Clears operation base := by
  intro past
  unfold removeAvailabilitySet
  split
  · refine .bind (.quiet .ofExcept) fun _ id _ => ?_
    refine .bind (get_clears _) fun _ found _ => ?_
    dsimp only
    split
    · exact remark_clears (by decide) _
    · refine .bind (log_clears (by decide) _) fun _ _ _ => ?_
      refine .delete hfits fun _ deleted => ?_
      exact .mayWarn (by decide) (names_debt (by decide)) fun _ => .pure trivial fun _ h => h
  · exact .pure trivial fun _ h => h

/-! ## Networks -/

/-- The network is named last, after a look at the listing that cannot fail. -/
theorem removeNetwork_accounts (hfits : t.deletion.Fits) {group : String}
    {network : Model.Tagged} (hid : Sound past → ∃ id, network.reference = .ok id) :
    Accounts operation base past base (t.removeNetwork group network : Action τ W Bool)
      (fun _ _ => True) fun _ => base := by
  unfold removeNetwork
  refine .bind (log_clears (by decide) _) fun _ _ _ => ?_
  refine .delete hfits fun _ deleted => ?_
  refine .bind (.ofExcept fun hsound => hid ?_) fun _ id _ => ?_
  · exact (sound_append.mp (sound_append.mp hsound).1).1
  refine .bind (.calm hasLeft_quiet checked_neverRaises) fun _ left _ => ?_
  refine .mayLog (by decide) fun _ => ?_
  exact .mayWarn (by decide) (names_debt (by decide)) fun _ => .pure trivial fun _ h => h

theorem tryNetwork_accounts (hfits : t.deletion.Fits) {group : String}
    {network : Model.Tagged} (hid : Sound past → ∃ id, network.reference = .ok id) :
    Accounts operation base past base (t.tryNetwork group network : Action τ W Bool)
      (fun _ _ => True) fun _ => base := by
  refine .rescue (removeNetwork_accounts hfits hid) fun _ fault => ?_
  split
  · exact remark_clears (by decide) _
  · exact .stop

theorem removeNetworks_clears (hfits : t.deletion.Fits) {group : String} :
    (t.removeNetworks group : Action τ W Bool).Clears operation base := by
  intro past
  unfold removeNetworks
  refine .bind (.quiet (Access.list_shown quiet_allowsAsking)) fun events networks hnetworks => ?_
  refine all_accounts fun network hnetwork more => tryNetwork_accounts hfits fun hsound => ?_
  obtain ⟨listing, object, hasked, hitem, hview⟩ :=
    hnetworks network (List.mem_filter.mp hnetwork).1
  obtain rfl : object = network := by injection hview
  exact hsound _ (List.mem_append_left _ hasked) object hitem

/-! ## The stages -/

theorem perform_clears (hfits : t.deletion.Fits) {group : String} {machine : View.Machine}
    (stage : Stage) : (t.perform group machine stage : Action τ W Bool).Clears operation base := by
  cases stage with
  | interfaces =>
    exact fun _ => all_accounts fun interfaceId _ _ => removeInterface_clears hfits _
  | disks => exact removeDisks_clears hfits
  | availabilitySet => exact removeAvailabilitySet_clears hfits
  | networks => exact removeNetworks_clears hfits

theorem tryStage_clears (hfits : t.deletion.Fits) {node : NodeId} {machine : View.Machine}
    (stage : Stage) : (t.tryStage node machine stage : Action τ W Unit).Clears operation base := by
  intro past
  unfold tryStage
  refine .bind (.rescue (perform_clears hfits stage _) fun _ _ => ?_) fun _ complete _ => ?_
  · refine .bind (.calm (Keeps.record (quiet_logged (by decide))).always .record) fun _ _ _ => ?_
    exact .pure trivial fun _ h => h
  · split
    · exact log_clears (by decide) _
    · exact .pure trivial fun _ h => h

/-! ## The node -/

/-- The machine is not named here: that is left to the end of the teardown. -/
theorem removeMachine_accounts (hfits : t.deletion.Fits) {group : String}
    {machine : View.Machine} (hid : Sound past → ∃ id, machine.reference = .ok id) :
    Accounts operation base past base (t.removeMachine group machine : Action τ W Bool)
      (fun _ _ => True) fun deleted =>
        if deleted then base
        else operation.debt (.resource .virtualMachine group machine.name) ++ base := by
  unfold removeMachine
  refine .delete hfits fun _ deleted => ?_
  refine .bind (.ofExcept fun hsound => hid ?_) fun _ id _ => ?_
  · exact (sound_append.mp hsound).1
  refine .bind (.calm hasLeft_quiet checked_neverRaises) fun _ left _ => ?_
  exact .mayLog (by decide) fun _ => .pure trivial fun _ h => h

theorem removeNode_clears (hfits : t.deletion.Fits) {token : Value} :
    (t.removeNode token : Action τ W Bool).Clears (.node token) base := by
  intro past
  unfold removeNode
  refine .bind (.quiet .ofExcept) ?_
  rintro _ node ⟨-, hnode⟩
  refine .bind (.quiet (Access.get_shown (quiet_allowsAsking.asked _ _))) fun _ found hfound => ?_
  cases found with
  | none => exact remark_clears (by decide) _
  | some machine =>
    obtain ⟨object, hasked, hview⟩ := hfound machine rfl
    refine .bind (log_clears (by decide) _) fun _ _ _ => ?_
    refine .bind (removeMachine_accounts hfits fun hsound => ?_) fun _ deleted _ => ?_
    · obtain ⟨id, hid⟩ := hsound _ (List.mem_append_left _ hasked)
      refine ⟨id, ?_⟩
      rw [Named.reference, View.machine_toNamed hview]
      exact hid
    -- The machine's debt stays while the stages run: whatever they raise, they handle themselves.
    have hstages : ∀ past debts, Accounts (.node token) base past debts
        (Stage.sequence.forM (t.tryStage node machine) : Action τ W Unit) (fun _ _ => True)
          fun _ => debts :=
      fun _ _ => (forM_clears (fun stage _ => tryStage_clears hfits stage) _).of_neverRaises
        stages_neverRaise
    refine .bind (hstages _ _) fun _ _ _ => ?_
    cases deleted with
    | true =>
      refine .bind (.log (by decide)) fun _ _ _ => ?_
      exact .pure trivial fun _ h => h
    | false =>
      refine .bind (.warn (by decide) (Nat.le_refl _) fun removal hdebt => ?_) fun _ _ _ =>
        .pure trivial fun _ h => h
      obtain rfl : removal = .resource .virtualMachine node.group (some node.name) := by
        simpa [Operation.debt, Operation.reportedAs, hnode, Except.toOption] using hdebt
      exact names_about

/-! ## Groups of nodes -/

/-- Nothing is owed for what is never named. -/
theorem isConfirmed_clears (hfits : t.deletion.Fits) {removal : Removal} {handle : Option Handle}
    (hopened : ∀ h ∈ handle, (removal, h) ∈ openings past)
    (hdebt : operation.reportedAs removal = none) :
    Accounts operation base past base (t.isConfirmed handle : Action τ W Bool) (fun _ _ => True)
      fun _ => base := by
  refine (isConfirmed_accounts hfits hopened).mono (fun _ _ h => h) fun confirmed r hr => ?_
  simpa [Operation.debt, hdebt] using hr

theorem removeSecurityGroup_clears (hfits : t.deletion.Fits) {resourceGroup : String}
    {group : Option String} :
    (t.removeSecurityGroup resourceGroup group : Action τ W Bool).Clears operation base := by
  intro past
  unfold removeSecurityGroup
  refine .bind (.quiet .ofExcept) fun _ name _ => ?_
  refine .bind (get_clears _) fun _ found _ => ?_
  cases found with
  | none => exact .pure trivial fun _ h => h
  | some view =>
    dsimp only
    split
    · exact remark_clears (by decide) _
    · refine .bind (log_clears (by decide) _) fun _ _ _ => ?_
      refine .bind delete_accounts fun _ handle hopened => ?_
      refine .bind (isConfirmed_clears hfits hopened rfl) fun _ deleted _ => ?_
      split
      · refine .bind (.quiet .ofExcept) fun _ id _ => ?_
        refine .bind (.quiet hasLeft_quiet) fun _ left _ => ?_
        exact .mayLog (by decide) fun _ => .pure trivial fun _ h => h
      · exact .pure trivial fun _ h => h

theorem trySecurityGroup_clears (hfits : t.deletion.Fits) {resourceGroup : String}
    {group : Option String} :
    (t.trySecurityGroup resourceGroup group : Action τ W Bool).Clears operation base := by
  intro past
  refine .rescue (removeSecurityGroup_clears hfits _) fun _ _ => ?_
  refine .bind (.calm (Keeps.record (quiet_logged (by decide))).always .record) fun _ _ _ => ?_
  exact .pure trivial fun _ h => h

theorem removeResourceGroup_clears (hfits : t.deletion.Fits) {resourceGroup : String} :
    (t.removeResourceGroup resourceGroup : Action τ W Bool).Clears operation base := by
  intro past
  unfold removeResourceGroup
  refine .bind (.quiet (Access.members_always (quiet_allowsAsking.asked _ _))) fun _ found _ => ?_
  dsimp only
  split
  · exact remark_clears (by decide) _
  · refine .bind (log_clears (by decide) _) fun _ _ _ => ?_
    refine .bind (.quiet (Access.deleteGroup_opens quiet_allowsAsking)) fun _ handle hopened => ?_
    exact isConfirmed_clears hfits hopened rfl
  · exact remark_clears (by decide) _

/-! ## Every operation -/

theorem carryOut_clears (hfits : t.deletion.Fits) (operation : Operation) :
    (t.carryOut operation : Action τ W Bool).Clears operation base := by
  cases operation with
  | node token => exact removeNode_clears hfits
  | interfaces machine =>
    exact fun _ => all_accounts fun interfaceId _ _ => removeInterface_clears hfits _
  | disks machine => exact removeDisks_clears hfits
  | availabilitySet machine => exact removeAvailabilitySet_clears hfits
  | networks group => exact removeNetworks_clears hfits
  | securityGroup resourceGroup group => exact trySecurityGroup_clears hfits
  | resourceGroup name => exact removeResourceGroup_clears hfits
  | group resourceGroup group =>
    intro past
    refine .bind (trySecurityGroup_clears hfits _) fun _ _ _ => ?_
    refine .bind (removeResourceGroup_clears hfits _) fun _ _ _ => ?_
    exact .pure trivial fun _ h => h

/-- The tracker of a handle answers that the delete is not confirmed exactly if it gives it up, at
the end of what it does. In every run of an operation, with a provider that shows readable ids and
whose handles do not raise, each delete that started behind a handle of its own and is given up is
named in a later entry at the level of warnings or above: by its group and name, a disk perhaps in
a list, and a machine under the name by which the node was asked for. A security group and a
resource group are left out. -/
theorem given_up_deletes_are_named (t : Teardown τ) (operation : Operation)
    (setting : Setting τ W) (session : Session τ W) (hfits : t.deletion.Fits)
    (hfinished : ∀ after,
      (t.carryOut operation).run setting session ≠ .error .unfinished after) :
    (∀ handle start verdict after,
      (t.isConfirmed (some handle)).run setting start = .ok verdict after →
        ∃ events, after.trace.toList = start.trace.toList ++ events ∧
          (verdict = false ↔ ∃ before told notice, events = before ++ [told, notice] ∧
            GivesUp handle told notice)) ∧
      ∃ events, (left ((t.carryOut operation).run setting session)).trace.toList =
          session.trace.toList ++ events ∧
        (Sound events → ∀ before opening between told notice later removal handle,
          events = before ++ opening :: (between ++ told :: notice :: later) →
            opening.opens? = some (removal, handle) →
              (∀ other ∈ openings (before ++ between), other.2 ≠ handle) →
                GivesUp handle told notice →
                  ∀ reported ∈ operation.reportedAs removal, Reported later reported) := by
  constructor
  · intro handle start verdict after hrun
    obtain ⟨events, htrace, htracked⟩ := (isConfirmed_tracked hfits).of_ok hrun
    refine ⟨events, htrace, ?_, ?_⟩
    · rintro rfl
      obtain ⟨before, told, notice, hevents, hgives, -⟩ := htracked.gaveUp rfl
      exact ⟨before, told, notice, hevents, hgives⟩
    · rintro ⟨before, told, notice, rfl, hgives⟩
      cases verdict with
      | false => rfl
      | true => exact absurd hgives.isNotice (htracked.quiet (by simp) notice (by simp))
  · have hclears : (t.carryOut operation : Action τ W Bool).Clears operation [] :=
      carryOut_clears hfits operation
    obtain ⟨events, htrace, haccounted, -⟩ := hclears [] setting session
    refine ⟨events, htrace, ?_⟩
    rintro hsound before opening between told notice later removal handle rfl hopening hown hgives
    have hends : outcome ((t.carryOut operation).run setting session) ≠ .error .unfinished := by
      intro hend
      cases hrun : (t.carryOut operation).run setting session with
      | ok verdict after =>
        rw [hrun] at hend
        cases hend
      | error reason after =>
        rw [hrun] at hend
        cases hend
        exact hfinished after hrun
    obtain ⟨other, hopened, hnamed⟩ := (haccounted hends hsound).named
      (before ++ opening :: between) told notice later handle (by simp) hgives
    -- No other delete has the handle.
    obtain rfl : other = removal := by
      have hhere : openings (before ++ opening :: between) =
          openings before ++ (removal, handle) :: openings between := by
        rw [openings_append, openings, openings, List.filterMap_cons_some hopening]
        rfl
      rw [hhere] at hopened
      rw [openings_append] at hown
      simp only [openings, List.filterMap_nil, List.nil_append, List.mem_append,
        List.mem_cons, Prod.mk.injEq] at hopened
      rcases hopened with hbefore | ⟨hsame, -⟩ | hbetween
      · exact absurd rfl (hown _ (List.mem_append_left _ hbefore))
      · exact hsame
      · exact absurd rfl (hown _ (List.mem_append_right _ hbetween))
    intro reported hreported
    rcases hnamed reported hreported with hreport | hleft
    · exact hreport
    · cases hverdict : outcome ((t.carryOut operation).run setting session) with
      | ok verdict =>
        rw [hverdict] at hleft
        cases hleft
      | error reason =>
        rw [hverdict] at hleft
        cases hleft

end Teardown

/-! A provider that accepts every delete, and reports each of them as failed. -/

namespace Unheard

def group : Model.SecurityGroup where
  id := some "/subscriptions/s/resourceGroups/rg/providers/p/groups/jclouds-web"
  name := some "jclouds-web"
  interfaces := some []

def nic : Model.Interface where
  id := some "/subscriptions/s/resourceGroups/rg/providers/p/nics/nic"
  name := some "nic"
  ipConfigurations := []

def machine : View.Machine where
  id := some "/subscriptions/s/resourceGroups/rg/providers/p/machines/vm"
  name := some "vm"
  group := "rg"
  interfaceIds := ["/subscriptions/s/resourceGroups/rg/providers/p/nics/nic"]
  osDiskId := none
  dataDiskIds := []
  availabilitySetId := none

def provider : Provider Rat Unit where
  answer
    | .get .securityGroup _ _, world => (.ok (some group), 1, world)
    | .get .networkInterface _ _, world => (.ok (some nic), 1, world)
    | .get _ _ _, world => (.error (.response ⟨.notFound, "gone", none⟩), 1, world)
    | .list _ _, world => (⟨[], none⟩, 1, world)
    | .beginDelete _ _ _, world => (.ok (some ⟨1⟩), 1, world)
    | .delete _ _ _, world => (.ok (), 1, world)
    | .members _, world => (⟨[], none⟩, 1, world)
    | .beginDeleteGroup _, world => (.ok (some ⟨2⟩), 1, world)
    | .isDone _, world => (.ok true, 1, world)
    | .status _, world => (.ok (some "Failed"), 1, world)
  deletesAtOnce := Kind.deletesAtOnce

def setting : Setting Rat Unit := ⟨provider, 1⟩

def start : Session Rat Unit := ⟨(), 0, #[]⟩

/-- What a tracker was told last. -/
def told (handle : Handle) : Event Rat := .asked (.status handle) (.ok (some "Failed"))

def notice : Event Rat :=
  .logged ⟨.warning, "delete_operation_failed", [("status", .str "Failed")], none⟩

theorem givesUp (handle : Handle) : GivesUp handle (told handle) notice := .failed rfl

/-- A delete whose handle the tracker follows to its reported end. -/
theorem isConfirmed_run (handle : Handle) (session : Session Rat Unit) :
    (Teardown.sample.isConfirmed (some handle)).run setting session =
      .ok false ⟨(), session.clock + 1 + 1, session.trace ++
        #[.polled, .asked (.isDone handle) (.ok true), told handle, notice]⟩ := by
  have hfailed : Deletion.reportsFailure "Failed" = true := by decide +kernel
  have hrun : (Teardown.sample.isConfirmed (some handle)).run setting session =
      (if Deletion.reportsFailure "Failed" then do
          log .warning "delete_operation_failed" [("status", .str "Failed")]
          return false
        else return true : Action Rat Unit Bool).run setting ⟨(), session.clock + 1 + 1,
          ((session.trace.push .polled).push (.asked (.isDone handle) (.ok true))).push
            (told handle)⟩ := rfl
  rw [hrun, if_pos hfailed]
  rfl

/-- The removal of the machine's interface. -/
def interfaceEvents : List (Event Rat) :=
  [ .asked (.get .networkInterface "rg" "nic") (.ok (some nic)),
    .logged ⟨.debug, "destroying_nic", Teardown.about "rg" (some "nic"), none⟩,
    .asked (.beginDelete .networkInterface "rg" (some "nic")) (.ok (some ⟨1⟩)), .polled,
    .asked (.isDone ⟨1⟩) (.ok true), told ⟨1⟩, notice,
    .logged ⟨.warning, "nic_not_deleted", Teardown.about "rg" (some "nic"), none⟩ ]

theorem interface_run : (Teardown.sample.carryOut (.interfaces machine)).run setting start =
    .ok false ⟨(), 4, interfaceEvents.toArray⟩ := by
  have hclock : (4 : Rat) = 0 + 1 + 1 + 1 + 1 := by decide +kernel
  have hread : ResourceId.read (.str "/subscriptions/s/resourceGroups/rg/providers/p/nics/nic") =
      .ok ⟨"rg", "nic", "/subscriptions/s/resourceGroups/rg/providers/p/nics/nic"⟩ :=
    read_eq_ok_iff.mpr (by decide +kernel)
  have hrun : (Teardown.sample.removeInterface
      "/subscriptions/s/resourceGroups/rg/providers/p/nics/nic").run setting start =
        (do
          let deleted ← Teardown.sample.isConfirmed (some ⟨1⟩)
          if !deleted then log .warning "nic_not_deleted" (Teardown.about "rg" (some "nic"))
          let ipsDeleted ← Teardown.all Teardown.sample.tryPublicIp []
          return deleted && ipsDeleted : Action Rat Unit Bool).run setting
            ⟨(), 0 + 1 + 1, (interfaceEvents.take 3).toArray⟩ := by
    rw [Teardown.removeInterface, hread]
    rfl
  rw [run_bind, isConfirmed_run] at hrun
  change (Teardown.sample.removeInterface _ >>= _).run setting start = _
  rw [run_bind, hrun, hclock]
  rfl

/-- The removal of a group of nodes. -/
def groupEvents : List (Event Rat) :=
  [ .asked (.get .securityGroup "rg" "jclouds-web") (.ok (some group)),
    .logged ⟨.debug, "deleting_orphaned_security_group", Teardown.about "rg" (some "jclouds-web"),
      none⟩,
    .asked (.beginDelete .securityGroup "rg" (some "jclouds-web")) (.ok (some ⟨1⟩)), .polled,
    .asked (.isDone ⟨1⟩) (.ok true), told ⟨1⟩, notice,
    .asked (.members "rg") ⟨[], none⟩,
    .logged ⟨.debug, "deleting_empty_resource_group", [("resource_group", .str "rg")], none⟩,
    .asked (.beginDeleteGroup "rg") (.ok (some ⟨2⟩)), .polled, .asked (.isDone ⟨2⟩) (.ok true),
    told ⟨2⟩, notice ]

theorem securityGroup_run :
    (Teardown.sample.trySecurityGroup "rg" (some "web")).run setting start =
      .ok false ⟨(), 0 + 1 + 1 + 1 + 1, (groupEvents.take 7).toArray⟩ := by
  have hrun : (Teardown.sample.removeSecurityGroup "rg" (some "web")).run setting start =
      (do
        let deleted ← Teardown.sample.isConfirmed (some ⟨1⟩)
        if deleted then
          if !(← Teardown.sample.hasLeft (← ofExcept (ResourceId.read (.ofText? group.id)))) then
            log .warning "security_group_still_listed" (Teardown.about "rg" (some "jclouds-web"))
        return deleted : Action Rat Unit Bool).run setting
          ⟨(), 0 + 1 + 1, (groupEvents.take 3).toArray⟩ := rfl
  rw [run_bind, isConfirmed_run] at hrun
  rw [Teardown.trySecurityGroup, run_rescue, hrun]
  rfl

theorem group_run : (Teardown.sample.carryOut (.group "rg" (some "web"))).run setting start =
    .ok false ⟨(), 8, groupEvents.toArray⟩ := by
  have hclock : (8 : Rat) = 0 + 1 + 1 + 1 + 1 + 1 + 1 + 1 + 1 := by decide +kernel
  have hrun : (Teardown.sample.removeResourceGroup "rg").run setting
      ⟨(), 0 + 1 + 1 + 1 + 1, (groupEvents.take 7).toArray⟩ =
        (Teardown.sample.isConfirmed (some ⟨2⟩)).run setting
          ⟨(), 0 + 1 + 1 + 1 + 1 + 1 + 1, (groupEvents.take 10).toArray⟩ := rfl
  rw [isConfirmed_run] at hrun
  change (Teardown.sample.trySecurityGroup _ _ >>= _).run setting start = _
  rw [run_bind, securityGroup_run]
  change (Teardown.sample.removeResourceGroup _ >>= _).run setting _ = _
  rw [run_bind, hrun, hclock]
  rfl

theorem teardown_fits : Teardown.sample.deletion.Fits := ⟨rfl, rfl⟩

theorem interface_named :
    ∃ after before later,
      (Teardown.sample.carryOut (.interfaces machine)).run setting start = .ok false after ∧
        after.trace.toList = before ++ told ⟨1⟩ :: notice :: later ∧
          Reported later (.resource .networkInterface "rg" (some "nic")) := by
  have hfinished : ∀ after, (Teardown.sample.carryOut (.interfaces machine)).run setting start ≠
      .error .unfinished after := by
    intro after hrun
    rw [interface_run] at hrun
    cases hrun
  obtain ⟨-, events, htrace, hnamed⟩ := Teardown.given_up_deletes_are_named Teardown.sample
    (.interfaces machine) setting start teardown_fits hfinished
  rw [interface_run] at htrace
  obtain rfl : interfaceEvents = events := htrace
  have hsound : Sound interfaceEvents := by
    simp [Sound, interfaceEvents, Event.IsSound, told, notice]
  have hlater := hnamed hsound (interfaceEvents.take 2) _ [.polled, .asked (.isDone ⟨1⟩) (.ok true)]
    (told ⟨1⟩) notice _ (.resource .networkInterface "rg" (some "nic")) ⟨1⟩ rfl rfl
    (by simp [openings, interfaceEvents, Event.opens?]) (givesUp ⟨1⟩) _ rfl
  exact ⟨_, interfaceEvents.take 5, _, interface_run, rfl, hlater⟩

theorem not_reported {events : List (Event Rat)} {removal : Removal}
    (h : ∀ entry, .logged entry ∈ events →
      entry.channel = .debug ∨ entry.fields = [("status", .str "Failed")]) :
    ¬ Reported events removal := by
  rintro ⟨entry, hmem, hlevel, hnames⟩
  rcases h entry hmem with hdebug | hfields
  · rw [hdebug] at hlevel
    revert hlevel
    decide
  · cases removal <;> simp [Log.Entry.Names, hfields] at hnames

/-- The deletes of the security group and of the resource group are both given up, and no entry
behind says so of either. -/
theorem left_unnamed :
    (Teardown.sample.carryOut (.group "rg" (some "web"))).run setting start =
        .ok false ⟨(), 8, groupEvents.toArray⟩ ∧ Sound groupEvents ∧
      (∃ before opening between later,
        groupEvents = before ++ opening :: (between ++ told ⟨1⟩ :: notice :: later) ∧
          opening.opens? = some (.resource .securityGroup "rg" (some "jclouds-web"), ⟨1⟩) ∧
            GivesUp ⟨1⟩ (told ⟨1⟩) notice ∧
              ¬ Reported later (.resource .securityGroup "rg" (some "jclouds-web"))) ∧
      ∃ before opening between later,
        groupEvents = before ++ opening :: (between ++ told ⟨2⟩ :: notice :: later) ∧
          opening.opens? = some (.group "rg", ⟨2⟩) ∧ GivesUp ⟨2⟩ (told ⟨2⟩) notice ∧
            ¬ Reported later (.group "rg") := by
  refine ⟨group_run, ?_,
    ⟨groupEvents.take 2, _, [.polled, .asked (.isDone ⟨1⟩) (.ok true)], _, rfl, rfl, givesUp _, ?_⟩,
    groupEvents.take 9, _, [.polled, .asked (.isDone ⟨2⟩) (.ok true)], _, rfl, rfl, givesUp _, ?_⟩
  · simp [Sound, groupEvents, Event.IsSound, told, notice]
  · exact not_reported (by simp [told, notice])
  · exact not_reported (by simp)

end Unheard

end Reclaim
