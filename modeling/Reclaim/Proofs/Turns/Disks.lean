import Reclaim.Proofs.Turns.Asking

/-!
# The disks of a machine, in turn

All deletes are requested before a handle is followed, all handles are followed before a disk is
looked for, and all disks are looked for before a listing is. Only a request or a handle that raises
cuts this short.
-/

namespace Reclaim

open Reclaim.Action

variable {τ W : Type}

/-! ## Which disks -/

/-- The ids of the managed disks of a machine, the one with the system first, then the others in
order. Disks without an id are left out. -/
def Model.Machine.diskTexts (m : Model.Machine) : List String :=
  (m.osDisk :: m.dataDisks.map fun d => d.bind (·.disk)).filterMap fun link =>
    View.given (View.linkId link)

/-- The texts read as ids, each of them once. -/
def ReadsAs (texts : List String) (ids : List ResourceId) : Prop :=
  ∃ found, List.Forall₂ (fun text id => ResourceId.parse? text = some id) texts found ∧
    ids = found.eraseDups

theorem given_ne_empty {id : Option String} {text : String} (h : View.given id = some text) :
    text ≠ "" := by
  simpa using (Option.filter_eq_some_iff.mp h).2

theorem diskTexts_of_view {object : Model.Machine} {machine : View.Machine}
    (hview : View.machine (some object) = .ok machine) :
    ((View.given machine.osDiskId).toList ++ machine.dataDiskIds).filter (· ≠ "") =
      object.diskTexts := by
  obtain ⟨links, disks, -, hdisks, rfl⟩ := View.machine_eq_ok hview
  have htexts : (View.given (View.linkId object.osDisk)).toList ++
      disks.filterMap (fun d => View.given (View.linkId d.disk)) = object.diskTexts := by
    rw [Model.Machine.diskTexts, hdisks, List.filterMap_cons]
    cases View.given (View.linkId object.osDisk) <;>
      simp [List.filterMap_map, Function.comp_def]
  change List.filter _ ((View.given (View.linkId object.osDisk)).toList ++
    disks.filterMap fun d => View.given (View.linkId d.disk)) = _
  rw [htexts, List.filter_eq_self]
  intro text htext
  obtain ⟨link, -, hgiven⟩ := List.mem_filterMap.mp htext
  simpa using given_ne_empty hgiven

/-- Either all of the ids can be read, or the fault names one that cannot. -/
theorem diskIds_cases {object : Model.Machine} {machine : View.Machine}
    (hview : View.machine (some object) = .ok machine) :
    (∃ ids, Teardown.diskIds machine = .ok ids ∧ ReadsAs object.diskTexts ids) ∨
      ∃ text ∈ object.diskTexts, ResourceId.parse? text = none ∧
        Teardown.diskIds machine = .error (.malformedId text) := by
  unfold Teardown.diskIds
  rw [diskTexts_of_view hview]
  dsimp only
  cases hread : object.diskTexts.mapM fun text => ResourceId.read (.str text) with
  | ok found =>
    refine .inl ⟨_, rfl, found, ?_, rfl⟩
    exact (View.forall₂_of_mapM hread).imp fun _ _ => read_eq_ok_iff.mp
  | error fault =>
    obtain ⟨text, htext, hparse, rfl⟩ := exists_of_mapM_read_error hread
    exact .inr ⟨text, htext, hparse, rfl⟩

/-! ## Turns of a disk -/

section Turns

variable [Timescale τ]

/-- The delete of a disk was asked for, which gave a handle or none. -/
structure Requested (setting : Setting τ W) (session : Session τ W)
    (turn : Turn τ ResourceId (Option Handle)) (after : Session τ W) : Prop where
  run : (Access.delete .disk turn.item.group turn.item.name).run setting
    (session.logging [⟨.debug, "deleting_managed_disk", Teardown.aboutId turn.item, none⟩]) =
      .ok turn.result after
  asks : asks turn.events =
    [setting.provider.deleteRequest .disk turn.item.group (some turn.item.name)]

/-- The delete of a disk was asked for, which was refused. -/
structure Refused (setting : Setting τ W) (session : Session τ W) (id : ResourceId)
    (events : List (Event τ)) (reason : Stop) (after : Session τ W) : Prop where
  run : (Access.delete .disk id.group id.name).run setting
    (session.logging [⟨.debug, "deleting_managed_disk", Teardown.aboutId id, none⟩]) =
      .error reason after
  asks : asks events = [setting.provider.deleteRequest .disk id.group (some id.name)]
  refused : DeleteRefused .disk id.group (some id.name) events reason

/-- A handle was followed to its verdict. -/
structure Followed (t : Teardown τ) (setting : Setting τ W) (session : Session τ W)
    (turn : Turn τ (ResourceId × Handle) Bool) (after : Session τ W) : Prop where
  run : (t.isConfirmed (some turn.item.2)).run setting session = .ok turn.result after
  asks : asks turn.events ⊆ [.isDone turn.item.2, .status turn.item.2]

/-- A handle could not be followed to its verdict. -/
structure Interrupted (t : Teardown τ) (setting : Setting τ W) (session : Session τ W)
    (job : ResourceId × Handle) (events : List (Event τ)) (reason : Stop)
    (after : Session τ W) : Prop where
  run : (t.isConfirmed (some job.2)).run setting session = .error reason after
  asks : asks events ⊆ [.isDone job.2, .status job.2]
  blames : ∀ fault, reason = .raised fault →
    fault = .durationTooLong ∨ ∃ event ∈ events, Tells job.2 fault event

/-- A disk was checked, which passed if the check says so and failed if it says otherwise or
raises. The question was asked, unless the duration of the check is too long for any clock. -/
structure Looked (setting : Setting τ W) (check : ResourceId → Action τ W Bool)
    (question : ResourceId → Request) (session : Session τ W) (turn : Turn τ ResourceId Bool)
    (after : Session τ W) : Prop where
  run : (Teardown.checked turn.item (check turn.item)).run setting session = .ok turn.result after
  passed : turn.result = true ↔ outcome ((check turn.item).run setting session) = .ok true
  asks : asks turn.events ⊆ [question turn.item]
  asked : outcome ((check turn.item).run setting session) ≠ .error (.raised .durationTooLong) →
    question turn.item ∈ Reclaim.asks turn.events

/-- A check used up its polls. -/
structure Unanswered (setting : Setting τ W) (check : ResourceId → Action τ W Bool)
    (question : ResourceId → Request) (session : Session τ W) (id : ResourceId)
    (events : List (Event τ)) (reason : Stop) (after : Session τ W) : Prop where
  run : (check id).run setting session = .error .unfinished after
  unfinished : reason = .unfinished
  asks : asks events ⊆ [question id]

/-! ## Endings -/

def warning (event : String) (ids : List ResourceId) : List Log.Entry :=
  if ids.isEmpty then []
  else [⟨.warning, event, [("disks", .list (ids.map fun id => .str id.label))], none⟩]

/-- The deletes that have a handle. -/
def jobs (requests : List (Turn τ ResourceId (Option Handle))) : List (ResourceId × Handle) :=
  requests.filterMap fun turn => turn.result.map (turn.item, ·)

def diskGet (id : ResourceId) : Request := .get .disk id.group id.name

def groupMembers (id : ResourceId) : Request := .members id.group

/-- How the looking for disks ends. What is found has no say in the verdict. -/
inductive LooksEnd (t : Teardown τ) (setting : Setting τ W) (session : Session τ W)
    (ids : List ResourceId) (verdict : Bool) :
    List (Event τ) → Except Stop Bool → Session τ W → Prop
  /-- The settings of the check are refused, which no accepted settings are. -/
  | unusable {fault : Fault}
      (hcheck : (t.diskCheckOf : Except Fault (ResourceId → Action τ W Bool)) = .error fault) :
      LooksEnd t setting session ids verdict [] (.error (.raised fault)) session
  /-- A look at a disk does not end. -/
  | unseen {isGone : ResourceId → Action τ W Bool} {checking : List (Event τ)} {reason : Stop}
      {after : Session τ W} (hcheck : t.diskCheckOf = .ok isGone)
      (hchecks : Round (Looked setting isGone diskGet) (Unanswered setting isGone diskGet) session
        ids checking (.error reason) after) :
      LooksEnd t setting session ids verdict checking (.error reason) after
  /-- A look at a listing does not end. -/
  | unlisted {isGone : ResourceId → Action τ W Bool} {checks : List (Turn τ ResourceId Bool)}
      {checking listing : List (Event τ)} {reason : Stop} {seen after : Session τ W}
      (hcheck : t.diskCheckOf = .ok isGone)
      (hchecks : Round (Looked setting isGone diskGet) (Unanswered setting isGone diskGet) session
        ids checking (.ok checks) seen)
      (hlistings : Round
        (Looked setting (Departure.hasLeft t.departure Access.members) groupMembers)
        (Unanswered setting (Departure.hasLeft t.departure Access.members) groupMembers)
        (seen.logging (warning "disks_still_present" (failed checks))) ids listing (.error reason)
        after) :
      LooksEnd t setting session ids verdict
        (checking ++ (warning "disks_still_present" (failed checks)).map .logged ++ listing)
        (.error reason) after
  /-- All disks are looked for, and then looked for in the listings of their groups. -/
  | looked {isGone : ResourceId → Action τ W Bool}
      {checks listings : List (Turn τ ResourceId Bool)} {checking listing : List (Event τ)}
      {seen listed : Session τ W} (hcheck : t.diskCheckOf = .ok isGone)
      (hchecks : Round (Looked setting isGone diskGet) (Unanswered setting isGone diskGet) session
        ids checking (.ok checks) seen)
      (hlistings : Round
        (Looked setting (Departure.hasLeft t.departure Access.members) groupMembers)
        (Unanswered setting (Departure.hasLeft t.departure Access.members) groupMembers)
        (seen.logging (warning "disks_still_present" (failed checks))) ids listing (.ok listings)
        listed) :
      LooksEnd t setting session ids verdict
        (checking ++ (warning "disks_still_present" (failed checks)).map .logged ++ listing ++
          (warning "disks_still_in_resource_group" (failed listings)).map .logged)
        (.ok verdict)
        (listed.logging (warning "disks_still_in_resource_group" (failed listings)))

/-- How the removal of the disks with these texts as ids ends. -/
inductive DisksEnd (t : Teardown τ) (setting : Setting τ W) (session : Session τ W)
    (texts : List String) : List (Event τ) → Except Stop Bool → Session τ W → Prop
  /-- An id cannot be read, and nothing happens. -/
  | malformed {text : String} (htext : text ∈ texts) (hparse : ResourceId.parse? text = none) :
      DisksEnd t setting session texts [] (.error (.raised (.malformedId text))) session
  /-- The provider refuses a delete. -/
  | refused {ids : List ResourceId} {requesting : List (Event τ)} {reason : Stop}
      {after : Session τ W} (hids : ReadsAs texts ids)
      (hrequests : Round (Requested setting) (Refused setting) session ids requesting
        (.error reason) after) : DisksEnd t setting session texts requesting (.error reason) after
  /-- The following of a handle raises or does not end. -/
  | interrupted {ids : List ResourceId} {requests : List (Turn τ ResourceId (Option Handle))}
      {requesting following : List (Event τ)} {reason : Stop} {asked after : Session τ W}
      (hids : ReadsAs texts ids)
      (hrequests : Round (Requested setting) (Refused setting) session ids requesting
        (.ok requests) asked)
      (hfollows : Round (Followed t setting) (Interrupted t setting) asked (jobs requests)
        following (.error reason) after) :
      DisksEnd t setting session texts (requesting ++ following) (.error reason) after
  /-- All handles are followed, and their verdicts are the result. -/
  | followed {ids : List ResourceId} {requests : List (Turn τ ResourceId (Option Handle))}
      {follows : List (Turn τ (ResourceId × Handle) Bool)}
      {requesting following looking : List (Event τ)} {outcome : Except Stop Bool}
      {asked confirmed after : Session τ W} (hids : ReadsAs texts ids)
      (hrequests : Round (Requested setting) (Refused setting) session ids requesting
        (.ok requests) asked)
      (hfollows : Round (Followed t setting) (Interrupted t setting) asked (jobs requests)
        following (.ok follows) confirmed)
      (hlooks : LooksEnd t setting
        (confirmed.logging (warning "disks_not_deleted" ((failed follows).map (·.1)))) ids
        (follows.all (·.result)) looking outcome after) :
      DisksEnd t setting session texts
        (requesting ++ following ++
          (warning "disks_not_deleted" ((failed follows).map (·.1))).map .logged ++ looking)
        outcome after

/-! ## The phases -/

variable {t : Teardown τ} {setting : Setting τ W} {session : Session τ W}

omit [Timescale τ] in
theorem run_warnOf (event : String) (ids : List ResourceId) :
    (Teardown.warnOf event ids).run setting session =
      .ok () (session.logging (warning event ids)) := by
  unfold Teardown.warnOf warning
  split <;> rfl

theorem request_takesTurn : TakesTurn setting (Requested setting) (Refused setting) id
    (fun id => log .debug "deleting_managed_disk" (Teardown.aboutId id) >>= fun _ =>
      Access.delete .disk id.group id.name) := by
  intro id session
  refine Ends.log (Ends.mono (Ends.runs delete_ends) ?_)
  rintro events outcome after ⟨⟨hasks, hrefused⟩, hrun⟩
  cases outcome with
  | ok handle => exact .inl ⟨handle, rfl, hrun.eq_ok, hasks⟩
  | error reason =>
    exact .inr ⟨reason, rfl, hrun.eq_error, hasks, (hrefused reason rfl).after [_]⟩

theorem requestDisks_isRound (ids : List ResourceId) :
    IsRound setting session (Requested setting) (Refused setting) ids jobs
      (Teardown.requestDisks ids) := by
  have hcons : ∀ (id : ResourceId) rest, (Teardown.requestDisks (id :: rest) : Action τ W _) =
      (log .debug "deleting_managed_disk" (Teardown.aboutId id) >>= fun _ =>
        Access.delete .disk id.group id.name) >>= fun handle =>
          Teardown.requestDisks rest >>= fun others =>
            pure ((handle.map (id, ·)).toList ++ others) := by
    intro id rest
    rw [bind_assoc]
    rfl
  have hcollect : ∀ (turn : Turn τ ResourceId (Option Handle)) rest,
      jobs (turn :: rest) = (turn.result.map (turn.item, ·)).toList ++ jobs rest := by
    intro turn rest
    rw [jobs, List.filterMap_cons]
    cases turn.result <;> rfl
  exact loop_isRound rfl hcons hcollect request_takesTurn ids

theorem followed_takesTurn : TakesTurn setting (Followed t setting) (Interrupted t setting) id
    (fun job => t.isConfirmed (some job.2)) := by
  intro job session
  refine Ends.mono (Ends.runs isConfirmed_ends) ?_
  rintro events outcome after ⟨⟨hasks, hblames⟩, hrun⟩
  cases outcome with
  | ok done => exact .inl ⟨done, rfl, hrun.eq_ok, hasks⟩
  | error reason =>
    refine .inr ⟨reason, rfl, hrun.eq_error, hasks, fun fault hfault => ?_⟩
    exact hblames fault (by rw [hfault])

section Checked

omit [Timescale τ]

variable {id : ResourceId} {check : Action τ W Bool} {after : Session τ W}

theorem checked_eq_ok {passed : Bool}
    (h : (Teardown.checked id check).run setting session = .ok passed after) :
    passed = true ↔ outcome (check.run setting session) = .ok true := by
  rw [Teardown.checked, run_rescue] at h
  cases hrun : check.run setting session with
  | ok found between =>
    rw [hrun] at h
    cases h
    simp [outcome]
  | error reason between =>
    rw [hrun] at h
    cases reason with
    | raised fault =>
      cases h
      simp [outcome]
    | unfinished => cases h

theorem checked_eq_error {reason : Stop}
    (h : (Teardown.checked id check).run setting session = .error reason after) :
    reason = .unfinished ∧ check.run setting session = .error .unfinished after := by
  rw [Teardown.checked, run_rescue] at h
  cases hrun : check.run setting session with
  | ok found between =>
    rw [hrun] at h
    cases h
  | error first between =>
    rw [hrun] at h
    cases first with
    | raised fault => cases h
    | unfinished =>
      cases h
      exact ⟨rfl, rfl⟩

theorem checked_reaches {question : Request} (h : Reaches question check) :
    Ends setting session (Teardown.checked id check) fun events result _ =>
      outcome (check.run setting session) ≠ .error (.raised .durationTooLong) →
        question ∈ asks events ∨ result = .error .unfinished := by
  refine Ends.rescue (Ends.runs (h setting session)) ?_ ?_ ?_
  · rintro events passed after ⟨hasked | ⟨⟨⟩⟩ | ⟨⟨⟩⟩, -⟩ -
    exact .inl hasked
  · rintro events fault after ⟨hreached, hfault, -⟩
    refine Ends.log (Ends.pure fun hfits => .inl ?_)
    rcases hreached with hasked | ⟨⟨⟩⟩ | ⟨⟨⟩⟩
    · rw [asks_append]
      exact List.mem_append_left _ hasked
    · exact absurd hfault hfits
  · exact fun _ _ _ _ => .inr rfl

end Checked

omit [Timescale τ] in
theorem looked_takesTurn {check : ResourceId → Action τ W Bool} {question : ResourceId → Request}
    (hasks : ∀ id, Always (AsksOnly [question id]) [] (check id))
    (hreaches : ∀ id, Reaches (question id) (check id)) :
    TakesTurn setting (Looked setting check question) (Unanswered setting check question) id
      (fun id => Teardown.checked id (check id)) := by
  intro id session
  have hkeeps : Always (AsksOnly [question id]) [] (Teardown.checked id (check id)) :=
    checked_keeps (hasks id) fun _ _ => asksOnly_logged
  refine Ends.mono (Ends.runs (Ends.and (hkeeps setting session)
    (checked_reaches (hreaches id)))) ?_
  rintro events outcome after ⟨⟨⟨hobeys, -⟩, hreached⟩, hrun⟩
  have hsubset := asks_subset hobeys
  cases outcome with
  | ok passed =>
    refine .inl ⟨passed, rfl, hrun.eq_ok, checked_eq_ok hrun.eq_ok, hsubset, fun hfits => ?_⟩
    exact (hreached hfits).resolve_right nofun
  | error reason =>
    obtain ⟨hreason, hcheck⟩ := checked_eq_error hrun.eq_error
    exact .inr ⟨reason, rfl, hcheck, hreason, hsubset⟩

theorem isGone_asksOnly {isGone : ResourceId → Action τ W Bool} (h : t.diskCheckOf = .ok isGone)
    (id : ResourceId) : Always (AsksOnly [diskGet id]) [] (isGone id) := by
  have hmissing : ∀ past, Always (AsksOnly [diskGet id]) past
      (Teardown.isDiskMissing id : Action τ W Bool) :=
    fun _ => .bind (get_asksOnly (by simp [diskGet])) fun _ _ _ => .pure trivial
  obtain ⟨-, rfl⟩ | ⟨_, escalation, -, -, rfl⟩ := Teardown.diskCheckOf_eq_ok h
  · exact hmissing []
  · exact Escalation.await_keeps asksOnly_allowsWaiting fun _ => hmissing _

theorem isGone_reaches {isGone : ResourceId → Action τ W Bool} (h : t.diskCheckOf = .ok isGone)
    (id : ResourceId) : Reaches (diskGet id) (isGone id) := by
  have hmissing : Reaches (diskGet id) (Teardown.isDiskMissing id : Action τ W Bool) :=
    .bind (.of_calls fun _ _ => Ends.mono get_calls fun _ _ _ h => h.1) fun _ => .pure trivial
  obtain ⟨-, rfl⟩ | ⟨_, escalation, -, -, rfl⟩ := Teardown.diskCheckOf_eq_ok h
  · exact hmissing
  · exact Escalation.await_reaches hmissing

theorem departure_asksOnly (id : ResourceId) : Always (AsksOnly [groupMembers id]) []
    (Departure.hasLeft t.departure Access.members id : Action τ W Bool) := by
  have habsent : ∀ past, Always (AsksOnly [groupMembers id]) past
      (do return Departure.isAbsent id (← Access.members id.group) : Action τ W Bool) :=
    fun _ => .bind (members_asksOnly (by simp [groupMembers])) fun _ _ _ => .pure trivial
  refine .bind (Patience.await_keeps asksOnly_allowsWaiting fun _ => habsent _) fun _ left _ => ?_
  split
  · exact .pure trivial
  · exact .bind (.log asksOnly_logged) fun _ _ _ => .pure trivial

theorem departure_reaches (id : ResourceId) : Reaches (groupMembers id)
    (Departure.hasLeft t.departure Access.members id : Action τ W Bool) := by
  have habsent : Reaches (groupMembers id)
      (do return Departure.isAbsent id (← Access.members id.group) : Action τ W Bool) :=
    .bind (.of_calls fun _ _ => members_calls) fun _ => .pure trivial
  refine .bind (Patience.await_reaches habsent) fun left => ?_
  split
  · exact .pure trivial
  · exact .bind (.log trivial) fun _ _ _ => .pure trivial

/-! ## The whole -/

theorem hasLeft_takesTurn : TakesTurn setting
    (Looked setting (Departure.hasLeft t.departure Access.members) groupMembers)
    (Unanswered setting (Departure.hasLeft t.departure Access.members) groupMembers) id
    (t.hasLeft : ResourceId → Action τ W Bool) :=
  looked_takesTurn departure_asksOnly departure_reaches

theorem looks_end (ids : List ResourceId) (verdict : Bool) :
    Ends setting session (do
      let isGone ← ofExcept t.diskCheckOf
      Teardown.warnOf "disks_still_present"
        (← Teardown.failing (fun id => Teardown.checked id (isGone id)) ids)
      Teardown.warnOf "disks_still_in_resource_group" (← Teardown.failing t.hasLeft ids)
      return verdict : Action τ W Bool)
      fun events outcome after => LooksEnd t setting session ids verdict events outcome after := by
  cases hcheck : (t.diskCheckOf : Except Fault (ResourceId → Action τ W Bool)) with
  | error fault => exact Ends.stop (.unusable hcheck)
  | ok isGone =>
    rw [ofExcept_ok, pure_bind]
    refine (Teardown.failing_isRound (looked_takesTurn (isGone_asksOnly hcheck)
      (isGone_reaches hcheck)) ids).bind ?_
      fun _ _ _ hcut => .unseen hcheck hcut
    intro checking checks seen hchecks
    refine Ends.resume (run_warnOf ..) (logging_trace _) ?_
    refine (Teardown.failing_isRound hasLeft_takesTurn ids).bind ?_ ?_
    · intro listing listings listed hlistings
      refine Ends.resume (run_warnOf ..) (logging_trace _) (Ends.pure ?_)
      have hlooked : LooksEnd t setting session ids verdict _ _ _ :=
        .looked hcheck hchecks hlistings
      simpa using hlooked
    · intro listing reason after hcut
      have hunlisted : LooksEnd t setting session ids verdict _ _ _ :=
        .unlisted hcheck hchecks hcut
      simpa using hunlisted

/-- A machine's disks are removed in turn: once all ids are read the deletes are asked for, then
the handles are followed, whose verdicts are the result, and then the disks are looked for. -/
theorem removeDisks_ends (t : Teardown τ) (setting : Setting τ W) (session : Session τ W)
    {object : Model.Machine} {machine : View.Machine}
    (hview : View.machine (some object) = .ok machine) :
    Ends setting session (t.removeDisks machine) fun events outcome after =>
      DisksEnd t setting session object.diskTexts events outcome after := by
  unfold Teardown.removeDisks
  obtain ⟨ids, hids, hreads⟩ | ⟨text, htext, hparse, hids⟩ := diskIds_cases hview
  · rw [hids, ofExcept_ok, pure_bind]
    refine (requestDisks_isRound ids).bind ?_ fun _ _ _ hcut => .refused hreads hcut
    intro requesting requests asked hrequests
    refine (Teardown.failing_isRound followed_takesTurn (jobs requests)).bind ?_
      fun _ _ _ hcut => .interrupted hreads hrequests hcut
    intro following follows confirmed hfollows
    rw [failed_isEmpty]
    refine Ends.resume (run_warnOf ..) (logging_trace _) ?_
    refine Ends.mono (looks_end ids _) fun looking outcome after hlooks => ?_
    simpa using DisksEnd.followed hreads hrequests hfollows hlooks
  · rw [hids]
    exact Ends.stop (.malformed htext hparse)

end Turns

/-! A machine with three disks, one of them listed twice, and two entries that name none. The delete
of the first fails, and that of the second has no handle. Neither of them can be looked for, and the
third is gone only when it is looked for again. -/

namespace ThreeDisks

def text (name : String) : String := "/subscriptions/s/resourceGroups/rg/providers/p/disks/" ++ name

def data (id : Option String) : Model.DataDisk := ⟨some ⟨id⟩⟩

def dataDisks : List Model.DataDisk :=
  [data (text "a"), data none, data (text "b"), data "", data (text "c")]

def object : Model.Machine where
  id := some "/subscriptions/s/resourceGroups/rg/providers/p/machines/vm"
  name := some "vm"
  interfaces := []
  osDisk := some ⟨some (text "a")⟩
  dataDisks := dataDisks.map some
  availabilitySet := none

def machine : View.Machine := View.ofMachine object [] dataDisks

/-- The world counts the looks at the third disk. -/
def provider : Provider Rat Nat where
  answer
    | .get .disk _ "c", 0 => (.ok (some ⟨some (text "c"), some "c"⟩), 1, 1)
    | .get .disk _ "c", looks => (.error (.response ⟨.notFound, "gone", none⟩), 1, looks + 1)
    | .get _ _ _, world => (.error (.unreachable "down"), 1, world)
    | .list _ _, world => (⟨[], none⟩, 1, world)
    | .beginDelete _ _ (some "a"), world => (.ok (some ⟨1⟩), 1, world)
    | .beginDelete _ _ (some "b"), world => (.ok none, 1, world)
    | .beginDelete _ _ _, world => (.ok (some ⟨2⟩), 1, world)
    | .delete _ _ _, world => (.ok (), 1, world)
    | .members _, world => (⟨[], none⟩, 1, world)
    | .beginDeleteGroup _, world => (.ok none, 1, world)
    | .isDone _, world => (.ok true, 1, world)
    | .status ⟨1⟩, world => (.ok (some "Failed"), 1, world)
    | .status _, world => (.ok (some "Succeeded"), 1, world)
  deletesAtOnce := Kind.deletesAtOnce

def setting : Setting Rat Nat := ⟨provider, 13⟩

def start : Session Rat Nat := ⟨0, 0, #[]⟩

/-- All that is asked, in order. -/
def questions : List Request :=
  [ .beginDelete .disk "rg" (some "a"), .beginDelete .disk "rg" (some "b"),
    .beginDelete .disk "rg" (some "c"), .isDone ⟨1⟩, .status ⟨1⟩, .isDone ⟨2⟩, .status ⟨2⟩,
    .get .disk "rg" "a", .get .disk "rg" "b", .get .disk "rg" "c", .get .disk "rg" "c",
    .members "rg", .members "rg", .members "rg" ]

theorem removal_verdict :
    (outcome ((Teardown.sample.removeDisks machine).run setting start)).toOption =
      some false := by
  decide +kernel

theorem removal_asks :
    asks (left ((Teardown.sample.removeDisks machine).run setting start)).trace.toList =
      questions := by
  decide +kernel

theorem removal_ends :
    View.machine (some object) = .ok machine ∧ ∃ events after, asks events = questions ∧
      DisksEnd Teardown.sample setting start object.diskTexts events (.ok false) after := by
  have hview : View.machine (some object) = .ok machine := View.machine_of_lists rfl rfl
  obtain ⟨events, htrace, hends⟩ := removeDisks_ends Teardown.sample setting start hview
  have hasks := removal_asks
  have hverdict := removal_verdict
  rw [htrace] at hasks
  cases houtcome : outcome ((Teardown.sample.removeDisks machine).run setting start) with
  | error reason =>
    rw [houtcome] at hverdict
    cases hverdict
  | ok verdict =>
    rw [houtcome] at hverdict hends
    obtain rfl : verdict = false := Option.some.inj hverdict
    exact ⟨hview, events, _, hasks, hends⟩

end ThreeDisks

end Reclaim
