import Reclaim.Proofs.Cascade.Spec
import Reclaim.Proofs.Stages

/-!
# The three endings of a teardown

A fault can leave the teardown of a node only before its stages begin. Then nothing but the machine
was asked about.
-/

namespace Reclaim

open Reclaim.Action

variable {τ W α β : Type} {setting : Setting τ W} {session : Session τ W}

/-! ## Traces -/

theorem calls_append (events more : List (Event τ)) :
    calls (events ++ more) = calls events ++ calls more :=
  List.filterMap_append

theorem reports_append (events more : List (Event τ)) :
    reports (events ++ more) = reports events ++ reports more :=
  List.filterMap_append

theorem logging_trace (entries : List Log.Entry) :
    (session.logging entries).trace.toList = session.trace.toList ++ entries.map .logged := by
  have hpush : ∀ trace : Array (Event τ),
      (entries.foldl (fun trace entry => trace.push (.logged entry)) trace).toList =
        trace.toList ++ entries.map .logged := by
    induction entries with
    | nil => simp
    | cons entry rest ih =>
      intro trace
      rw [List.foldl_cons, ih, Array.toList_push, List.append_assoc]
      rfl
  exact hpush session.trace

theorem reports_of_limits {kinds : List Kind} {warrant : List (Event τ) → Removal → Prop}
    {past events : List (Event τ)} (h : Obeys (Limits kinds warrant) past events) :
    reports events = [] := by
  refine List.filterMap_eq_nil_iff.mpr fun event hevent => ?_
  obtain ⟨before, hrule⟩ := h.mem hevent
  cases event with
  | logged entry => exact if_neg hrule
  | _ => rfl

theorem silent_of_keeps {kinds : List Kind} {action : Action τ W α}
    {post : List (Event τ) → α → Prop}
    (h : Keeps (Limits kinds fun _ _ => True) [] action post) :
    Ends setting session action fun events _ _ => reports events = [] :=
  Ends.mono (h setting session) fun _ _ _ hend => reports_of_limits hend.1

/-- No request but those that follow a delete. -/
def Follows : Rule τ := fun _ event => event.call? = none

theorem follows_allowsFollowing : (Follows : Rule τ).AllowsFollowing where
  polled _ := rfl
  slept _ _ := rfl
  isDone _ _ _ := rfl
  status _ _ _ := rfl
  warned _ _ _ := rfl

theorem calls_of_follows {past events : List (Event τ)} (h : Obeys Follows past events) :
    calls events = [] := by
  refine List.filterMap_eq_nil_iff.mpr fun event hevent => ?_
  obtain ⟨before, hrule⟩ := h.mem hevent
  exact hrule

/-! ## What cannot raise -/

variable {t : Teardown τ} {node : NodeId} {machine : View.Machine} {group : String}

theorem checked_neverRaises {id : ResourceId} {check : Action τ W Bool} :
    NeverRaises (Teardown.checked id check) :=
  .rescue fun _ => .bind .record fun _ => .pure

variable [Timescale τ]

theorem tryStage_neverRaises {stage : Stage} :
    NeverRaises (t.tryStage node machine stage : Action τ W Unit) := by
  unfold Teardown.tryStage
  refine .bind (.rescue fun _ => .bind .record fun _ => .pure) fun complete => ?_
  split
  · exact .record
  · exact .pure

theorem stages_neverRaise {stages : List Stage} :
    NeverRaises (stages.forM (t.tryStage node machine) : Action τ W Unit) := by
  induction stages with
  | nil => exact .pure
  | cons stage rest ih => exact .bind tryStage_neverRaises fun _ => ih

/-! ## The machine -/

theorem ask_calls {request : Request} {next : request.Reply → Action τ W α}
    {post : request.Reply → α → Prop} (hcall : ∀ reply : request.Reply,
      (Event.asked request reply : Event τ).call? = some request)
    (h : ∀ reply, Keeps Follows [] (next reply) fun _ a => post reply a) :
    Ends setting session (ask request >>= next) fun events outcome _ =>
      calls events = [request] ∧
        ∀ a, outcome = .ok a → ∃ reply, .asked request reply ∈ events ∧ post reply a := by
  have hask : Ends setting session (ask request) fun events outcome _ =>
      ∃ reply, outcome = .ok reply ∧ events = [.asked request reply] :=
    Ends.ask fun reply _ _ _ => ⟨reply, rfl, rfl⟩
  refine Ends.bind hask ?_ ?_
  · rintro events reply after ⟨_, ⟨⟩, rfl⟩
    refine Ends.mono (h reply setting after) ?_
    rintro more outcome final ⟨hobeys, hpost⟩
    refine ⟨?_, fun a ha => ⟨reply, by simp, hpost a ha⟩⟩
    rw [calls_append, calls_of_follows hobeys]
    simp [calls, hcall]
  · rintro events reason after ⟨_, ⟨⟩, -⟩

theorem calls_of_ask {request : Request} {next : request.Reply → Action τ W α}
    (hcall : ∀ reply : request.Reply, (Event.asked request reply : Event τ).call? = some request)
    (h : ∀ reply, Always Follows [] (next reply)) :
    Ends setting session (ask request >>= next) fun events _ _ => calls events = [request] :=
  Ends.mono (ask_calls hcall h) fun _ _ _ h => h.1

theorem get_calls {kind : Kind} {group name : String} :
    Ends setting session (Access.get kind group name) fun events outcome _ =>
      calls events = [.get kind group name] ∧
        (outcome = .ok none → ∃ response, response.category = .notFound ∧
          .asked (.get kind group name) (.error (.response response)) ∈ events) := by
  refine Ends.mono (ask_calls (fun _ => rfl) fun reply => show Keeps Follows [] _ fun _ found =>
    found = none → ∃ response, response.category = .notFound ∧
      reply = .error (.response response) from ?_) ?_
  · cases reply with
    | ok object => exact .bind .ofExcept fun _ view _ => .pure fun h => by cases h
    | error fault =>
      dsimp only [Access.orGone]
      split
      next hgone =>
        obtain ⟨response, hresponse, rfl⟩ := Fault.unlessGone_eq_none.mp hgone
        exact .pure fun _ => ⟨response, hresponse, rfl⟩
      next => exact .stop
  · rintro events outcome after ⟨hcalls, hfound⟩
    refine ⟨hcalls, fun hnone => ?_⟩
    obtain ⟨reply, hmem, hpost⟩ := hfound none hnone
    obtain ⟨response, hresponse, rfl⟩ := hpost rfl
    exact ⟨response, hresponse, hmem⟩

theorem members_calls :
    Ends setting session (Access.members group) fun events _ _ =>
      calls events = [.members group] := by
  refine calls_of_ask (fun _ => rfl) fun listing => ?_
  split
  · exact .pure trivial
  · exact orGone_keeps (.pure trivial)

theorem delete_calls {kind : Kind} {name : Option String} :
    Ends setting session (Access.delete kind group name) fun events _ _ =>
      calls events = [setting.provider.deleteRequest kind group name] := by
  have hgone : ∀ {fault : Fault} {subject : Subject} {text : String},
      Always Follows [] (Access.orGone fault "delete" subject do
        record (.noted .debug text)
        return none : Action τ W (Option Handle)) :=
    orGone_keeps (.bind (.record rfl) fun _ _ _ => .pure trivial)
  apply Ends.ofSetting
  unfold Provider.deleteRequest
  split
  · refine calls_of_ask (fun _ => rfl) fun reply => ?_
    cases reply with
    | ok _ => exact .pure trivial
    | error fault => exact hgone
  · refine calls_of_ask (fun _ => rfl) fun reply => ?_
    cases reply with
    | ok handle => exact .pure trivial
    | error fault => exact hgone

theorem isConfirmed_calls {handle : Option Handle} :
    Ends setting session (t.isConfirmed handle) fun events _ _ => calls events = [] :=
  have hkeeps : Always Follows [] (t.isConfirmed handle : Action τ W Bool) :=
    isConfirmed_keeps follows_allowsFollowing
  Ends.mono (hkeeps setting session) fun _ _ _ h => calls_of_follows h.1

theorem removeMachine_raised {fault : Fault} {after : Session τ W}
    (h : (t.removeMachine group machine).run setting session = .error (.raised fault) after) :
    ∃ events, after.trace.toList = session.trace.toList ++ events ∧
      calls events = [setting.provider.deleteRequest .virtualMachine group machine.name] := by
  unfold Teardown.removeMachine at h
  rcases run_bind_eq_error.mp h with hdelete | ⟨handle, asked, hdelete, h⟩
  · exact delete_calls.of_error hdelete
  obtain ⟨events, htrace, hcalls⟩ := delete_calls.of_ok hdelete
  rcases run_bind_eq_error.mp h with hfollow | ⟨verdict, confirmed, hfollow, h⟩
  · obtain ⟨more, hmore, hnone⟩ := isConfirmed_calls.of_error hfollow
    exact ⟨events ++ more, by simp [hmore, htrace], by simp [calls_append, hcalls, hnone]⟩
  obtain ⟨more, hmore, hnone⟩ := isConfirmed_calls.of_ok hfollow
  rcases run_bind_eq_error.mp h with hreference | ⟨id, referred, -, h⟩
  · have hafter : after = confirmed := by
      cases hid : machine.reference with
      | ok id =>
        rw [hid] at hreference
        cases hreference
      | error fault =>
        rw [hid] at hreference
        cases hreference
        rfl
    rw [hafter]
    exact ⟨events ++ more, by simp [hmore, htrace], by simp [calls_append, hcalls, hnone]⟩
  -- Nothing after this point raises.
  · refine absurd h (NeverRaises.bind checked_neverRaises (fun left => ?_) _ _ _ _)
    split
    · exact .bind .record fun _ => .pure
    · exact .pure

theorem removeMachine_ok {verdict : Bool} {begun : Session τ W}
    (h : (t.removeMachine group machine).run setting session = .ok verdict begun) :
    ∃ handle asked confirmed,
      (Access.delete .virtualMachine group machine.name).run setting session = .ok handle asked ∧
        (t.isConfirmed handle).run setting asked = .ok verdict confirmed := by
  unfold Teardown.removeMachine at h
  obtain ⟨handle, asked, hdelete, h⟩ := run_bind_eq_ok.mp h
  obtain ⟨confirmation, confirmed, hfollowed, h⟩ := run_bind_eq_ok.mp h
  obtain ⟨id, referred, -, h⟩ := run_bind_eq_ok.mp h
  obtain ⟨left, looked, -, h⟩ := run_bind_eq_ok.mp h
  refine ⟨handle, asked, confirmed, hdelete, ?_⟩
  have hverdict : confirmation = verdict := by
    cases left <;> cases h <;> rfl
  rw [← hverdict, hfollowed]

/-! ## The stages -/

theorem tryStage_ok {stage : Stage} {after : Session τ W}
    (h : (t.tryStage node machine stage).run setting session = .ok () after) :
    ∃ result, Action.outcome ((t.perform node.group machine stage).run setting session) =
        result.mapError .raised ∧
      after = (left ((t.perform node.group machine stage).run setting session)).logging
        (stage.report node result) := by
  unfold Teardown.tryStage at h
  obtain ⟨complete, performed, hperform, h⟩ := run_bind_eq_ok.mp h
  rw [run_rescue] at hperform
  cases hrun : (t.perform node.group machine stage).run setting session with
  | ok done between =>
    rw [hrun] at hperform
    cases hperform
    refine ⟨.ok complete, rfl, ?_⟩
    cases complete with
    | true =>
      cases h
      rfl
    | false =>
      cases h
      rfl
  | error reason between =>
    rw [hrun] at hperform
    cases reason with
    | raised fault =>
      cases hperform
      cases h
      exact ⟨.error fault, rfl, rfl⟩
    | unfinished => cases hperform

theorem performed_of_ok {stages : List Stage} {staged : Session τ W}
    (h : (stages.forM (t.tryStage node machine)).run setting session = .ok () staged) :
    ∃ outcomes, Performed t setting node machine session outcomes staged ∧
      outcomes.map (·.1) = stages := by
  induction stages generalizing session with
  | nil =>
    cases h
    exact ⟨[], .none staged, rfl⟩
  | cons stage rest ih =>
    obtain ⟨_, reported, hstage, hrest⟩ := run_bind_eq_ok.mp h
    obtain ⟨result, hresult, rfl⟩ := tryStage_ok hstage
    obtain ⟨outcomes, hperformed, hnames⟩ := ih hrest
    exact ⟨(stage, result) :: outcomes, .stage hresult rfl hperformed, by simp [hnames]⟩

theorem get_silent {kind : Kind} {group name : String} :
    Ends setting session (Access.get kind group name) fun events _ _ => reports events = [] :=
  silent_of_keeps (Access.get_keeps (List.mem_singleton_self kind))

theorem removeMachine_silent :
    Ends setting session (t.removeMachine group machine) fun events _ _ => reports events = [] :=
  silent_of_keeps (Teardown.removeMachine_keeps fun _ _ => trivial)

theorem perform_silent {stage : Stage} :
    Ends setting session (t.perform group machine stage) fun events _ _ => reports events = [] :=
  silent_of_keeps (Teardown.perform_keeps covers_everything (fun _ _ _ _ _ _ _ _ => trivial)
    (fun _ h => h) stage)

omit [Timescale τ] in
theorem reports_report {stage : Stage} {result : Except Fault Bool} :
    reports ((stage.report node result).map (.logged (τ := τ))) = stage.report node result := by
  rcases result with fault | complete
  · simp [reports, Stage.report, Stage.report.incomplete, Event.report?, Stage.reportWords]
  · cases complete with
    | true => rfl
    | false =>
      simp [reports, Stage.report, Stage.report.incomplete, Event.report?, Stage.reportWords]

theorem Performed.reports {outcomes : List (Stage × Except Fault Bool)} {staged : Session τ W}
    (h : Performed t setting node machine session outcomes staged) :
    ∃ events, staged.trace.toList = session.trace.toList ++ events ∧
      reports events = outcomes.flatMap fun outcome => outcome.1.report node outcome.2 := by
  induction h with
  | none session => exact ⟨[], by simp, rfl⟩
  | @stage session after final stage result rest hresult hafter _ ih =>
    have hperform : Ends setting session (t.perform node.group machine stage)
        fun events _ _ => Reclaim.reports events = [] := perform_silent
    obtain ⟨events, htrace, hsilent⟩ := hperform
    obtain ⟨more, hmore, hreports⟩ := ih
    rw [hafter] at htrace
    refine ⟨events ++ (stage.report node result).map .logged ++ more, ?_, ?_⟩
    · rw [hmore, logging_trace, htrace]
      simp
    · rw [reports_append, reports_append, hsilent, reports_report, hreports]
      rfl

/-! ## The whole teardown -/

variable {token : Value}

theorem endsAs_raised {fault : Fault} {after : Session τ W}
    (h : (t.removeNode token).run setting session = .error (.raised fault) after) :
    EndsAs t setting token session .raised := by
  have hrun := h
  unfold Teardown.removeNode at h
  rcases run_bind_eq_error.mp h with hread | ⟨node, parsed, hread, h⟩
  · obtain ⟨-, rfl⟩ := run_ofExcept_eq_error.mp hread
    exact ⟨fault, session, [], hrun, by simp, .inl rfl⟩
  obtain ⟨hnode, rfl⟩ := run_ofExcept_eq_ok.mp hread
  rcases run_bind_eq_error.mp h with hget | ⟨found, read, hget, h⟩
  · obtain ⟨events, htrace, hcalls, -⟩ := get_calls.of_error hget
    exact ⟨fault, after, events, hrun, htrace, .inr ⟨node, none, hnode, by simp [hcalls]⟩⟩
  obtain ⟨events, htrace, hcalls, -⟩ := get_calls.of_ok hget
  cases found with
  | none => cases h
  | some machine =>
    rcases run_bind_eq_error.mp h with hlog | ⟨_, started, hlog, h⟩
    · cases hlog
    obtain rfl : read.logging [Cascade.destroying node] = started := by
      cases hlog
      rfl
    rcases run_bind_eq_error.mp h with hremoved | ⟨deleted, begun, -, h⟩
    · obtain ⟨more, hmore, hcall⟩ := removeMachine_raised hremoved
      refine ⟨fault, after, events ++ [.logged (Cascade.destroying node)] ++ more, hrun, ?_,
        .inr ⟨node, machine.name, hnode, ?_⟩⟩
      · rw [hmore, logging_trace, htrace]
        simp
      · rw [calls_append, calls_append, hcalls, hcall]
        exact List.prefix_rfl
    -- The stages handle every fault of their own.
    · refine absurd h (NeverRaises.bind stages_neverRaise (fun _ => ?_) _ _ _ _)
      dsimp only
      split
      · exact .bind .record fun _ => .pure
      · exact .bind .record fun _ => .pure

theorem endsAs_ok {verdict : Bool} {after : Session τ W}
    (h : (t.removeNode token).run setting session = .ok verdict after) :
    EndsAs t setting token session .nothingFound ∨ EndsAs t setting token session .cascaded := by
  have hrun := h
  unfold Teardown.removeNode at h
  obtain ⟨node, parsed, hread, h⟩ := run_bind_eq_ok.mp h
  obtain ⟨hnode, rfl⟩ := run_ofExcept_eq_ok.mp hread
  obtain ⟨found, read, hget, h⟩ := run_bind_eq_ok.mp h
  cases found with
  | none =>
    obtain ⟨events, htrace, hcalls, hfound⟩ := get_calls.of_ok hget
    obtain ⟨response, hresponse, hmem⟩ := hfound rfl
    obtain rfl : true = verdict := by
      cases h
      rfl
    have hafter : after.trace.toList = read.trace.toList ++
        [.logged ⟨.debug, "node_already_deleted", [("node_id", token)], none⟩] := by
      cases h
      simp
    refine .inl ⟨node, response, read, after,
      events ++ [.logged ⟨.debug, "node_already_deleted", [("node_id", token)], none⟩],
      hrun, ?_, hnode, hget, ?_, hresponse, ?_⟩
    · rw [hafter, htrace, List.append_assoc]
    · rw [calls_append, hcalls]
      rfl
    · exact List.mem_append_left _ hmem
  | some machine =>
    obtain ⟨_, started, hlog, h⟩ := run_bind_eq_ok.mp h
    obtain rfl : read.logging [Cascade.destroying node] = started := by
      cases hlog
      rfl
    obtain ⟨deleted, begun, hremoved, h⟩ := run_bind_eq_ok.mp h
    obtain ⟨handle, asked, confirmed, hasked, hfollowed⟩ := removeMachine_ok hremoved
    obtain ⟨_, staged, hstages, h⟩ := run_bind_eq_ok.mp h
    obtain ⟨outcomes, hperformed, hnames⟩ := performed_of_ok hstages
    obtain ⟨rfl, rfl⟩ : verdict = deleted ∧
        after = staged.logging [Cascade.concluding node deleted] := by
      cases deleted <;> cases h <;> exact ⟨rfl, rfl⟩
    let c : Cascade t setting session node :=
      { machine, read, found := hget, handle, asked, requested := hasked, verdict, confirmed,
        followed := hfollowed, begun, removed := hremoved, outcomes, staged,
        performed := hperformed, inOrder := hnames }
    -- The run in its parts, of which only the stages leave reports.
    obtain ⟨reading, hreading, hsilent⟩ := get_silent.of_ok hget
    obtain ⟨removing, hremoving, hquiet⟩ := removeMachine_silent.of_ok hremoved
    obtain ⟨staging, hstaging, hreports⟩ := hperformed.reports
    refine .inr ⟨node, c, reading ++ [.logged (Cascade.destroying node)] ++ removing ++ staging ++
      [.logged (Cascade.concluding node verdict)], hrun, ?_, hnode, ?_⟩
    · change (staged.logging [Cascade.concluding node verdict]).trace.toList = _
      rw [logging_trace, hstaging, hremoving, logging_trace, hreading]
      simp
    · have hopening : reports [(.logged (Cascade.destroying node) : Event τ)] = [] := by
        simp [reports, Event.report?, Cascade.destroying, Stage.reportWords]
      have hclosing : reports [(.logged (Cascade.concluding node verdict) : Event τ)] = [] := by
        cases verdict <;> simp [reports, Event.report?, Cascade.concluding, Stage.reportWords]
      simp only [reports_append, hsilent, hopening, hquiet, hreports, hclosing, List.nil_append,
        List.append_nil]
      rfl

theorem not_nothingFound_of_raised (h : EndsAs t setting token session .raised) :
    ¬ EndsAs t setting token session .nothingFound := by
  obtain ⟨fault, after, _, hraised, -⟩ := h
  rintro ⟨_, _, _, _, _, hok, -⟩
  rw [hraised] at hok
  cases hok

theorem not_cascaded_of_raised (h : EndsAs t setting token session .raised) :
    ¬ EndsAs t setting token session .cascaded := by
  obtain ⟨fault, after, _, hraised, -⟩ := h
  rintro ⟨_, _, _, hok, -⟩
  rw [hraised] at hok
  cases hok

theorem not_cascaded_of_nothingFound (h : EndsAs t setting token session .nothingFound) :
    ¬ EndsAs t setting token session .cascaded := by
  obtain ⟨node, _, _, _, _, -, -, hnode, hget, -⟩ := h
  rintro ⟨other, c, _, -, -, hother, -⟩
  obtain rfl : node = other := Except.ok.inj (hnode.symm.trans hother)
  have hfound := hget.symm.trans c.found
  cases hfound

theorem EndsAs.unique {ending other : Ending} (h : EndsAs t setting token session ending)
    (hother : EndsAs t setting token session other) : other = ending := by
  cases ending with
  | raised =>
    cases other with
    | raised => rfl
    | nothingFound => exact absurd hother (not_nothingFound_of_raised h)
    | cascaded => exact absurd hother (not_cascaded_of_raised h)
  | nothingFound =>
    cases other with
    | raised => exact absurd h (not_nothingFound_of_raised hother)
    | nothingFound => rfl
    | cascaded => exact absurd hother (not_cascaded_of_nothingFound h)
  | cascaded =>
    cases other with
    | raised => exact absurd h (not_cascaded_of_raised hother)
    | nothingFound => exact absurd h (not_cascaded_of_nothingFound hother)
    | cascaded => rfl

/-- A teardown whose trackers come to an end does so in exactly one of three ways. -/
theorem removeNode_ends_in_one_way (t : Teardown τ) (setting : Setting τ W) (token : Value)
    (session : Session τ W)
    (h : ∀ after, (t.removeNode token).run setting session ≠ .error .unfinished after) :
    ∃! ending, EndsAs t setting token session ending := by
  cases hrun : (t.removeNode token).run setting session with
  | error reason after =>
    cases reason with
    | raised fault =>
      have hraised := endsAs_raised hrun
      exact ⟨.raised, hraised, fun _ hother => hraised.unique hother⟩
    | unfinished => exact absurd hrun (h after)
  | ok verdict after =>
    rcases endsAs_ok hrun with hnothing | hcascade
    · exact ⟨.nothingFound, hnothing, fun _ hother => hnothing.unique hother⟩
    · exact ⟨.cascaded, hcascade, fun _ hother => hcascade.unique hother⟩

/-! ## A machine that stays -/

namespace Stubborn

/-- The provider has one machine, whose delete ends in failure. Its interface has no readable id,
and no other object can be read. -/
def provider : Provider Rat Unit where
  answer
    | .get .virtualMachine _ _, world =>
      (.ok (some {
        id := some "/subscriptions/s/resourceGroups/rg/providers/p/machines/vm"
        name := some "vm"
        interfaces := [some ⟨some "nic"⟩]
        osDisk := some ⟨some "/subscriptions/s/resourceGroups/rg/providers/p/disks/d"⟩
        dataDisks := []
        availabilitySet := none }), 1, world)
    | .get _ _ _, world => (.error (.unreachable "down"), 1, world)
    | .list _ _, world => (⟨[], none⟩, 1, world)
    | .beginDelete _ _ _, world => (.ok (some ⟨1⟩), 1, world)
    | .delete _ _ _, world => (.ok (), 1, world)
    | .members _, world => (⟨[], none⟩, 1, world)
    | .beginDeleteGroup _, world => (.ok none, 1, world)
    | .isDone _, world => (.ok true, 1, world)
    | .status _, world => (.ok (some "Failed"), 1, world)
  deletesAtOnce := Kind.deletesAtOnce

def hasFinished {α : Type} : EStateM.Result Stop (Session Rat Unit) α → Bool
  | .error .unfinished _ => false
  | _ => true

theorem finishes :
    hasFinished ((Teardown.sample.removeNode (.str "rg/vm")).run ⟨provider, 1⟩ ⟨(), 0, #[]⟩) =
      true := by
  decide +kernel

theorem ends_in_one_way :
    (∀ after, (Teardown.sample.removeNode (.str "rg/vm")).run ⟨provider, 1⟩ ⟨(), 0, #[]⟩ ≠
        .error .unfinished after) ∧
      ∃! ending, EndsAs Teardown.sample ⟨provider, 1⟩ (.str "rg/vm") ⟨(), 0, #[]⟩ ending := by
  have hends : ∀ after, (Teardown.sample.removeNode (.str "rg/vm")).run ⟨provider, 1⟩ ⟨(), 0, #[]⟩ ≠
      .error .unfinished after := by
    intro after hrun
    have hfinishes := finishes
    rw [hrun] at hfinishes
    cases hfinishes
  exact ⟨hends,
    removeNode_ends_in_one_way Teardown.sample ⟨provider, 1⟩ (.str "rg/vm") ⟨(), 0, #[]⟩ hends⟩

end Stubborn

end Reclaim
