import Reclaim.Proofs.Turns.Round
import Reclaim.Proofs.Unconfirmed.Trackers

/-!
# What is asked, and whose fault it is

A request, a check and the following of a delete each ask for what they are about and for nothing
else. If one of them raises, the provider's reply is to blame, or a duration that no clock can
count.
-/

namespace Reclaim

open Reclaim.Action

variable {τ W α : Type}

/-! ## Ids -/

/-- Items taken one after the other come to an end at the first that fails. -/
theorem first_of_mapM_error {α β : Type} {f : α → Except Fault β} {items : List α} {fault : Fault}
    (h : items.mapM f = .error fault) : ∃ before item after, items = before ++ item :: after ∧
      (∀ other ∈ before, ∃ b, f other = .ok b) ∧ f item = .error fault := by
  induction items with
  | nil => cases h
  | cons item rest ih =>
    rw [List.mapM_cons] at h
    cases hitem : f item with
    | error first =>
      rw [hitem] at h
      obtain rfl : first = fault := Except.error.inj h
      exact ⟨[], item, rest, rfl, List.forall_mem_nil _, hitem⟩
    | ok b =>
      have hrest : rest.mapM f = .error fault := by
        cases hmap : rest.mapM f with
        | ok others =>
          rw [hitem, hmap] at h
          cases h
        | error later =>
          rw [hitem, hmap] at h
          exact congrArg _ (Except.error.inj h)
      obtain ⟨before, last, after, rfl, hbefore, hlast⟩ := ih hrest
      refine ⟨item :: before, last, after, rfl, ?_, hlast⟩
      exact List.forall_mem_cons.mpr ⟨⟨b, hitem⟩, hbefore⟩

theorem exists_of_mapM_error {α β : Type} {f : α → Except Fault β} {items : List α} {fault : Fault}
    (h : items.mapM f = .error fault) : ∃ item ∈ items, f item = .error fault := by
  obtain ⟨before, item, after, rfl, -, hitem⟩ := first_of_mapM_error h
  exact ⟨item, List.mem_append_right _ List.mem_cons_self, hitem⟩

theorem exists_of_mapM_read_error {texts : List String} {fault : Fault}
    (h : (texts.mapM fun text => ResourceId.read (.str text)) = .error fault) :
    ∃ text ∈ texts, ResourceId.parse? text = none ∧ fault = .malformedId text := by
  obtain ⟨text, htext, hread⟩ := exists_of_mapM_error h
  refine ⟨text, htext, ?_⟩
  rw [ResourceId.read] at hread
  cases hparse : ResourceId.parse? text with
  | some id =>
    rw [hparse] at hread
    cases hread
  | none =>
    rw [hparse] at hread
    exact ⟨rfl, (Except.error.inj hread).symm⟩

/-! ## Requests of any kind -/

def Event.request? : Event τ → Option Request
  | .asked request _ => some request
  | _ => none

/-- All requests, also those that follow a delete through its handle. -/
def asks (events : List (Event τ)) : List Request := events.filterMap Event.request?

theorem asks_append (events more : List (Event τ)) :
    asks (events ++ more) = asks events ++ asks more :=
  List.filterMap_append

theorem calls_subset_asks (events : List (Event τ)) : calls events ⊆ asks events := by
  intro request hcall
  obtain ⟨event, hevent, hrequest⟩ := List.mem_filterMap.mp hcall
  refine List.mem_filterMap.mpr ⟨event, hevent, ?_⟩
  cases event with
  | asked asked reply => cases asked <;> simp_all [Event.call?, Event.request?]
  | _ => cases hrequest

theorem calls_cons_logged (entry : Log.Entry) (events : List (Event τ)) :
    calls (.logged entry :: events) = calls events := rfl

theorem calls_map_logged (entries : List Log.Entry) :
    calls (entries.map (.logged : Log.Entry → Event τ)) = [] := by
  induction entries with
  | nil => rfl
  | cons entry rest ih => exact ih

theorem calls_append_logged (events : List (Event τ)) (entry : Log.Entry) :
    calls (events ++ [.logged entry]) = calls events := by
  rw [calls_append]
  exact List.append_nil _

theorem exists_asked_of_mem_calls {events : List (Event τ)} {request : Request}
    (h : request ∈ calls events) :
    ∃ before reply rest, events = before ++ .asked request reply :: rest := by
  obtain ⟨event, hevent, hcall⟩ := List.mem_filterMap.mp h
  obtain ⟨before, rest, rfl⟩ := List.append_of_mem hevent
  cases event with
  | asked asked reply =>
    obtain rfl : asked = request := by
      cases asked <;> cases hcall <;> rfl
    exact ⟨before, reply, rest, rfl⟩
  | _ => cases hcall

theorem Provider.deleteRequest_ne_get {provider : Provider τ W} {kind : Kind}
    {group name : String} {deleted : Option String} :
    provider.deleteRequest kind group deleted ≠ .get kind group name := by
  unfold Provider.deleteRequest
  split <;> simp

/-- Nothing but these is asked. -/
def AsksOnly (allowed : List Request) : Rule τ :=
  fun _ event => ∀ request ∈ event.request?, request ∈ allowed

variable {allowed : List Request} {past : List (Event τ)}

theorem asks_subset {events : List (Event τ)} (h : Obeys (AsksOnly allowed) past events) :
    asks events ⊆ allowed := by
  intro request hrequest
  obtain ⟨event, hevent, hasked⟩ := List.mem_filterMap.mp hrequest
  obtain ⟨before, hrule⟩ := h.mem hevent
  exact hrule request hasked

theorem asksOnly_allowsWaiting : (AsksOnly allowed : Rule τ).AllowsWaiting where
  polled _ := nofun
  slept _ _ := nofun

theorem asksOnly_logged {entry : Log.Entry} : AsksOnly allowed past (.logged entry) := nofun

theorem asksOnly_asked {request : Request} (h : request ∈ allowed) (reply : request.Reply) :
    AsksOnly allowed past (.asked request reply) := by
  rintro _ ⟨⟩
  exact h

variable [Timescale τ]

theorem ask_asksOnly {request : Request} (h : request ∈ allowed) :
    Always (AsksOnly allowed) past (ask request : Action τ W request.Reply) :=
  (Keeps.ask (asksOnly_asked h)).always

theorem get_asksOnly {kind : Kind} {group name : String} (h : .get kind group name ∈ allowed) :
    Always (AsksOnly allowed) past (Access.get kind group name : Action τ W _) :=
  (Access.get_shown (asksOnly_asked h)).always

theorem members_asksOnly {group : String} (h : .members group ∈ allowed) :
    Always (AsksOnly allowed) past
      (Access.members group : Action τ W (Option (List View.Member))) :=
  Access.members_always (asksOnly_asked h)

/-! ## Deletes -/

/-- The provider answered the delete with this fault. -/
inductive Refuses (kind : Kind) (group : String) (name : Option String) (fault : Fault) :
    Event τ → Prop
  | begun : Refuses kind group name fault (.asked (.beginDelete kind group name) (.error fault))
  | atOnce : Refuses kind group name fault (.asked (.delete kind group name) (.error fault))

/-- The delete was answered with a fault, which does not say that its subject is gone and is
reported as one of that subject. -/
def DeleteRefused (kind : Kind) (group : String) (name : Option String)
    (events : List (Event τ)) (reason : Stop) : Prop :=
  ∃ original fault, (∃ event ∈ events, Refuses kind group name original event) ∧
    original.unlessGone "delete" ⟨kind.label, group, name⟩ = some fault ∧ reason = .raised fault

omit [Timescale τ] in
theorem DeleteRefused.after {kind : Kind} {group : String} {name : Option String}
    {events : List (Event τ)} {reason : Stop} (h : DeleteRefused kind group name events reason)
    (before : List (Event τ)) : DeleteRefused kind group name (before ++ events) reason := by
  obtain ⟨original, fault, ⟨event, hevent, hrefuses⟩, hreport⟩ := h
  exact ⟨original, fault, ⟨event, List.mem_append_right _ hevent, hrefuses⟩, hreport⟩

variable {setting : Setting τ W} {session : Session τ W}

omit [Timescale τ] in
theorem orGone_ends {fault : Fault} {verb : String} {subject : Subject} {whenGone : Action τ W α}
    {post : List (Event τ) → Except Stop α → Session τ W → Prop}
    (hgone : fault.unlessGone verb subject = none → Ends setting session whenGone post)
    (hraised : ∀ report, fault.unlessGone verb subject = some report →
      post [] (.error (.raised report)) session) :
    Ends setting session (Access.orGone fault verb subject whenGone) post := by
  unfold Access.orGone
  split
  next h => exact hgone h
  next report h => exact Ends.stop (hraised report h)

theorem delete_ends {kind : Kind} {group : String} {name : Option String} :
    Ends setting session (Access.delete kind group name) fun events outcome _ =>
      asks events = [setting.provider.deleteRequest kind group name] ∧
        ∀ reason, outcome = .error reason → DeleteRefused kind group name events reason := by
  have hask : ∀ request, Ends setting session (ask request) fun events outcome _ =>
      ∃ reply, outcome = .ok reply ∧ events = [.asked request reply] :=
    fun request => Ends.ask fun reply _ _ _ => ⟨reply, rfl, rfl⟩
  apply Ends.ofSetting
  unfold Provider.deleteRequest
  split
  · refine Ends.bind (hask _) ?_ (by rintro _ _ _ ⟨_, ⟨⟩, -⟩)
    rintro events reply after ⟨_, ⟨⟩, rfl⟩
    cases reply with
    | ok _ => exact Ends.pure ⟨rfl, nofun⟩
    | error fault =>
      refine orGone_ends (fun _ => ?_) fun report hreport => ⟨rfl, ?_⟩
      · exact Ends.resume (run_record ..) (Array.toList_push ..) (Ends.pure ⟨rfl, nofun⟩)
      · rintro _ ⟨⟩
        exact ⟨fault, report, ⟨_, by simp, .atOnce⟩, hreport, rfl⟩
  · refine Ends.bind (hask _) ?_ (by rintro _ _ _ ⟨_, ⟨⟩, -⟩)
    rintro events reply after ⟨_, ⟨⟩, rfl⟩
    cases reply with
    | ok _ => exact Ends.pure ⟨rfl, nofun⟩
    | error fault =>
      refine orGone_ends (fun _ => ?_) fun report hreport => ⟨rfl, ?_⟩
      · exact Ends.resume (run_record ..) (Array.toList_push ..) (Ends.pure ⟨rfl, nofun⟩)
      · rintro _ ⟨⟩
        exact ⟨fault, report, ⟨_, by simp, .begun⟩, hreport, rfl⟩

/-! ## Whose fault it is -/

section Blame

variable {β : Type} {guilty : Fault → Event τ → Prop}
variable {action : Action τ W α} {next : α → Action τ W β}

/-- A fault that the action raises has an event to blame, or a duration that is too long. -/
def Blames (guilty : Fault → Event τ → Prop) (action : Action τ W α) : Prop :=
  ∀ setting session, Ends setting session action fun events outcome _ =>
    ∀ fault, outcome = .error (.raised fault) →
      fault = .durationTooLong ∨ ∃ event ∈ events, guilty fault event

omit [Timescale τ]

theorem Blames.pure {a : α} : Blames guilty (pure a : Action τ W α) :=
  fun _ _ => Ends.pure nofun

theorem Blames.unfinished : Blames guilty (stop .unfinished : Action τ W α) :=
  fun _ _ => Ends.stop nofun

theorem Blames.bind (h : Blames guilty action) (hnext : ∀ a, Blames guilty (next a)) :
    Blames guilty (action >>= next) := by
  intro setting session
  refine Ends.bind (h setting session) ?_ ?_
  · rintro events a after -
    refine Ends.mono (hnext a setting after) fun more outcome final hmore fault hfault => ?_
    refine (hmore fault hfault).imp_right ?_
    rintro ⟨event, hevent, hguilty⟩
    exact ⟨event, List.mem_append_right _ hevent, hguilty⟩
  · intro events reason after hevents fault hfault
    exact hevents fault (by rw [Except.error.inj hfault])

theorem Blames.record {event : Event τ} : Blames guilty (record event : Action τ W Unit) :=
  fun _ _ => Ends.record nofun

theorem Blames.now : Blames guilty (now : Action τ W τ) :=
  fun _ _ => ⟨[], (List.append_nil _).symm, nofun⟩

theorem Blames.ofSetting : Blames guilty (Action.setting : Action τ W (Setting τ W)) :=
  fun _ _ => ⟨[], (List.append_nil _).symm, nofun⟩

variable [Timescale τ]

theorem Blames.counted {duration : τ} : Blames guilty (counted duration : Action τ W τ) := by
  refine fun _ _ => Ends.counted nofun ?_
  rintro _ ⟨⟩
  exact .inl rfl

theorem Blames.sleep {duration : τ} : Blames guilty (sleep duration : Action τ W Unit) := by
  refine .bind .counted fun _ => .bind .record fun _ => fun _ _ => Ends.letPass nofun ?_
  rintro _ ⟨⟩
  exact .inl rfl

/-- A request whose reply is either a value or the fault that is raised. -/
theorem Blames.reply {request : Request} {read : request.Reply → Except Fault α}
    (h : ∀ reply fault, read reply = .error fault → guilty fault (.asked request reply)) :
    Blames guilty (do ofExcept (read (← ask request)) : Action τ W α) := by
  intro setting session
  have hask : Ends setting session (ask request) fun events outcome _ =>
      ∃ reply, outcome = .ok reply ∧ events = [.asked request reply] :=
    Ends.ask fun reply _ _ _ => ⟨reply, rfl, rfl⟩
  refine Ends.bind hask ?_ (by rintro _ _ _ ⟨_, ⟨⟩, -⟩)
  rintro events reply after ⟨_, ⟨⟩, rfl⟩
  cases hread : read reply with
  | ok a => exact Ends.pure nofun
  | error fault =>
    refine Ends.stop ?_
    rintro _ ⟨⟩
    exact .inr ⟨_, by simp, h reply fault hread⟩

theorem Patience.await_blames {p : Patience τ} {condition : Action τ W Bool}
    (h : Blames guilty condition) : Blames guilty (p.await condition) := by
  have hpoll : ∀ deadline limit, Blames guilty (poll deadline p.period condition limit) := by
    intro deadline limit
    induction limit with
    | zero => exact .unfinished
    | succ limit ih =>
      rw [poll]
      refine .bind .record fun _ => .bind h fun done => ?_
      split
      · exact .pure
      · refine .bind .now fun time => ?_
        split
        · exact .pure
        · exact .bind .sleep fun _ => ih
  exact .bind .now fun _ => .bind .counted fun _ => .bind .ofSetting fun _ => hpoll _ _

end Blame

/-! ## What is asked at least once -/

section Reaches

variable {β : Type} {question : Request} {action : Action τ W α} {next : α → Action τ W β}

/-- The question is asked, unless the run does not end or meets a duration that is too long. -/
def Reaches (question : Request) (action : Action τ W α) : Prop :=
  ∀ setting session, Ends setting session action fun events outcome _ =>
    question ∈ asks events ∨ outcome = .error .unfinished ∨
      outcome = .error (.raised .durationTooLong)

omit [Timescale τ]

/-- A rule that forbids nothing. To keep it is to take nothing off the trace. -/
abbrev anyEvent : Rule τ := fun _ _ => True

theorem anyEvent_allowsWaiting : (anyEvent : Rule τ).AllowsWaiting := ⟨by simp, by simp⟩

theorem obeys_anyEvent (past events : List (Event τ)) : Obeys anyEvent past events := by
  induction events generalizing past with
  | nil => trivial
  | cons event rest ih => exact ⟨trivial, ih _⟩

theorem Reaches.always (h : Reaches question action) {past : List (Event τ)} :
    Always anyEvent past action :=
  fun setting session => Ends.mono (h setting session) fun events _ _ _ =>
    ⟨obeys_anyEvent past events, fun _ _ => trivial⟩

theorem Reaches.of_calls (h : ∀ (setting : Setting τ W) session, Ends setting session action
    fun events _ _ => calls events = [question]) : Reaches question action := by
  refine fun setting session => Ends.mono (h setting session) fun events _ _ hcalls => .inl ?_
  exact calls_subset_asks events (by simp [hcalls])

theorem Reaches.unfinished : Reaches question (stop .unfinished : Action τ W α) :=
  fun _ _ => Ends.stop (.inr (.inl rfl))

/-- The first part reaches the question. -/
theorem Reaches.bind (h : Reaches question action) (hnext : ∀ a, Always anyEvent [] (next a)) :
    Reaches question (action >>= next) := by
  intro setting session
  refine Ends.bind (h setting session) ?_ ?_
  · rintro events a after (hasked | ⟨⟨⟩⟩ | ⟨⟨⟩⟩)
    refine Ends.mono (hnext a setting after) fun more _ _ _ => .inl ?_
    rw [asks_append]
    exact List.mem_append_left _ hasked
  · rintro events reason after (hasked | ⟨⟨⟩⟩ | ⟨⟨⟩⟩)
    · exact .inl hasked
    · exact .inr (.inl rfl)
    · exact .inr (.inr rfl)

/-- What comes next reaches the question. -/
theorem Reaches.after (h : ∀ (setting : Setting τ W) session, Ends setting session action
      fun _ outcome _ => ∀ reason, outcome = .error reason → reason = .raised .durationTooLong)
    (hnext : ∀ a, Reaches question (next a)) : Reaches question (action >>= next) := by
  intro setting session
  refine Ends.bind (h setting session) ?_ ?_
  · rintro events a after -
    refine Ends.mono (hnext a setting after) fun more outcome _ hreached => ?_
    rw [asks_append]
    exact hreached.imp_left (List.mem_append_right _)
  · intro events reason after hlong
    exact .inr (.inr (by rw [hlong reason rfl]))

theorem Reaches.polled {next : Unit → Action τ W β} (h : Reaches question (next ())) :
    Reaches question (record .polled >>= next) :=
  .after (fun _ _ => Ends.record nofun) fun _ => h

theorem Reaches.now {next : τ → Action τ W β} (h : ∀ time, Reaches question (next time)) :
    Reaches question (Action.now >>= next) :=
  fun setting session => Ends.ofNow (h _ setting session)

theorem Reaches.ofSetting {next : Setting τ W → Action τ W β}
    (h : ∀ setting, Reaches question (next setting)) :
    Reaches question (Action.setting >>= next) :=
  fun setting session => Ends.ofSetting (h setting setting session)

variable [Timescale τ] {condition : Action τ W Bool}

theorem Reaches.counted {duration : τ} {next : τ → Action τ W β}
    (h : ∀ counted, Reaches question (next counted)) :
    Reaches question (Action.counted duration >>= next) := by
  refine .after (fun _ _ => Ends.counted nofun ?_) h
  rintro _ ⟨⟩
  rfl

theorem Patience.await_reaches {p : Patience τ} (h : Reaches question condition) :
    Reaches question (p.await condition) := by
  have hpoll : ∀ deadline limit, Reaches question (poll deadline p.period condition limit) := by
    intro deadline limit
    cases limit with
    | zero => exact .unfinished
    | succ limit =>
      -- The first look asks, and the others take nothing back.
      rw [poll]
      refine .polled (.bind h fun done => ?_)
      split
      · exact .pure trivial
      · refine .bind .now fun _ time _ => ?_
        split
        · exact .pure trivial
        · exact .bind (.sleep trivial) fun _ _ _ =>
            poll_keeps anyEvent_allowsWaiting fun _ => h.always
  exact .now fun _ => .counted fun _ => .ofSetting fun _ => hpoll _ _

theorem Escalation.await_reaches {e : Escalation τ} (h : Reaches question condition) :
    Reaches question (e.await condition) := by
  have hretry : ∀ deadline limit,
      Reaches question (retry deadline e.ceiling e.period condition limit) := by
    intro deadline limit
    cases limit with
    | zero => exact .unfinished
    | succ limit =>
      rw [retry]
      refine .polled (.bind h fun done => ?_)
      split
      · exact .pure trivial
      · refine .bind .now fun _ time _ => ?_
        dsimp only
        split
        · exact .pure trivial
        · exact .bind (.sleep trivial) fun _ _ _ => .bind .counted fun _ _ _ =>
            retry_keeps anyEvent_allowsWaiting fun _ => h.always
  exact .now fun _ => .counted fun _ => .ofSetting fun _ => hretry _ _

end Reaches

/-! ## Following a delete -/

/-- The handle raised the fault. -/
inductive Tells (handle : Handle) (fault : Fault) : Event τ → Prop
  | isDone : Tells handle fault (.asked (.isDone handle) (.error fault))
  | status : Tells handle fault (.asked (.status handle) (.error fault))

variable {t : Teardown τ} {handle : Handle}

theorem isConfirmed_asksOnly : Always (AsksOnly [.isDone handle, .status handle]) past
    (t.isConfirmed (some handle) : Action τ W Bool) := by
  have hstatus : ∀ past, Always (AsksOnly [.isDone handle, .status handle]) past
      (Deletion.status handle : Action τ W String) :=
    fun _ => .bind (ask_asksOnly (by simp)) fun _ _ _ => .bind .ofExcept fun _ _ _ => .pure trivial
  refine .bind (Patience.await_keeps asksOnly_allowsWaiting fun _ => ?_) fun _ done _ => ?_
  · exact .bind (ask_asksOnly (by simp)) fun _ _ _ => Keeps.ofExcept.always
  · split
    · refine .bind (hstatus _) fun _ status _ => ?_
      split
      · exact .bind (.log asksOnly_logged) fun _ _ _ => .pure trivial
      · exact .pure trivial
    · exact .bind (.log asksOnly_logged) fun _ _ _ => .pure trivial

theorem isConfirmed_blames : Blames (Tells handle)
    (t.isConfirmed (some handle) : Action τ W Bool) := by
  have hdone : Blames (Tells handle) (Deletion.isDone handle : Action τ W Bool) :=
    Blames.reply fun _ _ hreply => hreply ▸ .isDone
  have hstatus : Blames (Tells handle) (Deletion.status handle : Action τ W String) := by
    rw [Deletion.status, ← bind_assoc]
    exact .bind (Blames.reply fun _ _ hreply => hreply ▸ .status) fun _ => .pure
  refine .bind (Patience.await_blames hdone) fun done => ?_
  split
  · refine .bind hstatus fun status => ?_
    split
    · exact .bind .record fun _ => .pure
    · exact .pure
  · exact .bind .record fun _ => .pure

theorem isConfirmed_ends :
    Ends setting session (t.isConfirmed (some handle)) fun events outcome _ =>
      asks events ⊆ [.isDone handle, .status handle] ∧
        ∀ fault, outcome = .error (.raised fault) →
          fault = .durationTooLong ∨ ∃ event ∈ events, Tells handle fault event := by
  have hasks : Always (AsksOnly [.isDone handle, .status handle]) []
      (t.isConfirmed (some handle) : Action τ W Bool) := isConfirmed_asksOnly
  refine Ends.mono (Ends.and (hasks setting session) (isConfirmed_blames setting session)) ?_
  rintro events outcome after ⟨⟨hobeys, -⟩, hblames⟩
  exact ⟨asks_subset hobeys, hblames⟩

/-! ## A delete that is asked for and followed -/

/-- Asks for a delete and follows it to its verdict. -/
def Teardown.deleteConfirmed (t : Teardown τ) (kind : Kind) (group : String)
    (name : Option String) : Action τ W Bool := do
  t.isConfirmed (← Access.delete kind group name)

/-- Whom a delete that raises can blame: the reply to the request, a handle, or a duration that is
too long. -/
def DeleteRaised (kind : Kind) (group : String) (name : Option String) (events : List (Event τ))
    (fault : Fault) : Prop :=
  DeleteRefused kind group name events (.raised fault) ∨ fault = .durationTooLong ∨
    ∃ handle, ∃ event ∈ events, Tells handle fault event

variable {kind : Kind} {group : String} {name : Option String}

omit [Timescale τ] in
theorem DeleteRaised.after {events : List (Event τ)} {fault : Fault}
    (h : DeleteRaised kind group name events fault) (before : List (Event τ)) :
    DeleteRaised kind group name (before ++ events) fault := by
  obtain hrefused | hlong | ⟨handle, event, hevent, htells⟩ := h
  · exact .inl (hrefused.after before)
  · exact .inr (.inl hlong)
  · exact .inr (.inr ⟨handle, event, List.mem_append_right _ hevent, htells⟩)

omit [Timescale τ] in
theorem DeleteRaised.append {events : List (Event τ)} {fault : Fault}
    (h : DeleteRaised kind group name events fault) (more : List (Event τ)) :
    DeleteRaised kind group name (events ++ more) fault := by
  obtain ⟨original, fault, ⟨event, hevent, hrefuses⟩, hreport⟩ | hlong |
    ⟨handle, event, hevent, htells⟩ := h
  · exact .inl ⟨original, fault, ⟨event, List.mem_append_left _ hevent, hrefuses⟩, hreport⟩
  · exact .inr (.inl hlong)
  · exact .inr (.inr ⟨handle, event, List.mem_append_left _ hevent, htells⟩)

theorem delete_callsAndRefusal :
    Ends setting session (Access.delete kind group name) fun events outcome _ =>
      calls events = [setting.provider.deleteRequest kind group name] ∧
        ∀ reason, outcome = .error reason → DeleteRefused kind group name events reason := by
  refine Ends.mono (Ends.and delete_calls delete_ends) ?_
  rintro events outcome after ⟨hcalls, -, hrefused⟩
  exact ⟨hcalls, hrefused⟩

theorem isConfirmed_blamesSome (handle : Option Handle) :
    Ends setting session (t.isConfirmed handle) fun events outcome _ =>
      calls events = [] ∧ ∀ fault, outcome = .error (.raised fault) →
        fault = .durationTooLong ∨ ∃ handle, ∃ event ∈ events, Tells handle fault event := by
  cases handle with
  | none => exact Ends.pure ⟨rfl, nofun⟩
  | some handle =>
    refine Ends.mono (Ends.and isConfirmed_calls isConfirmed_ends) ?_
    rintro events outcome after ⟨hcalls, -, hblames⟩
    exact ⟨hcalls, fun fault hfault => (hblames fault hfault).imp_right fun h => ⟨handle, h⟩⟩

theorem deleteConfirmed_ends :
    Ends setting session (t.deleteConfirmed kind group name) fun events outcome _ =>
      calls events = [setting.provider.deleteRequest kind group name] ∧
        ∀ fault, outcome = .error (.raised fault) → DeleteRaised kind group name events fault := by
  refine Ends.bind delete_callsAndRefusal ?_ ?_
  · rintro events handle asked ⟨hcalls, -⟩
    refine Ends.mono (isConfirmed_blamesSome handle) ?_
    rintro more outcome after ⟨hnone, hblames⟩
    refine ⟨by rw [calls_append, hcalls, hnone]; rfl, fun fault hfault => .inr ?_⟩
    refine (hblames fault hfault).imp_right ?_
    rintro ⟨handle, event, hevent, htells⟩
    exact ⟨handle, event, List.mem_append_right _ hevent, htells⟩
  · rintro events reason after ⟨hcalls, hrefused⟩
    refine ⟨hcalls, ?_⟩
    rintro fault ⟨⟩
    exact .inl (hrefused _ rfl)

end Reclaim
