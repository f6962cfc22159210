import Reclaim.Proofs.Unconfirmed.Rules

/-!
# Requests and trackers

A request gives nothing up. The tracker of a delete gives it up exactly if its verdict is that the
delete is not confirmed, with its notice as the last that it does.
-/

namespace Reclaim

open Reclaim.Action

variable {τ W α : Type} {rule : Rule τ} {past : List (Event τ)}

/-! ## Requests -/

/-- Whatever is asked and remarked on is allowed, and so is waiting. -/
structure Rule.AllowsAsking (rule : Rule τ) : Prop extends rule.AllowsWaiting where
  asked : ∀ past request reply, rule past (.asked request reply)
  noted : ∀ past channel text, rule past (.noted channel text)

theorem quiet_allowsAsking : (Quiet : Rule τ).AllowsAsking where
  polled _ := id
  slept _ _ := id
  asked _ _ _ := id
  noted _ _ _ := id

variable [Timescale τ]

namespace Access

theorem get_shown {kind : Kind} {group name : String}
    (h : ∀ reply, rule past (.asked (.get kind group name) reply)) :
    Keeps rule past (Access.get kind group name : Action τ W (Option kind.View))
      fun events found => ∀ view ∈ found, ∃ object,
        .asked (.get kind group name) (.ok (some object)) ∈ events ∧
          kind.view (some object) = .ok view := by
  unfold Access.get
  refine .bind (.ask h) fun events reply hevents => ?_
  cases reply with
  | error fault => exact orGone_keeps (.pure nofun)
  | ok object =>
    refine .bind .ofExcept ?_
    rintro more view ⟨hmore, hview⟩
    refine .pure ?_
    rintro _ ⟨⟩
    cases object with
    | none => exact absurd hview (kind.view_none view)
    | some object => exact ⟨object, by simp [hevents], hview⟩

theorem list_shown (h : rule.AllowsAsking) {kind : Kind} {group : String} :
    Keeps rule past (Access.list kind group : Action τ W (List kind.View))
      fun events views => ∀ view ∈ views, ∃ listing object,
        .asked (.list kind group) listing ∈ events ∧ some object ∈ listing.items ∧
          kind.view (some object) = .ok view := by
  unfold Access.list
  refine .bind (.ask (h.asked _ _)) fun events listing hevents => ?_
  split
  next views hread =>
    refine .pure fun view hview => ?_
    obtain ⟨-, hviews⟩ := forall₂_of_readListing hread
    obtain ⟨item, hitem, hof⟩ := View.exists_of_mem hviews hview
    cases item with
    | none => exact absurd hof (kind.view_none view)
    | some object => exact ⟨listing, object, by simp [hevents], hitem, hof⟩
  next => exact orGone_keeps (.pure nofun)

omit [Timescale τ] in
theorem gone_keeps (h : ∀ past channel text, rule past (.noted channel text)) {fault : Fault}
    {subject : Subject} {text : String} {post : List (Event τ) → Option Handle → Prop}
    (hpost : ∀ events, post events none) :
    Keeps rule past (Access.orGone fault "delete" subject do
      record (.noted .debug text)
      return none : Action τ W (Option Handle)) post :=
  orGone_keeps (.bind (.record (h _ _ _)) fun _ _ _ => .pure (hpost _))

/-- The handle with which a delete is answered is that of a delete under way. -/
theorem delete_opens {kind : Kind} {group : String} {name : Option String}
    (hdelete : ∀ past reply, rule past (.asked (.delete kind group name) reply))
    (hbegin : ∀ past reply, rule past (.asked (.beginDelete kind group name) reply))
    (hnoted : ∀ past channel text, rule past (.noted channel text)) :
    Keeps rule past (Access.delete kind group name : Action τ W (Option Handle))
      fun events found => ∀ handle ∈ found,
        (.resource kind group name, handle) ∈ openings events := by
  unfold Access.delete
  refine .bind .setting fun events setting hevents => ?_
  split
  · refine .bind (.ask (hdelete _)) fun more reply _ => ?_
    cases reply with
    | ok _ => exact .pure nofun
    | error fault => exact gone_keeps hnoted (by simp)
  · refine .bind (.ask (hbegin _)) fun more reply hmore => ?_
    cases reply with
    | ok found =>
      refine .pure ?_
      rintro handle ⟨⟩
      rw [hmore]
      simp [openings, Event.opens?]
    | error fault => exact gone_keeps hnoted (by simp)

theorem deleteGroup_opens (h : rule.AllowsAsking) {group : String} :
    Keeps rule past (Access.deleteGroup group : Action τ W (Option Handle))
      fun events found => ∀ handle ∈ found, (.group group, handle) ∈ openings events := by
  unfold Access.deleteGroup
  refine .bind (.ask (h.asked _ _)) fun events reply hevents => ?_
  cases reply with
  | ok found =>
    refine .pure ?_
    rintro handle ⟨⟩
    rw [hevents]
    simp [openings, Event.opens?]
  | error fault => exact gone_keeps h.noted (by simp)

theorem members_always {group : String}
    (h : ∀ reply, rule past (.asked (.members group) reply)) :
    Always rule past (Access.members group : Action τ W (Option (List View.Member))) := by
  unfold Access.members
  refine .bind (.ask h) fun events listing _ => ?_
  split
  · exact .pure trivial
  · exact orGone_keeps (.pure trivial)

end Access

/-! ## The trackers of listings and disks -/

variable {t : Teardown τ}

omit [Timescale τ] in
theorem checked_quiet {id : ResourceId} {check : Action τ W Bool} (h : Always Quiet past check) :
    Always Quiet past (Teardown.checked id check) :=
  checked_keeps h fun _ _ => by
    simp [Quiet, Event.IsNotice, Deletion.noticeWords]

theorem hasLeft_quiet {id : ResourceId} : Always Quiet past (t.hasLeft id : Action τ W Bool) := by
  refine checked_quiet ?_
  refine .bind (Patience.await_keeps quiet_allowsAsking.toAllowsWaiting ?_) fun _ left _ => ?_
  · exact fun _ => .bind (Access.members_always (quiet_allowsAsking.asked _ _))
      fun _ _ _ => .pure trivial
  · split
    · exact .pure trivial
    · refine .bind (.log ?_) fun _ _ _ => .pure trivial
      simp [Quiet, Event.IsNotice, Deletion.noticeWords]

/-! ## The tracker of a delete -/

variable {handle : Handle} {setting : Setting τ W} {session : Session τ W}

/-- What a tracker does until its wait is over: it notices nothing, raises only if a handle does,
and is told last that the delete still goes on if it waited in vain. -/
structure Waits (handle : Handle) (events : List (Event τ)) (outcome : Except Stop Bool) :
    Prop where
  quiet : ∀ event ∈ events, ¬ event.IsNotice
  calm : Sound events → ∀ fault, outcome ≠ .error (.raised fault)
  told : outcome = .ok false → ∃ before, events = before ++ [.asked (.isDone handle) (.ok false)]

omit [Timescale τ] in
theorem Waits.after {events more : List (Event τ)} {outcome : Except Stop Bool}
    (h : Waits handle more outcome) (hquiet : ∀ event ∈ events, ¬ event.IsNotice) :
    Waits handle (events ++ more) outcome where
  quiet event hevent := (List.mem_append.mp hevent).elim (hquiet event) (h.quiet event)
  calm hsound := h.calm (sound_append.mp hsound).2
  told hvain := by
    obtain ⟨before, rfl⟩ := h.told hvain
    exact ⟨events ++ before, by simp⟩

theorem isDone_ends :
    Ends setting session (Deletion.isDone handle) fun events outcome _ =>
      ∃ reply, events = [.asked (.isDone handle) reply] ∧ outcome = reply.mapError .raised := by
  unfold Deletion.isDone
  have hask : Ends setting session (ask (.isDone handle)) fun events outcome _ =>
      ∃ reply, outcome = .ok reply ∧ events = [.asked (.isDone handle) reply] :=
    Ends.ask fun reply _ _ _ => ⟨reply, rfl, rfl⟩
  refine Ends.bind hask ?_ ?_
  · rintro events reply after ⟨_, ⟨⟩, rfl⟩
    cases reply with
    | ok done => exact Ends.pure ⟨.ok done, rfl, rfl⟩
    | error fault => exact Ends.stop ⟨.error fault, rfl, rfl⟩
  · rintro events reason after ⟨_, ⟨⟩, -⟩

theorem status_ends :
    Ends setting session (Deletion.status handle) fun events outcome _ =>
      ∃ reply, (setting.provider.answer (.status handle) session.world).1 = reply ∧
        events = [.asked (.status handle) reply] ∧
          outcome = (reply.map (·.getD "")).mapError .raised := by
  refine Ends.resume (run_ask ..) (Array.toList_push ..) ?_
  cases (setting.provider.answer (.status handle) session.world).1 with
  | ok status => exact Ends.pure ⟨_, rfl, rfl, rfl⟩
  | error fault => exact Ends.stop ⟨_, rfl, rfl, rfl⟩

theorem poll_waits {deadline period : τ} {limit : Nat} (hperiod : Timescale.fits period = true) :
    Ends setting session (Patience.poll deadline period (Deletion.isDone handle) limit)
      fun events outcome _ => Waits handle events outcome := by
  induction limit generalizing session with
  | zero => exact Ends.stop ⟨by simp, by simp, by simp⟩
  | succ limit ih =>
    rw [Patience.poll]
    refine Ends.resume (run_record _ _ _) (Array.toList_push ..) ?_
    refine Ends.bind isDone_ends ?_ ?_
    · rintro events done after ⟨reply, rfl, hreply⟩
      cases reply with
      | error fault => cases hreply
      | ok done =>
        obtain rfl := Except.ok.inj hreply
        cases done with
        | true => exact Ends.pure ⟨by simp [Event.IsNotice], by simp, by simp⟩
        | false =>
          refine Ends.ofNow ?_
          split
          · exact Ends.pure ⟨by simp [Event.IsNotice], by simp, fun _ => ⟨[.polled], by simp⟩⟩
          · refine Ends.resume (run_sleep _ _ hperiod) (Array.toList_push ..) ?_
            refine Ends.mono ih fun more outcome final hwaits => ?_
            exact ((hwaits.after (by simp [Event.IsNotice])).after
              (by simp [Event.IsNotice])).after (by simp [Event.IsNotice])
    · rintro events reason after ⟨reply, rfl, hreply⟩
      cases reply with
      | ok done => cases hreply
      | error fault =>
        refine ⟨by simp [Event.IsNotice], fun hsound => ?_, by simp⟩
        obtain ⟨done, hdone⟩ := hsound (.asked (.isDone handle) (.error fault)) (by simp)
        cases hdone

theorem await_waits {p : Patience τ} (hp : p.Fits) :
    Ends setting session (p.await (Deletion.isDone handle)) fun events outcome _ =>
      Waits handle events outcome := by
  unfold Patience.await
  refine Ends.ofNow ?_
  rw [counted_of_fits hp.timeout, pure_bind]
  exact Ends.ofSetting (poll_waits hp.period)

/-- How the following of a delete ends: without a fault unless a handle raises, and with a notice,
as its last event, exactly if the delete is not confirmed. -/
structure Tracked (handle : Handle) (events : List (Event τ)) (outcome : Except Stop Bool) :
    Prop where
  calm : Sound events → ∀ fault, outcome ≠ .error (.raised fault)
  quiet : outcome ≠ .ok false → ∀ event ∈ events, ¬ event.IsNotice
  gaveUp : outcome = .ok false → ∃ before told notice, events = before ++ [told, notice] ∧
    GivesUp handle told notice ∧ ∀ event ∈ before ++ [told], ¬ event.IsNotice

theorem isConfirmed_tracked (hfits : t.deletion.Fits) :
    Ends setting session (t.isConfirmed (some handle)) fun events outcome _ =>
      Tracked handle events outcome := by
  unfold Teardown.isConfirmed Deletion.isConfirmed
  refine Ends.bind (await_waits hfits) ?_ ?_
  · rintro events done after hwaits
    cases done with
    | true =>
      simp only [if_true]
      refine Ends.bind status_ends ?_ ?_
      · rintro more text final ⟨reply, -, rfl, hreply⟩
        cases reply with
        | error fault => cases hreply
        | ok status =>
          have hquiet : ∀ event ∈ events ++ [.asked (.status handle) (.ok status)],
              ¬ event.IsNotice := by
            intro event hevent
            rcases List.mem_append.mp hevent with hevent | hevent
            · exact hwaits.quiet event hevent
            · rw [List.mem_singleton.mp hevent]
              exact id
          split
          · refine Ends.resume (run_log _ _ _ _ _) (Array.toList_push ..) (Ends.pure ?_)
            exact ⟨by simp, by simp, fun _ => ⟨events, _, _, rfl, .failed rfl, hquiet⟩⟩
          · refine Ends.pure ⟨by simp, fun _ => ?_, by simp⟩
            simpa using hquiet
      · rintro more reason final ⟨reply, -, rfl, hreply⟩
        cases reply with
        | ok status => cases hreply
        | error fault =>
          refine ⟨fun hsound => ?_, fun _ event hevent => ?_, nofun⟩
          · obtain ⟨status, hstatus⟩ := hsound (.asked (.status handle) (.error fault)) (by simp)
            cases hstatus
          · rcases List.mem_append.mp hevent with hevent | hevent
            · exact hwaits.quiet event hevent
            · rw [List.mem_singleton.mp hevent]
              exact id
    | false =>
      simp only [Bool.false_eq_true, if_false]
      obtain ⟨before, rfl⟩ := hwaits.told rfl
      refine Ends.resume (run_log _ _ _ _ _) (Array.toList_push ..) (Ends.pure ?_)
      exact ⟨by simp, by simp, fun _ => ⟨before, _, _, List.append_assoc _ _ _, .timedOut rfl,
        hwaits.quiet⟩⟩
  · rintro events reason after hwaits
    exact ⟨fun hsound fault hfault => hwaits.calm hsound fault (by rw [Except.error.inj hfault]),
      fun _ => hwaits.quiet, nofun⟩

end Reclaim
