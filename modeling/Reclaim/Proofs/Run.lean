import Reclaim.Session.Lemmas

/-!
# How runs end

A run ends with an outcome, leaves a session, and adds events to the trace. What is known of the
parts of an action gives what is known of the whole, one rule for each way to build an action.
-/

namespace Reclaim.Action

variable {τ W α β : Type}

/-! ## The parts of a result -/

def left : EStateM.Result Stop (Session τ W) α → Session τ W
  | .ok _ session => session
  | .error _ session => session

def outcome : EStateM.Result Stop (Session τ W) α → Except Stop α
  | .ok a _ => .ok a
  | .error stop _ => .error stop

/-- The run adds events, and with its outcome and the session it leaves they satisfy `post`. -/
def Ends (setting : Setting τ W) (session : Session τ W) (action : Action τ W α)
    (post : List (Event τ) → Except Stop α → Session τ W → Prop) : Prop :=
  ∃ events,
    (left (action.run setting session)).trace.toList = session.trace.toList ++ events ∧
      post events (outcome (action.run setting session)) (left (action.run setting session))

def Returns (setting : Setting τ W) (session : Session τ W) (action : Action τ W α)
    (post : List (Event τ) → α → Session τ W → Prop) : Prop :=
  Ends setting session action fun events outcome after =>
    ∃ a, outcome = .ok a ∧ post events a after

variable {setting : Setting τ W} {session : Session τ W}
variable {action : Action τ W α} {next : α → Action τ W β} {handle : Fault → Action τ W α}

/-! ## Inversion -/

theorem run_bind_eq_ok {b : β} {final : Session τ W} :
    (action >>= next).run setting session = .ok b final ↔
      ∃ a after, action.run setting session = .ok a after ∧
        (next a).run setting after = .ok b final := by
  rw [run_bind]
  cases action.run setting session <;> simp [and_assoc]

theorem run_bind_eq_error {reason : Stop} {final : Session τ W} :
    (action >>= next).run setting session = .error reason final ↔
      action.run setting session = .error reason final ∨
        ∃ a after, action.run setting session = .ok a after ∧
          (next a).run setting after = .error reason final := by
  rw [run_bind]
  cases action.run setting session <;> simp [and_assoc]

theorem run_ofExcept_eq_ok {result : Except Fault α} {a : α} {final : Session τ W} :
    (ofExcept result : Action τ W α).run setting session = .ok a final ↔
      result = .ok a ∧ session = final := by
  cases result <;> simp

theorem run_ofExcept_eq_error {result : Except Fault α} {reason : Stop} {final : Session τ W} :
    (ofExcept result : Action τ W α).run setting session = .error reason final ↔
      (∃ fault, result = .error fault ∧ reason = .raised fault) ∧ session = final := by
  cases result <;> simp [eq_comm]

/-! ## Any outcome -/

theorem Ends.mono {post post' : List (Event τ) → Except Stop α → Session τ W → Prop}
    (h : Ends setting session action post)
    (himp : ∀ events outcome after, post events outcome after → post' events outcome after) :
    Ends setting session action post' := by
  obtain ⟨events, htrace, hpost⟩ := h
  exact ⟨events, htrace, himp _ _ _ hpost⟩

theorem Ends.of_ok {post : List (Event τ) → Except Stop α → Session τ W → Prop} {a : α}
    {after : Session τ W} (h : Ends setting session action post)
    (hrun : action.run setting session = .ok a after) :
    ∃ events, after.trace.toList = session.trace.toList ++ events ∧ post events (.ok a) after := by
  rw [Ends, hrun] at h
  exact h

theorem Ends.of_error {post : List (Event τ) → Except Stop α → Session τ W → Prop}
    {reason : Stop} {after : Session τ W} (h : Ends setting session action post)
    (hrun : action.run setting session = .error reason after) :
    ∃ events, after.trace.toList = session.trace.toList ++ events ∧
      post events (.error reason) after := by
  rw [Ends, hrun] at h
  exact h

theorem Ends.ran {post : List (Event τ) → Except Stop α → Session τ W → Prop}
    (h : Ends setting session action post) :
    Ends setting session action fun events outcome after =>
      post events outcome after ∧
        ∀ a, outcome = .ok a → action.run setting session = .ok a after := by
  obtain ⟨events, htrace, hpost⟩ := h
  refine ⟨events, htrace, hpost, fun a ha => ?_⟩
  cases hrun : action.run setting session with
  | ok b after =>
    rw [hrun] at ha
    cases ha
    rfl
  | error reason after =>
    rw [hrun] at ha
    cases ha

theorem Ends.of_run_eq {other : Action τ W α}
    {post : List (Event τ) → Except Stop α → Session τ W → Prop}
    (h : Ends setting session other post)
    (hrun : action.run setting session = other.run setting session) :
    Ends setting session action post := by
  rw [Ends, hrun]
  exact h

theorem Ends.and {post post' : List (Event τ) → Except Stop α → Session τ W → Prop}
    (h : Ends setting session action post) (h' : Ends setting session action post') :
    Ends setting session action fun events outcome after =>
      post events outcome after ∧ post' events outcome after := by
  obtain ⟨events, htrace, hpost⟩ := h
  obtain ⟨events', htrace', hpost'⟩ := h'
  obtain rfl : events = events' := List.append_cancel_left (htrace.symm.trans htrace')
  exact ⟨events, htrace, hpost, hpost'⟩

theorem Ends.pure {post : List (Event τ) → Except Stop α → Session τ W → Prop} {a : α}
    (h : post [] (.ok a) session) : Ends setting session (pure a) post :=
  ⟨[], (List.append_nil _).symm, h⟩

theorem Ends.stop {post : List (Event τ) → Except Stop α → Session τ W → Prop} {reason : Stop}
    (h : post [] (.error reason) session) : Ends setting session (stop reason) post :=
  ⟨[], (List.append_nil _).symm, h⟩

theorem Ends.bind {mid : List (Event τ) → Except Stop α → Session τ W → Prop}
    {post : List (Event τ) → Except Stop β → Session τ W → Prop}
    (h : Ends setting session action mid)
    (hnext : ∀ events a after, mid events (.ok a) after →
      Ends setting after (next a) fun more outcome final => post (events ++ more) outcome final)
    (hstop : ∀ events reason after, mid events (.error reason) after →
      post events (.error reason) after) :
    Ends setting session (action >>= next) post := by
  obtain ⟨events, htrace, hmid⟩ := h
  rw [Ends, run_bind]
  cases hrun : action.run setting session with
  | ok a after =>
    rw [hrun] at htrace hmid
    obtain ⟨more, hmore, hpost⟩ := hnext events a after hmid
    refine ⟨events ++ more, ?_, hpost⟩
    rw [hmore, show after.trace.toList = _ from htrace, List.append_assoc]
  | error reason after =>
    rw [hrun] at htrace hmid
    exact ⟨events, htrace, hstop events reason after hmid⟩

theorem Ends.rescue {mid post : List (Event τ) → Except Stop α → Session τ W → Prop}
    (h : Ends setting session action mid)
    (hok : ∀ events a after, mid events (.ok a) after → post events (.ok a) after)
    (hraised : ∀ events fault after, mid events (.error (.raised fault)) after →
      Ends setting after (handle fault) fun more outcome final =>
        post (events ++ more) outcome final)
    (hunfinished : ∀ events after, mid events (.error .unfinished) after →
      post events (.error .unfinished) after) :
    Ends setting session (Action.rescue action handle) post := by
  obtain ⟨events, htrace, hmid⟩ := h
  rw [Ends, run_rescue]
  cases hrun : action.run setting session with
  | ok a after =>
    rw [hrun] at htrace hmid
    exact ⟨events, htrace, hok events a after hmid⟩
  | error reason after =>
    rw [hrun] at htrace hmid
    cases reason with
    | raised fault =>
      obtain ⟨more, hmore, hpost⟩ := hraised events fault after hmid
      refine ⟨events ++ more, ?_, hpost⟩
      rw [hmore, show after.trace.toList = _ from htrace, List.append_assoc]
    | unfinished => exact ⟨events, htrace, hunfinished events after hmid⟩

/-- The run of a bind whose first part is known. -/
theorem Ends.resume {post : List (Event τ) → Except Stop β → Session τ W → Prop}
    {events : List (Event τ)} {a : α} {between : Session τ W}
    (hrun : action.run setting session = .ok a between)
    (htrace : between.trace.toList = session.trace.toList ++ events)
    (h : Ends setting between (next a) fun more outcome after =>
      post (events ++ more) outcome after) :
    Ends setting session (action >>= next) post := by
  obtain ⟨more, hmore, hpost⟩ := h
  rw [Ends, run_bind, hrun]
  exact ⟨events ++ more, by rw [hmore, htrace, List.append_assoc], hpost⟩

theorem Ends.halt {post : List (Event τ) → Except Stop β → Session τ W → Prop}
    {events : List (Event τ)} {reason : Stop} {after : Session τ W}
    (hrun : action.run setting session = .error reason after)
    (htrace : after.trace.toList = session.trace.toList ++ events)
    (h : post events (.error reason) after) : Ends setting session (action >>= next) post := by
  rw [Ends, run_bind, hrun]
  exact ⟨events, htrace, h⟩

theorem Ends.handled {post : List (Event τ) → Except Stop α → Session τ W → Prop}
    {events : List (Event τ)} {fault : Fault} {between : Session τ W}
    (hrun : action.run setting session = .error (.raised fault) between)
    (htrace : between.trace.toList = session.trace.toList ++ events)
    (h : Ends setting between (handle fault) fun more outcome after =>
      post (events ++ more) outcome after) :
    Ends setting session (Action.rescue action handle) post := by
  obtain ⟨more, hmore, hpost⟩ := h
  rw [Ends, run_rescue, hrun]
  exact ⟨events ++ more, by rw [hmore, htrace, List.append_assoc], hpost⟩

theorem Ends.unhandled {post : List (Event τ) → Except Stop α → Session τ W → Prop}
    (hraised : ∀ fault after, action.run setting session ≠ .error (.raised fault) after)
    (h : Ends setting session action post) :
    Ends setting session (Action.rescue action handle) post := by
  refine Ends.of_run_eq h ?_
  rw [run_rescue]
  cases hrun : action.run setting session with
  | ok a after => rfl
  | error reason after =>
    cases reason with
    | raised fault => exact absurd hrun (hraised fault after)
    | unfinished => rfl

/-! ## Single steps -/

theorem Ends.ofSetting {next : Setting τ W → Action τ W α}
    {post : List (Event τ) → Except Stop α → Session τ W → Prop}
    (h : Ends setting session (next setting) post) :
    Ends setting session (Action.setting >>= next) post := by
  rw [Ends, run_bind, run_setting]
  exact h

theorem Ends.ofNow {next : τ → Action τ W α}
    {post : List (Event τ) → Except Stop α → Session τ W → Prop}
    (h : Ends setting session (next session.clock) post) :
    Ends setting session (now >>= next) post := by
  rw [Ends, run_bind, run_now]
  exact h

theorem Ends.record {post : List (Event τ) → Except Stop Unit → Session τ W → Prop}
    {event : Event τ}
    (h : post [event] (.ok ()) { session with trace := session.trace.push event }) :
    Ends setting session (record event) post := by
  rw [Ends, run_record]
  exact ⟨[event], Array.toList_push .., h⟩

theorem Ends.counted [Timescale τ] {post : List (Event τ) → Except Stop τ → Session τ W → Prop}
    {duration : τ} (hok : post [] (.ok duration) session)
    (hlong : post [] (.error (.raised .durationTooLong)) session) :
    Ends setting session (counted duration) post := by
  unfold Action.counted
  split
  · exact .pure hok
  · exact .stop hlong

theorem Ends.letPass [Timescale τ] {post : List (Event τ) → Except Stop Unit → Session τ W → Prop}
    {duration : τ}
    (hok : post [] (.ok ()) { session with clock := Timescale.plus session.clock duration })
    (hlong : post [] (.error (.raised .durationTooLong)) session) :
    Ends setting session (letPass duration) post := by
  by_cases hfits : Timescale.fits duration = true
  · rw [Ends, run_letPass _ _ hfits]
    exact ⟨[], (List.append_nil _).symm, hok⟩
  · rw [Action.letPass, Action.counted, if_neg hfits]
    exact ⟨[], (List.append_nil _).symm, hlong⟩

theorem Ends.ask [Timescale τ] {request : Request}
    {post : List (Event τ) → Except Stop request.Reply → Session τ W → Prop}
    (h : ∀ reply elapsed world,
      setting.provider.answer request session.world = (reply, elapsed, world) →
        post [.asked request reply] (.ok reply) {
          world
          clock := Timescale.plus session.clock elapsed
          trace := session.trace.push (.asked request reply) }) :
    Ends setting session (ask request) post := by
  rw [Ends, run_ask]
  exact ⟨[_], Array.toList_push .., h _ _ _ rfl⟩

/-! ## A value as the outcome -/

theorem Returns.mono {post post' : List (Event τ) → α → Session τ W → Prop}
    (h : Returns setting session action post)
    (himp : ∀ events a after, post events a after → post' events a after) :
    Returns setting session action post' :=
  Ends.mono h fun _ _ _ ⟨a, ha, hpost⟩ => ⟨a, ha, himp _ a _ hpost⟩

theorem Returns.and {post : List (Event τ) → α → Session τ W → Prop} {also : List (Event τ) → Prop}
    (h : Returns setting session action post)
    (halso : Ends setting session action fun events _ _ => also events) :
    Returns setting session action fun events a after => post events a after ∧ also events := by
  refine Ends.mono (Ends.and h halso) ?_
  rintro events outcome after ⟨⟨a, ha, hpost⟩, hevents⟩
  exact ⟨a, ha, hpost, hevents⟩

theorem Returns.run_eq {post : List (Event τ) → α → Session τ W → Prop}
    (h : Returns setting session action post) :
    ∃ events a after, action.run setting session = .ok a after ∧
      after.trace.toList = session.trace.toList ++ events ∧ post events a after := by
  obtain ⟨events, htrace, a, ha, hpost⟩ := h
  cases hrun : action.run setting session with
  | ok b after =>
    rw [hrun] at htrace ha hpost
    obtain rfl : b = a := by injection ha
    exact ⟨events, b, after, rfl, htrace, hpost⟩
  | error reason after =>
    rw [hrun] at ha
    cases ha

theorem Returns.pure {post : List (Event τ) → α → Session τ W → Prop} {a : α}
    (h : post [] a session) : Returns setting session (pure a) post :=
  Ends.pure ⟨a, rfl, h⟩

theorem Returns.before {mid : List (Event τ) → α → Session τ W → Prop}
    {post : List (Event τ) → Except Stop β → Session τ W → Prop}
    (h : Returns setting session action mid)
    (hnext : ∀ events a after, mid events a after →
      Ends setting after (next a) fun more outcome final => post (events ++ more) outcome final) :
    Ends setting session (action >>= next) post := by
  refine Ends.bind h ?_ ?_
  · rintro events a after ⟨_, ⟨⟩, hmid⟩
    exact hnext events a after hmid
  · rintro events reason after ⟨_, ⟨⟩, -⟩

theorem Returns.bind {mid : List (Event τ) → α → Session τ W → Prop}
    {post : List (Event τ) → β → Session τ W → Prop} (h : Returns setting session action mid)
    (hnext : ∀ events a after, mid events a after →
      Returns setting after (next a) fun more b final => post (events ++ more) b final) :
    Returns setting session (action >>= next) post :=
  h.before hnext

theorem Returns.rescue {post : List (Event τ) → α → Session τ W → Prop}
    (h : Returns setting session action post) :
    Returns setting session (rescue action handle) post := by
  refine Ends.rescue h (fun _ _ _ hpost => hpost) ?_ ?_
  · rintro events fault after ⟨_, ⟨⟩, -⟩
  · rintro events after ⟨_, ⟨⟩, -⟩

theorem Returns.record {post : List (Event τ) → Unit → Session τ W → Prop} {event : Event τ}
    (h : post [event] () { session with trace := session.trace.push event }) :
    Returns setting session (record event) post :=
  Ends.record ⟨(), rfl, h⟩

/-! ## What cannot raise -/

def NeverRaises (action : Action τ W α) : Prop :=
  ∀ setting session fault after, action.run setting session ≠ .error (.raised fault) after

theorem NeverRaises.pure {a : α} : NeverRaises (pure a : Action τ W α) := nofun

theorem NeverRaises.record {event : Event τ} : NeverRaises (record event : Action τ W Unit) := nofun

theorem NeverRaises.bind (h : NeverRaises action) (hnext : ∀ a, NeverRaises (next a)) :
    NeverRaises (action >>= next) := by
  intro setting session fault after hrun
  rcases run_bind_eq_error.mp hrun with hrun | ⟨a, between, -, hrun⟩
  · exact h _ _ _ _ hrun
  · exact hnext a _ _ _ _ hrun

theorem NeverRaises.rescue (h : ∀ fault, NeverRaises (handle fault)) :
    NeverRaises (rescue action handle) := by
  intro setting session fault after hrun
  rw [run_rescue] at hrun
  cases hact : action.run setting session with
  | ok a between =>
    rw [hact] at hrun
    cases hrun
  | error reason between =>
    rw [hact] at hrun
    cases reason with
    | raised first => exact h first _ _ _ _ hrun
    | unfinished => cases hrun

end Reclaim.Action
