import Reclaim.Proofs.Run
import Reclaim.Tracker.Escalation
import Reclaim.Tracker.Patience
import Reclaim.Teardown

/-!
# Rules that every run keeps

A rule says which event may follow on which past. An action keeps a rule if no run of it, from any
session and with any provider, adds an event that the rule forbids at its place.
-/

namespace Reclaim

variable {τ W α β : Type}

/-- Which events may come after a past. -/
abbrev Rule (τ : Type) := List (Event τ) → Event τ → Prop

/-- Each of the events may come where it stands. -/
def Obeys (rule : Rule τ) : List (Event τ) → List (Event τ) → Prop
  | _, [] => True
  | past, event :: rest => rule past event ∧ Obeys rule (past ++ [event]) rest

theorem obeys_append {rule : Rule τ} {past events more : List (Event τ)} :
    Obeys rule past (events ++ more) ↔
      Obeys rule past events ∧ Obeys rule (past ++ events) more := by
  induction events generalizing past with
  | nil => simp [Obeys]
  | cons event rest ih => simp [Obeys, ih, and_assoc]

theorem Obeys.at {rule : Rule τ} {past before after : List (Event τ)} {event : Event τ}
    (h : Obeys rule past (before ++ event :: after)) : rule (past ++ before) event :=
  (obeys_append.mp h).2.1

theorem Obeys.mem {rule : Rule τ} {past events : List (Event τ)} (h : Obeys rule past events)
    {event : Event τ} (hmem : event ∈ events) : ∃ before, rule (past ++ before) event := by
  obtain ⟨before, after, rfl⟩ := List.append_of_mem hmem
  exact ⟨before, h.at⟩

theorem Obeys.mono {rule rule' : Rule τ} (himp : ∀ past event, rule past event → rule' past event)
    {past events : List (Event τ)} (h : Obeys rule past events) : Obeys rule' past events := by
  induction events generalizing past with
  | nil => trivial
  | cons event rest ih => exact ⟨himp _ _ h.1, ih h.2⟩

namespace Action

/-- Run after that past, the action adds only what the rule allows. If it gives a value, `post`
holds of all that happened and of the value. -/
def Keeps (rule : Rule τ) (past : List (Event τ)) (action : Action τ W α)
    (post : List (Event τ) → α → Prop) : Prop :=
  ∀ setting session, Ends setting session action fun events outcome _ =>
    Obeys rule past events ∧ ∀ a, outcome = .ok a → post (past ++ events) a

abbrev Always (rule : Rule τ) (past : List (Event τ)) (action : Action τ W α) : Prop :=
  Keeps rule past action fun _ _ => True

variable {rule : Rule τ} {past : List (Event τ)}
variable {action : Action τ W α} {next : α → Action τ W β} {handle : Fault → Action τ W α}

theorem Keeps.mono {rule' : Rule τ} {post post' : List (Event τ) → α → Prop}
    (h : Keeps rule past action post) (hrule : ∀ past event, rule past event → rule' past event)
    (hpost : ∀ events a, post (past ++ events) a → post' (past ++ events) a) :
    Keeps rule' past action post' := by
  intro setting session
  refine Ends.mono (h setting session) ?_
  rintro events outcome after ⟨hobeys, hvalue⟩
  exact ⟨hobeys.mono hrule, fun a ha => hpost events a (hvalue a ha)⟩

theorem Keeps.always {post : List (Event τ) → α → Prop} (h : Keeps rule past action post) :
    Always rule past action :=
  h.mono (fun _ _ h => h) fun _ _ _ => trivial

/-! ## Ways to build an action -/

theorem Keeps.pure {post : List (Event τ) → α → Prop} {a : α} (h : post past a) :
    Keeps rule past (pure a : Action τ W α) post := by
  intro setting session
  refine Ends.pure ⟨trivial, ?_⟩
  rintro _ ⟨⟩
  simpa using h

theorem Keeps.stop {post : List (Event τ) → α → Prop} {reason : Stop} :
    Keeps rule past (stop reason : Action τ W α) post := by
  intro setting session
  refine Ends.stop ⟨trivial, ?_⟩
  rintro _ ⟨⟩

theorem Keeps.bind {mid : List (Event τ) → α → Prop} {post : List (Event τ) → β → Prop}
    (h : Keeps rule past action mid)
    (hnext : ∀ events a, mid (past ++ events) a → Keeps rule (past ++ events) (next a) post) :
    Keeps rule past (action >>= next) post := by
  intro setting session
  refine Ends.bind (h setting session) ?_ ?_
  · rintro events a after ⟨hobeys, hmid⟩
    refine Ends.mono (hnext events a (hmid a rfl) setting after) ?_
    rintro more outcome final ⟨hmore, hpost⟩
    rw [obeys_append, ← List.append_assoc]
    exact ⟨⟨hobeys, hmore⟩, hpost⟩
  · rintro events reason after ⟨hobeys, -⟩
    exact ⟨hobeys, nofun⟩

theorem Keeps.rescue {post : List (Event τ) → α → Prop} (h : Keeps rule past action post)
    (hhandle : ∀ events fault, Keeps rule (past ++ events) (handle fault) post) :
    Keeps rule past (rescue action handle) post := by
  intro setting session
  refine Ends.rescue (h setting session) (fun _ _ _ hend => hend) ?_ (fun _ _ hend => hend)
  rintro events fault after ⟨hobeys, -⟩
  refine Ends.mono (hhandle events fault setting after) ?_
  rintro more outcome final ⟨hmore, hpost⟩
  rw [obeys_append, ← List.append_assoc]
  exact ⟨⟨hobeys, hmore⟩, hpost⟩

theorem Keeps.ofExcept {result : Except Fault α} :
    Keeps rule past (ofExcept result : Action τ W α)
      fun events a => events = past ∧ result = .ok a := by
  cases result with
  | ok a => exact .pure ⟨rfl, rfl⟩
  | error fault => exact .stop

theorem Keeps.setting :
    Keeps rule past (Action.setting : Action τ W (Setting τ W)) fun events _ => events = past :=
  fun _ _ => ⟨[], (List.append_nil _).symm, trivial, fun _ _ => List.append_nil _⟩

theorem Keeps.now : Always rule past (now : Action τ W τ) :=
  fun _ _ => ⟨[], (List.append_nil _).symm, trivial, fun _ _ => trivial⟩

theorem Keeps.record {event : Event τ} (h : rule past event) :
    Keeps rule past (record event : Action τ W Unit)
      fun events _ => events = past ++ [event] :=
  fun _ _ => Ends.record ⟨⟨h, trivial⟩, fun _ _ => rfl⟩

theorem Keeps.log {channel : Log.Channel} {event : String} {fields : Log.Fields}
    (h : rule past (.logged ⟨channel, event, fields, none⟩)) :
    Keeps rule past (log channel event fields : Action τ W Unit)
      fun events _ => events = past ++ [.logged ⟨channel, event, fields, none⟩] :=
  .record h

theorem Keeps.mayLog {c : Prop} [Decidable c] {channel : Log.Channel} {event : String}
    {fields : Log.Fields} {next : Unit → Action τ W β} {post : List (Event τ) → β → Prop}
    (h : rule past (.logged ⟨channel, event, fields, none⟩))
    (hnext : ∀ events, Keeps rule (past ++ events) (next ()) post) :
    Keeps rule past
      (if c then Action.log channel event fields >>= next else next ()) post := by
  split
  · exact .bind (.log h) fun events _ _ => hnext events
  · simpa using hnext []

variable [Timescale τ]

theorem Keeps.ask {request : Request} (h : ∀ reply, rule past (.asked request reply)) :
    Keeps rule past (ask request : Action τ W request.Reply)
      fun events reply => events = past ++ [.asked request reply] := by
  intro setting session
  refine Ends.ask fun reply elapsed world _ => ⟨⟨h reply, trivial⟩, ?_⟩
  rintro _ ⟨⟩
  rfl

theorem Keeps.counted {duration : τ} :
    Keeps rule past (counted duration : Action τ W τ)
      fun events a => events = past ∧ a = duration := by
  intro setting session
  refine Ends.counted ⟨trivial, ?_⟩ ⟨trivial, nofun⟩
  rintro _ ⟨⟩
  exact ⟨List.append_nil _, rfl⟩

theorem Keeps.letPass {duration : τ} : Always rule past (letPass duration : Action τ W Unit) :=
  fun _ _ => Ends.letPass ⟨trivial, fun _ _ => trivial⟩ ⟨trivial, nofun⟩

theorem Keeps.sleep {duration : τ} (h : rule past (.slept duration)) :
    Always rule past (sleep duration : Action τ W Unit) := by
  refine .bind .counted fun events d ⟨hevents, hd⟩ => ?_
  rw [hevents, hd]
  exact .bind (.record h) fun _ _ _ => .letPass

end Action

open Reclaim.Action

variable {rule : Rule τ} {past : List (Event τ)}

abbrev AlwaysAfter (rule : Rule τ) (past : List (Event τ)) (action : Action τ W α) : Prop :=
  ∀ events, Always rule (past ++ events) action

theorem AlwaysAfter.later {action : Action τ W α} (h : AlwaysAfter rule past action)
    (events : List (Event τ)) : AlwaysAfter rule (past ++ events) action := by
  intro more
  rw [List.append_assoc]
  exact h (events ++ more)

/-! ## Each of a list -/

namespace Teardown

theorem all_keeps {act : α → Action τ W Bool} {items : List α}
    (h : ∀ a ∈ items, AlwaysAfter rule past (act a)) : Always rule past (all act items) := by
  induction items generalizing past with
  | nil => exact .pure trivial
  | cons a rest ih =>
    have hhere : Always rule past (act a) := by simpa using h a List.mem_cons_self []
    refine .bind hhere fun events _ _ => ?_
    refine .bind (ih fun b hb => (h b (List.mem_cons_of_mem _ hb)).later events) fun _ _ _ => ?_
    exact .pure trivial

theorem failing_keeps {act : α → Action τ W Bool} {items : List α}
    (h : ∀ a ∈ items, AlwaysAfter rule past (act a)) : Always rule past (failing act items) := by
  induction items generalizing past with
  | nil => exact .pure trivial
  | cons a rest ih =>
    have hhere : Always rule past (act a) := by simpa using h a List.mem_cons_self []
    refine .bind hhere fun events _ _ => ?_
    refine .bind (ih fun b hb => (h b (List.mem_cons_of_mem _ hb)).later events) fun _ _ _ => ?_
    exact .pure trivial

theorem forM_keeps {act : α → Action τ W Unit} {items : List α}
    (h : ∀ a ∈ items, AlwaysAfter rule past (act a)) : Always rule past (items.forM act) := by
  induction items generalizing past with
  | nil => exact .pure trivial
  | cons a rest ih =>
    have hhere : Always rule past (act a) := by simpa using h a List.mem_cons_self []
    refine .bind hhere fun events _ _ => ?_
    exact ih fun b hb => (h b (List.mem_cons_of_mem _ hb)).later events

end Teardown

/-! ## Trackers -/

variable [Timescale τ] {condition : Action τ W Bool}

structure Rule.AllowsWaiting (rule : Rule τ) : Prop where
  polled : ∀ past, rule past .polled
  slept : ∀ past duration, rule past (.slept duration)

namespace Patience

theorem poll_keeps (hwait : rule.AllowsWaiting) {deadline period : τ} {limit : Nat}
    (h : AlwaysAfter rule past condition) :
    Always rule past (poll deadline period condition limit) := by
  induction limit generalizing past with
  | zero => exact .stop
  | succ limit ih =>
    rw [poll]
    refine .bind (.record (hwait.polled _)) fun events _ _ => ?_
    refine .bind (h events) fun events' done _ => ?_
    split
    · exact .pure trivial
    · refine .bind .now fun events'' time _ => ?_
      split
      · exact .pure trivial
      · refine .bind (.sleep (hwait.slept _ _)) fun last _ _ => ?_
        exact ih (((h.later events).later events').later events'' |>.later last)

theorem await_keeps (hwait : rule.AllowsWaiting) {p : Patience τ}
    (h : AlwaysAfter rule past condition) : Always rule past (p.await condition) := by
  refine .bind .now fun events _ _ => ?_
  refine .bind .counted fun events' _ _ => ?_
  refine .bind .setting fun events'' _ _ => ?_
  exact poll_keeps hwait (((h.later events).later events').later events'')

end Patience

namespace Escalation

theorem retry_keeps (hwait : rule.AllowsWaiting) {deadline ceiling interval : τ} {limit : Nat}
    (h : AlwaysAfter rule past condition) :
    Always rule past (retry deadline ceiling interval condition limit) := by
  induction limit generalizing past interval with
  | zero => exact .stop
  | succ limit ih =>
    rw [retry]
    refine .bind (.record (hwait.polled _)) fun events _ _ => ?_
    refine .bind (h events) fun events' done _ => ?_
    split
    · exact .pure trivial
    · refine .bind .now fun events'' time _ => ?_
      dsimp only
      split
      · exact .pure trivial
      · refine .bind (.sleep (hwait.slept _ _)) fun slept _ _ => ?_
        refine .bind .counted fun last _ _ => ?_
        exact ih ((((h.later events).later events').later events'' |>.later slept).later last)

theorem await_keeps (hwait : rule.AllowsWaiting) {e : Escalation τ}
    (h : AlwaysAfter rule past condition) : Always rule past (e.await condition) := by
  refine .bind .now fun events _ _ => ?_
  refine .bind .counted fun events' _ _ => ?_
  refine .bind .setting fun events'' _ _ => ?_
  exact retry_keeps hwait (((h.later events).later events').later events'')

end Escalation

end Reclaim
