import Reclaim.Proofs.Keeps
import Reclaim.Proofs.Cloud.Mention
import Reclaim.Cascade.Node

/-!
# Limits on a stage

A limit says objects of which kinds may be read, and what may be deleted after which past. It also
keeps the words that report on a stage to whoever performs the stage.
-/

namespace Reclaim

open Reclaim.Action

variable {τ W α : Type}

/-! ## Requests -/

inductive Removal where
  | resource (kind : Kind) (group : String) (name : Option String)
  | group (name : String)

def Request.removal? : Request → Option Removal
  | beginDelete kind group name | delete kind group name => some (.resource kind group name)
  | beginDeleteGroup group => some (.group group)
  | _ => none

def Request.fetched? : Request → Option Kind
  | get kind _ _ => some kind
  | _ => none

def Event.IsAsked : Event τ → Prop
  | .asked _ _ => True
  | _ => False

/-- The last of all requests and its reply. -/
def LastAsked (past : List (Event τ)) (request : Request) (reply : request.Reply) : Prop :=
  ∃ before since, past = before ++ .asked request reply :: since ∧ ∀ event ∈ since, ¬ event.IsAsked

/-- The provider showed, in reply to the last request, the object at this place. -/
def JustShown (past : List (Event τ)) (kind : Kind) (place : Place) (object : kind.Model) : Prop :=
  LastAsked past (.get kind place.group place.name) (.ok (some object))

theorem lastAsked_append {past : List (Event τ)} {request : Request} {reply : request.Reply} :
    LastAsked (past ++ [.asked request reply]) request reply :=
  ⟨past, [], rfl, by simp⟩

theorem LastAsked.append {past : List (Event τ)} {request : Request} {reply : request.Reply}
    (h : LastAsked past request reply) {event : Event τ} (hevent : ¬ event.IsAsked) :
    LastAsked (past ++ [event]) request reply := by
  obtain ⟨before, since, rfl, hsince⟩ := h
  refine ⟨before, since ++ [event], by simp, ?_⟩
  intro e he
  rcases List.mem_append.mp he with he | he
  · exact hsince e he
  · exact List.mem_singleton.mp he ▸ hevent

theorem LastAsked.logged {past : List (Event τ)} {request : Request} {reply : request.Reply}
    (h : LastAsked past request reply) {entry : Log.Entry} :
    LastAsked (past ++ [.logged entry]) request reply :=
  h.append nofun

theorem LastAsked.mem {past : List (Event τ)} {request : Request} {reply : request.Reply}
    (h : LastAsked past request reply) : .asked request reply ∈ past := by
  obtain ⟨before, since, rfl, -⟩ := h
  simp

/-- The provider showed the object at this place. -/
def Fetched (events : List (Event τ)) (kind : Kind) (place : Place) (object : kind.Model) : Prop :=
  .asked (.get kind place.group place.name) (.ok (some object)) ∈ events

theorem fetched_append {events more : List (Event τ)} {kind : Kind} {place : Place}
    {object : kind.Model} :
    Fetched (events ++ more) kind place object ↔
      Fetched events kind place object ∨ Fetched more kind place object :=
  List.mem_append

def NoneFetched (events : List (Event τ)) (kind : Kind) : Prop :=
  ∀ place object, ¬ Fetched events kind place object

theorem noneFetched_asked {kind other : Kind} {group name : String}
    {reply : (Request.get other group name).Reply} (h : kind ≠ other) :
    NoneFetched [(.asked (.get other group name) reply : Event τ)] kind := by
  intro place object hfetched
  cases List.mem_singleton.mp hfetched
  exact h rfl

theorem NoneFetched.append {events more : List (Event τ)} {kind : Kind}
    (h : NoneFetched events kind) (hmore : NoneFetched more kind) :
    NoneFetched (events ++ more) kind := by
  intro place object hfetched
  rcases fetched_append.mp hfetched with hevents | hlater
  · exact h place object hevents
  · exact hmore place object hlater

theorem NoneFetched.logged {events : List (Event τ)} {kind : Kind} (h : NoneFetched events kind)
    {entry : Log.Entry} : NoneFetched (.logged entry :: events) kind := by
  intro place object hfetched
  rcases List.mem_cons.mp hfetched with hfirst | hlater
  · cases hfirst
  · exact h place object hlater

theorem NoneFetched.append_right {events more : List (Event τ)} {kind : Kind}
    (hmore : NoneFetched more kind) : Fetched (events ++ more) kind = Fetched events kind := by
  funext place object
  exact propext ⟨fun h => (fetched_append.mp h).resolve_right (hmore place object),
    fun h => fetched_append.mpr (.inl h)⟩

theorem NoneFetched.append_left {events more : List (Event τ)} {kind : Kind}
    (h : NoneFetched events kind) : Fetched (events ++ more) kind = Fetched more kind := by
  funext place object
  exact propext ⟨fun hfetched => (fetched_append.mp hfetched).resolve_left (h place object),
    fun hmore => fetched_append.mpr (.inr hmore)⟩

theorem noneFetched_nil {kind : Kind} : NoneFetched ([] : List (Event τ)) kind := by
  rintro place object ⟨⟩

theorem fetched_cons {rest : List (Event τ)} {kind : Kind} {place : Place} {object : kind.Model}
    (hrest : NoneFetched rest kind) {other : Place} {shown : kind.Model} :
    Fetched (.asked (.get kind place.group place.name) (.ok (some object)) :: rest) kind other
      shown ↔ other = place ∧ shown = object := by
  constructor
  · intro h
    rcases List.mem_cons.mp h with hfirst | hlater
    · cases other
      cases hfirst
      exact ⟨rfl, rfl⟩
    · exact absurd hlater (hrest other shown)
  · rintro ⟨rfl, rfl⟩
    exact List.mem_cons_self

/-! ## The rule -/

namespace Stage

/-- The words of the log that report on a stage. -/
def reportWords : List String := ["cleanup_stage_error", "cleanup_stage_incomplete"]

end Stage

def Limits (kinds : List Kind) (warrant : List (Event τ) → Removal → Prop) : Rule τ
  | past, .asked request _ =>
      (∀ kind ∈ request.fetched?, kind ∈ kinds) ∧ ∀ removal ∈ request.removal?, warrant past removal
  | _, .logged entry => entry.event ∉ Stage.reportWords
  | _, _ => True

variable {kinds : List Kind} {warrant : List (Event τ) → Removal → Prop} {past : List (Event τ)}

theorem Limits.mono {kinds' : List Kind} {warrant' : List (Event τ) → Removal → Prop}
    (hkinds : ∀ kind ∈ kinds, kind ∈ kinds')
    (hwarrant : ∀ past removal, warrant past removal → warrant' past removal)
    (past : List (Event τ)) (event : Event τ) (h : Limits kinds warrant past event) :
    Limits kinds' warrant' past event := by
  cases event with
  | asked request reply =>
    exact ⟨fun kind hkind => hkinds kind (h.1 kind hkind),
      fun removal hremoval => hwarrant past removal (h.2 removal hremoval)⟩
  | logged entry => exact h
  | _ => trivial

theorem noneFetched_of_limits {events : List (Event τ)}
    (h : Obeys (Limits kinds warrant) past events) {kind : Kind} (hkind : kind ∉ kinds) :
    NoneFetched events kind := by
  intro place object hfetched
  obtain ⟨before, hlimits⟩ := h.mem hfetched
  exact hkind (hlimits.1 kind rfl)

theorem limits_asked {request : Request} (hfetch : request.fetched? = none)
    (hremoval : request.removal? = none) (reply : request.Reply) :
    Limits kinds warrant past (.asked request reply) := by
  simp [Limits, hfetch, hremoval]

/-! ## Access -/

/-- Only the response that a resource is not found says that it is gone. -/
theorem Fault.unlessGone_eq_none {fault : Fault} {verb : String} {subject : Subject} :
    fault.unlessGone verb subject = none ↔
      ∃ response, response.category = .notFound ∧ fault = .response response := by
  cases fault with
  | response e => by_cases h : e.category = .notFound <;> simp [Fault.unlessGone, h]
  | _ => simp [Fault.unlessGone]

theorem orGone_keeps {rule : Rule τ} {post : List (Event τ) → α → Prop} {fault : Fault}
    {verb : String} {subject : Subject} {whenGone : Action τ W α}
    (h : Keeps rule past whenGone post) :
    Keeps rule past (Access.orGone fault verb subject whenGone) post := by
  unfold Access.orGone
  split
  · exact h
  · exact .stop

variable [Timescale τ]

theorem Kind.view_none (kind : Kind) (view : kind.View) : kind.view none ≠ .ok view := by
  cases kind <;> rintro ⟨⟩

namespace Access

theorem get_keeps {kind : Kind} {group name : String} (hkind : kind ∈ kinds) :
    Keeps (Limits kinds warrant) past (Access.get kind group name : Action τ W (Option kind.View))
      fun events found => ∀ view ∈ found, ∃ object,
        JustShown events kind ⟨group, name⟩ object ∧ kind.view (some object) = .ok view := by
  unfold Access.get
  refine .bind (.ask fun reply => ⟨?_, nofun⟩) ?_
  · rintro _ ⟨⟩
    exact hkind
  · rintro events reply hevents
    cases reply with
    | error fault => exact orGone_keeps (.pure nofun)
    | ok object =>
      refine .bind .ofExcept ?_
      rintro more view ⟨hmore, hview⟩
      refine .pure ?_
      rintro _ ⟨⟩
      cases object with
      | none => exact absurd hview (kind.view_none view)
      | some object =>
        rw [hmore, hevents]
        exact ⟨object, lastAsked_append, hview⟩

theorem delete_keeps {kind : Kind} {group : String} {name : Option String}
    (h : warrant past (.resource kind group name)) :
    Always (Limits kinds warrant) past (Access.delete kind group name : Action τ W _) := by
  have hgone : ∀ past : List (Event τ), Always (Limits kinds warrant) past (do
      record (.noted .debug
        ("Azure " ++ Subject.text ⟨kind.label, group, name⟩ ++ " already deleted"))
      return none : Action τ W (Option Handle)) :=
    fun past => .bind (.record trivial) fun _ _ _ => .pure trivial
  unfold Access.delete
  refine .bind .setting fun events provider hevents => ?_
  rw [hevents]
  split
  · refine .bind (.ask fun reply => ⟨nofun, ?_⟩) fun more reply _ => ?_
    · rintro _ ⟨⟩
      exact h
    · cases reply with
      | ok _ => exact .pure trivial
      | error fault => exact orGone_keeps (hgone _)
  · refine .bind (.ask fun reply => ⟨nofun, ?_⟩) fun more reply _ => ?_
    · rintro _ ⟨⟩
      exact h
    · cases reply with
      | ok handle => exact .pure trivial
      | error fault => exact orGone_keeps (hgone _)

theorem forall₂_of_readListing {β : Type} {view : Option β → Except Fault α} {listing : Listing β}
    {views : List α} (h : readListing view listing = .ok views) :
    listing.failure = none ∧
      List.Forall₂ (fun item a => view item = .ok a) listing.items views := by
  cases hmap : listing.items.mapM view with
  | error fault =>
    rw [readListing, hmap] at h
    cases h
  | ok found =>
    rw [readListing, hmap] at h
    cases hfailure : listing.failure with
    | some fault =>
      rw [hfailure] at h
      cases h
    | none =>
      rw [hfailure] at h
      cases h
      exact ⟨rfl, View.forall₂_of_mapM hmap⟩

theorem list_keeps {kind : Kind} {group : String} :
    Keeps (Limits kinds warrant) past (Access.list kind group : Action τ W (List kind.View))
      fun events views => ∀ view ∈ views, ∃ listing object,
        .asked (.list kind group) listing ∈ events ∧ listing.failure = none ∧
          some object ∈ listing.items ∧ kind.view (some object) = .ok view := by
  unfold Access.list
  refine .bind (.ask (limits_asked rfl rfl)) fun events listing hevents => ?_
  split
  next views hread =>
    refine .pure fun view hview => ?_
    obtain ⟨hfailure, hviews⟩ := forall₂_of_readListing hread
    obtain ⟨item, hitem, hof⟩ := View.exists_of_mem hviews hview
    cases item with
    | none => exact absurd hof (kind.view_none view)
    | some object => exact ⟨listing, object, by simp [hevents], hfailure, hitem, hof⟩
  next => exact orGone_keeps (.pure nofun)

/-- A group is known to be empty only by a complete listing without items. -/
theorem members_keeps {group : String} :
    Keeps (Limits kinds warrant) past
      (Access.members group : Action τ W (Option (List View.Member)))
      fun events found => found = some [] → LastAsked events (.members group) ⟨[], none⟩ := by
  unfold Access.members
  refine .bind (.ask (limits_asked rfl rfl)) fun events listing hevents => ?_
  split
  next views hread =>
    refine .pure ?_
    rintro ⟨⟩
    obtain ⟨hfailure, hviews⟩ := forall₂_of_readListing hread
    cases listing with
    | mk items failure =>
      cases hviews
      rw [hevents, ← hfailure]
      exact lastAsked_append
  next => exact orGone_keeps (.pure nofun)

theorem deleteGroup_keeps {group : String} (h : warrant past (.group group)) :
    Always (Limits kinds warrant) past (Access.deleteGroup group : Action τ W _) := by
  unfold Access.deleteGroup
  refine .bind (.ask fun reply => ⟨nofun, ?_⟩) fun events reply _ => ?_
  · rintro _ ⟨⟩
    exact h
  · cases reply with
    | ok handle => exact .pure trivial
    | error fault => exact orGone_keeps (.bind (.record trivial) fun _ _ _ => .pure trivial)

end Access

/-! ## Waiting for a delete -/

structure Rule.AllowsFollowing (rule : Rule τ) : Prop extends rule.AllowsWaiting where
  isDone : ∀ past handle reply, rule past (.asked (.isDone handle) reply)
  status : ∀ past handle reply, rule past (.asked (.status handle) reply)
  warned : ∀ past entry,
    entry.event ∈ ["delete_operation_failed", "delete_operation_timed_out"] →
      rule past (.logged entry)

theorem isConfirmed_keeps {rule : Rule τ} (h : rule.AllowsFollowing) {t : Teardown τ}
    {handle : Option Handle} : Always rule past (t.isConfirmed handle : Action τ W Bool) := by
  cases handle with
  | none => exact .pure trivial
  | some handle =>
    have hdone : AlwaysAfter rule past (Deletion.isDone handle : Action τ W Bool) :=
      fun _ => .bind (.ask (h.isDone _ _)) fun _ _ _ => .always .ofExcept
    have hstatus : AlwaysAfter rule past (Deletion.status handle : Action τ W String) :=
      fun _ => .bind (.ask (h.status _ _)) fun _ _ _ => .bind .ofExcept fun _ _ _ => .pure trivial
    refine .bind (Patience.await_keeps h.toAllowsWaiting hdone) fun events done _ => ?_
    split
    · refine .bind (hstatus events) fun more status _ => ?_
      · split
        · exact .bind (.log (h.warned _ _ (by simp))) fun _ _ _ => .pure trivial
        · exact .pure trivial
    · exact .bind (.log (h.warned _ _ (by simp))) fun _ _ _ => .pure trivial

omit [Timescale τ] in
theorem limits_allowsFollowing : (Limits kinds warrant).AllowsFollowing where
  polled _ := trivial
  slept _ _ := trivial
  isDone _ _ := limits_asked rfl rfl
  status _ _ := limits_asked rfl rfl
  warned _ entry hentry := by
    rcases List.mem_pair.mp hentry with h | h
    · simp [Limits, h, Stage.reportWords]
    · simp [Limits, h, Stage.reportWords]

omit [Timescale τ] in
theorem checked_keeps {rule : Rule τ} {id : ResourceId} {check : Action τ W Bool}
    (h : Always rule past check)
    (hlog : ∀ past fields, rule past (.logged ⟨.error, "resource_check_error", fields, none⟩)) :
    Always rule past (Teardown.checked id check) :=
  .rescue h fun _ _ => .bind (.log (hlog _ _)) fun _ _ _ => .pure trivial

theorem hasLeft_keeps {t : Teardown τ} {id : ResourceId} :
    Always (Limits kinds warrant) past (t.hasLeft id : Action τ W Bool) := by
  refine checked_keeps ?_ fun _ _ => by simp [Limits, Stage.reportWords]
  refine .bind (Patience.await_keeps limits_allowsFollowing.toAllowsWaiting ?_) fun _ left _ => ?_
  · exact fun _ => .bind Access.members_keeps fun _ _ _ => .pure trivial
  · split
    · exact .pure trivial
    · exact .bind (.log (by simp [Limits, Stage.reportWords])) fun _ _ _ => .pure trivial

end Reclaim
