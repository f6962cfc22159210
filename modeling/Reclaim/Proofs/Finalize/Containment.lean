import Reclaim.Finalize.Group
import Reclaim.Proofs.Cloud.Replies
import Reclaim.Proofs.Cascade.Verdict
import Reclaim.Proofs.Turns.Networks

/-!
# The two steps for a group of nodes

Whatever goes wrong with the shared security group is logged, and counts as not deleted. The
resource group has its turn in any case, once, and its faults are those of the whole. It is deleted
only on a listing that came to its end without showing a member.
-/

namespace Reclaim

open Reclaim.Action

variable {τ W α : Type}

/-! ## What the step for the security group asks -/

/-- The request is about this resource, or lists the members of a group. -/
def Request.IsAbout (kind : Kind) (group name : String) : Request → Prop
  | .get k g n => k = kind ∧ g = group ∧ n = name
  | .beginDelete k g n | .delete k g n => k = kind ∧ g = group ∧ n = some name
  | .members _ => True
  | _ => False

/-- The request is about the resource that the nodes of a group share, which has a name. -/
def Request.IsAboutShared (naming : Naming) (resourceGroup : String) (group : Option String)
    (request : Request) : Prop :=
  ∃ name, naming.sharedName group = .ok name ∧ request.IsAbout .securityGroup resourceGroup name

/-- Every request to the provider itself is one of these. -/
def CallsOnly (allowed : Request → Prop) : Rule τ :=
  fun _ event => ∀ request ∈ event.call?, allowed request

variable {allowed : Request → Prop} {past : List (Event τ)}

theorem calls_of_callsOnly {events : List (Event τ)} (h : Obeys (CallsOnly allowed) past events) :
    ∀ request ∈ calls events, allowed request := by
  intro request hrequest
  obtain ⟨event, hevent, hcall⟩ := List.mem_filterMap.mp hrequest
  obtain ⟨before, hrule⟩ := h.mem hevent
  exact hrule request hcall

theorem callsOnly_allowsFollowing : (CallsOnly allowed : Rule τ).AllowsFollowing where
  polled _ := nofun
  slept _ _ := nofun
  isDone _ _ _ := nofun
  status _ _ _ := nofun
  warned _ _ _ := nofun

theorem callsOnly_logged {entry : Log.Entry} : CallsOnly allowed past (.logged entry) := nofun

theorem callsOnly_asked {request : Request} (h : allowed request) (reply : request.Reply) :
    CallsOnly allowed past (.asked request reply) := by
  intro other hother
  cases request <;> cases hother <;> exact h

variable [Timescale τ]

theorem get_callsOnly {kind : Kind} {group name : String} (h : allowed (.get kind group name)) :
    Always (CallsOnly allowed) past (Access.get kind group name : Action τ W _) :=
  (Access.get_shown (callsOnly_asked h)).always

theorem delete_callsOnly {kind : Kind} {group : String} {name : Option String}
    (hdelete : allowed (.delete kind group name))
    (hbegin : allowed (.beginDelete kind group name)) :
    Always (CallsOnly allowed) past (Access.delete kind group name : Action τ W _) :=
  (Access.delete_opens (fun _ => callsOnly_asked hdelete) (fun _ => callsOnly_asked hbegin)
    fun _ _ _ => nofun).always

theorem members_callsOnly {group : String} (h : allowed (.members group)) :
    Always (CallsOnly allowed) past (Access.members group : Action τ W _) :=
  Access.members_always (callsOnly_asked h)

variable {t : Teardown τ}

theorem hasLeft_callsOnly (h : ∀ group, allowed (.members group)) {id : ResourceId} :
    Always (CallsOnly allowed) past (t.hasLeft id : Action τ W Bool) := by
  refine checked_keeps ?_ fun _ _ => callsOnly_logged
  refine .bind (Patience.await_keeps callsOnly_allowsFollowing.toAllowsWaiting fun _ => ?_)
    fun _ left _ => ?_
  · exact .bind (members_callsOnly (h _)) fun _ _ _ => .pure trivial
  · split
    · exact .pure trivial
    · exact .bind (.log callsOnly_logged) fun _ _ _ => .pure trivial

variable {resourceGroup : String} {group : Option String}

/-- Nothing is asked before the group has a shared name, and then about the resource of that name
only. -/
theorem trySecurityGroup_callsOnly :
    Always (CallsOnly (Request.IsAboutShared t.naming resourceGroup group)) past
      (t.trySecurityGroup resourceGroup group : Action τ W Bool) := by
  refine .rescue ?_ fun _ _ => .bind (.record callsOnly_logged) fun _ _ _ => .pure trivial
  refine .bind .ofExcept ?_
  -- A group without a shared name raises here. Everything that follows is about that name.
  rintro events name ⟨-, hname⟩
  refine .bind (get_callsOnly ⟨name, hname, rfl, rfl, rfl⟩) fun _ found _ => ?_
  cases found with
  | none => exact .pure trivial
  | some view =>
    dsimp only
    split
    · exact .bind (.log callsOnly_logged) fun _ _ _ => .pure trivial
    · refine .bind (.log callsOnly_logged) fun _ _ _ => ?_
      refine .bind (delete_callsOnly ⟨name, hname, rfl, rfl, rfl⟩ ⟨name, hname, rfl, rfl, rfl⟩)
        fun _ handle _ => ?_
      refine .bind (isConfirmed_keeps callsOnly_allowsFollowing) fun _ deleted _ => ?_
      split
      · refine .bind .ofExcept fun _ id _ => ?_
        refine .bind (hasLeft_callsOnly fun _ => ⟨name, hname, trivial⟩) fun _ left _ => ?_
        exact .mayLog callsOnly_logged fun _ => .pure trivial
      · exact .pure trivial

theorem trySecurityGroup_calls {setting : Setting τ W} {session : Session τ W} :
    Ends setting session (t.trySecurityGroup resourceGroup group) fun events _ _ =>
      ∀ request ∈ calls events, request.IsAboutShared t.naming resourceGroup group := by
  have hkept : Always (CallsOnly (Request.IsAboutShared t.naming resourceGroup group)) []
      (t.trySecurityGroup resourceGroup group : Action τ W Bool) := trySecurityGroup_callsOnly
  exact Ends.mono (hkept setting session) fun _ _ _ hcalls => calls_of_callsOnly hcalls.1

/-! ## Coming to an end -/

section Concluding

variable {β : Type} {setting : Setting τ W} {action : Action τ W α} {next : α → Action τ W β}

/-- The action comes to an end, wherever it starts. -/
def Concluding (setting : Setting τ W) (action : Action τ W α) : Prop :=
  ∀ session, Ends setting session action fun _ outcome _ => Concludes outcome

omit [Timescale τ]

theorem Concluding.pure {a : α} : Concluding setting (pure a) := fun _ => Ends.pure concludes_ok

theorem Concluding.record {event : Event τ} : Concluding setting (record event) :=
  fun _ => Ends.record concludes_ok

theorem Concluding.ofExcept {result : Except Fault α} :
    Concluding setting (ofExcept result : Action τ W α) := by
  cases result with
  | ok a => exact .pure
  | error fault => exact fun _ => Ends.stop concludes_raised

theorem Concluding.bind (h : Concluding setting action)
    (hnext : ∀ a, Concluding setting (next a)) : Concluding setting (action >>= next) :=
  fun session => Ends.bind (h session) (fun _ a after _ => hnext a after)
    fun _ _ _ hstop => hstop.error

theorem Concluding.rescue {handle : Fault → Action τ W α} (h : Concluding setting action)
    (hhandle : ∀ fault, Concluding setting (handle fault)) :
    Concluding setting (Action.rescue action handle) :=
  fun session => Ends.rescue (h session) (fun _ _ _ hend => hend)
    (fun _ fault after _ => hhandle fault after) fun _ _ hend => hend

theorem Concluding.ne_unfinished (h : Concluding setting action) {session after : Session τ W} :
    action.run setting session ≠ .error .unfinished after := by
  intro hrun
  obtain ⟨_, -, hconcludes⟩ := (h session).of_error hrun
  exact hconcludes _ rfl rfl

theorem Answered.concludes {verb : String} {subject : Subject} {gone : α}
    {result : Except Fault α} {outcome : Except Stop α}
    (h : Answered verb subject gone result outcome) : Concludes outcome := by
  cases h with
  | value | gone => exact concludes_ok
  | inUse | failed | passed => exact concludes_raised

theorem Answers.concludes {session : Session τ W} {request : Request}
    {made : request.Reply → Except Fault α → Prop} {verb : String} {subject : Subject} {gone : α}
    (h : Answers setting session action request made verb subject gone) :
    Ends setting session action fun _ outcome _ => Concludes outcome :=
  Ends.mono h fun _ _ _ ⟨_, ⟨_, _, _, _, hanswered⟩, _⟩ => hanswered.concludes

variable [Timescale τ]

theorem get_concluding {kind : Kind} {group name : String} :
    Concluding setting (Access.get kind group name) :=
  fun _ => (get_answers kind group name).concludes

theorem delete_concluding {kind : Kind} {group : String} {name : Option String} :
    Concluding setting (Access.delete kind group name) := by
  intro session
  have hanswers := @delete_answers _ _ _ setting session kind group name
  split at hanswers <;> exact hanswers.concludes

theorem members_concluding {group : String} : Concluding setting (Access.members group) :=
  fun _ => (members_answers group).concludes

theorem deleteGroup_concluding {group : String} :
    Concluding setting (Access.deleteGroup group) :=
  fun _ => (deleteGroup_answers group).concludes

end Concluding

/-- The trackers of the teardown come to an end, wherever they start. -/
structure Teardown.Finishes (t : Teardown τ) (setting : Setting τ W) : Prop where
  confirming : ∀ handle, Concluding setting (t.isConfirmed handle)
  looking : ∀ id, Concluding setting (t.hasLeft id)

/-- In exact fractions trackers with positive durations come to an end, whatever is replied. -/
theorem Teardown.HasTime.finishes {t : Teardown Rat} {setting : Setting Rat W}
    (h : t.HasTime setting.pollLimit)
    (hforward : ∀ request world, 0 ≤ (setting.provider.answer request world).2.1) :
    t.Finishes setting where
  confirming _ session :=
    Ends.mono ((anywhere_suits h hforward).isConfirmed session trivial)
      fun _ _ _ hsettled => hsettled.concludes
  looking _ session :=
    Ends.mono ((anywhere_suits h hforward).hasLeft session trivial)
      fun _ _ _ hsettled => hsettled.concludes

variable {setting : Setting τ W} {session between after : Session τ W}

theorem trySecurityGroup_concluding (h : t.Finishes setting) :
    Concluding setting (t.trySecurityGroup resourceGroup group) := by
  refine .rescue ?_ fun _ => .bind .record fun _ => .pure
  refine .bind .ofExcept fun name => .bind get_concluding fun found => ?_
  cases found with
  | none => exact .pure
  | some view =>
    dsimp only
    split
    · exact .bind .record fun _ => .pure
    · refine .bind .record fun _ => .bind delete_concluding fun handle => ?_
      refine .bind (h.confirming handle) fun deleted => ?_
      split
      · refine .bind .ofExcept fun id => .bind (h.looking id) fun left => ?_
        cases left with
        | true => exact .pure
        | false => exact .bind .record fun _ => .pure
      · exact .pure

theorem removeResourceGroup_concluding (h : t.Finishes setting) :
    Concluding setting (t.removeResourceGroup resourceGroup) := by
  refine .bind members_concluding fun members => ?_
  cases members with
  | none => exact .bind .record fun _ => .pure
  | some members =>
    cases members with
    | nil => exact .bind .record fun _ => .bind deleteGroup_concluding h.confirming
    | cons => exact .bind .record fun _ => .pure

theorem removeGroup_concluding (h : t.Finishes setting) :
    Concluding setting (t.removeGroup resourceGroup group) :=
  .bind (trySecurityGroup_concluding h) fun _ =>
    .bind (removeResourceGroup_concluding h) fun _ => .pure

/-! ## The step for the security group -/

/-- The entry for what goes wrong with a security group. -/
def securityGroupFault (resourceGroup : String) (group : Option String) (fault : Fault) :
    Log.Entry :=
  ⟨.exception, "security_group_cleanup_error",
    [("resource_group", .str resourceGroup), ("group", .ofText? group)], some fault⟩

theorem trySecurityGroup_neverRaises :
    NeverRaises (t.trySecurityGroup resourceGroup group : Action τ W Bool) :=
  .rescue fun _ => .bind .record fun _ => .pure

theorem trySecurityGroup_refused {fault : Fault} (h : t.naming.sharedName group = .error fault) :
    (t.trySecurityGroup resourceGroup group).run setting session =
      .ok false (session.logging [securityGroupFault resourceGroup group fault]) := by
  rw [Teardown.trySecurityGroup, run_rescue, Teardown.removeSecurityGroup, run_bind, h,
    run_ofExcept_error]
  rfl

theorem trySecurityGroup_returns
    (h : ∀ after, (t.trySecurityGroup resourceGroup group).run setting session ≠
      .error .unfinished after) :
    ∃ deleted between securing,
      (t.trySecurityGroup resourceGroup group).run setting session = .ok deleted between ∧
        between.trace.toList = session.trace.toList ++ securing ∧
          ∀ request ∈ calls securing, request.IsAboutShared t.naming resourceGroup group := by
  cases hrun : (t.trySecurityGroup resourceGroup group).run setting session with
  | ok deleted between =>
    obtain ⟨securing, htrace, hcalls⟩ := trySecurityGroup_calls.of_ok hrun
    exact ⟨deleted, between, securing, rfl, htrace, hcalls⟩
  | error reason between =>
    cases reason with
    | raised fault => exact absurd hrun (trySecurityGroup_neverRaises _ _ _ _)
    | unfinished => exact absurd hrun (h between)

/-! ## The step for the resource group -/

/-- The listing comes to its end without an item. -/
def Listing.IsEmpty (listing : Listing α) : Prop := listing.items = [] ∧ listing.failure = none

section Closing

variable (t : Teardown τ) (setting : Setting τ W) (resourceGroup : String)

def emptyGroupNotice : Log.Entry :=
  ⟨.debug, "deleting_empty_resource_group", [("resource_group", .str resourceGroup)], none⟩

/-- What follows on the listing of a resource group's members. -/
inductive Closes (session : Session τ W) (listing : Listing Model.Member) :
    List (Event τ) → Except Stop Bool → Session τ W → Prop
  | missing {e : ErrorResponse} {after : Session τ W}
      (hgives : listing.Gives View.member (.error (.response e)))
      (hgone : e.category = .notFound) :
      Closes session listing [.logged ⟨.debug, "resource_group_already_deleted",
        [("resource_group", .str resourceGroup)], none⟩] (.ok true) after
  | occupied {members : List View.Member} {after : Session τ W}
      (hgives : listing.Gives View.member (.ok members)) (hmembers : members ≠ []) :
      Closes session listing [.logged ⟨.warning, "resource_group_not_empty",
        [("resource_group", .str resourceGroup),
          ("resources", .list (members.map fun member => .ofText? member.id))], none⟩]
        (.ok false) after
  /-- The group is deleted, and the verdict on its delete is that of the step. -/
  | emptied {deleting : List (Event τ)} {outcome : Except Stop Bool} {listed after : Session τ W}
      (hempty : listing.IsEmpty)
      (hlisted : (Access.members resourceGroup).run setting session = .ok (some []) listed)
      (hrun : RunsTo setting (listed.logging [emptyGroupNotice resourceGroup])
        (do t.isConfirmed (← Access.deleteGroup resourceGroup)) outcome after)
      (hcalls : calls deleting = [.beginDeleteGroup resourceGroup]) :
      Closes session listing (.logged (emptyGroupNotice resourceGroup) :: deleting) outcome after
  | unlisted {original fault : Fault} {after : Session τ W}
      (hgives : listing.Gives View.member (.error original))
      (hreport : Answered "list" ⟨"resource group", resourceGroup, some "*"⟩
        (none : Option (List View.Member)) (.error original) (.error (.raised fault))) :
      Closes session listing [] (.error (.raised fault)) after

/-- The step for a resource group: the listing of its members, and what follows on it. -/
def ClosingStep (session : Session τ W) (events : List (Event τ)) (outcome : Except Stop Bool)
    (after : Session τ W) : Prop :=
  ∃ listing closing, events = .asked (.members resourceGroup) listing :: closing ∧
    Closes t setting resourceGroup session listing closing outcome after ∧
      (.beginDeleteGroup resourceGroup ∈ calls events ↔ listing.IsEmpty)

end Closing

theorem Listing.Gives.eq_ok_nil {β : Type} {view : Option β → Except Fault α}
    {listing : Listing β} {result : Except Fault (List α)} (h : listing.Gives view result)
    (hempty : listing.IsEmpty) : result = .ok [] := by
  obtain ⟨hitems, hfailure⟩ := hempty
  cases h with
  | whole hviews =>
    rw [hitems] at hviews
    rw [List.forall₂_nil_left_iff.mp hviews]
  | broken hsplit => simp [hitems] at hsplit
  | ended _ hends =>
    rw [hfailure] at hends
    cases hends

theorem isEmpty_of_gives {listing : Listing Model.Member}
    (h : listing.Gives View.member (.ok [])) : listing.IsEmpty := by
  cases h with
  | whole hviews hcomplete => exact ⟨List.forall₂_nil_right_iff.mp hviews, hcomplete⟩

theorem deleteGroupFollowed_calls :
    Ends setting session (do t.isConfirmed (← Access.deleteGroup resourceGroup))
      fun events _ _ => calls events = [.beginDeleteGroup resourceGroup] := by
  have hdelete : Ends setting session (Access.deleteGroup resourceGroup) fun events _ _ =>
      calls events = [.beginDeleteGroup resourceGroup] := by
    refine calls_of_ask (fun _ => rfl) fun reply => ?_
    cases reply with
    | ok handle => exact .pure trivial
    | error fault => exact orGone_keeps (.bind (.record rfl) fun _ _ _ => .pure trivial)
  refine Ends.bind hdelete ?_ fun _ _ _ hcalls => hcalls
  rintro events handle asked hcalls
  refine Ends.mono isConfirmed_calls fun more _ _ hnone => ?_
  rw [calls_append, hcalls, hnone, List.append_nil]

theorem removeResourceGroup_closes :
    Ends setting session (t.removeResourceGroup resourceGroup)
      (ClosingStep t setting resourceGroup session) := by
  -- Unless the listing gives an empty list, nothing but the listing is asked for.
  have hkept : ∀ {listing : Listing Model.Member} {result : Except Fault (List View.Member)},
      listing.Gives View.member result → result ≠ .ok [] → ∀ {events : List (Event τ)},
        calls events = [.members resourceGroup] →
          (.beginDeleteGroup resourceGroup ∈ calls events ↔ listing.IsEmpty) := by
    intro listing result hgives hresult events hcalls
    simp only [hcalls, List.mem_singleton, reduceCtorEq, false_iff]
    exact fun hempty => hresult (hgives.eq_ok_nil hempty)
  unfold Teardown.removeResourceGroup
  refine Ends.bind (Ends.runs (members_ends resourceGroup)) ?_ ?_
  · rintro _ found listed ⟨⟨listing, result, rfl, hgives, hanswered⟩, hrun⟩
    cases result with
    | error original =>
      change Answered _ _ _ (.error original) _ at hanswered
      cases hanswered with
      | gone hgone =>
        exact Ends.log (Ends.pure ⟨listing, _, rfl, .missing hgives hgone, hkept hgives nofun rfl⟩)
    | ok members =>
      change Answered _ _ _ (.ok (some members)) _ at hanswered
      cases hanswered with
      | value =>
        cases members with
        | nil =>
          refine Ends.log (Ends.mono (Ends.runs deleteGroupFollowed_calls) ?_)
          rintro deleting outcome after ⟨hcalls, hdeleted⟩
          have hempty := isEmpty_of_gives hgives
          refine ⟨listing, _, rfl, .emptied hempty hrun.eq_ok hdeleted hcalls, ?_⟩
          have hrequested : Request.beginDeleteGroup resourceGroup ∈ calls deleting :=
            hcalls ▸ List.mem_singleton_self _
          exact iff_of_true (List.mem_cons_of_mem _ hrequested) hempty
        | cons member others =>
          refine Ends.log (Ends.pure ⟨listing, _, rfl, ?_, hkept hgives nofun rfl⟩)
          exact .occupied hgives (List.cons_ne_nil _ _)
  · rintro _ reason listed ⟨⟨listing, result, rfl, hgives, hanswered⟩, -⟩
    cases result with
    | ok members => cases hanswered
    | error original =>
      change Answered _ _ _ (.error original) _ at hanswered
      obtain ⟨fault, rfl⟩ : ∃ fault, reason = .raised fault := by
        cases hanswered <;> exact ⟨_, rfl⟩
      exact ⟨listing, [], rfl, .unlisted hgives hanswered, hkept hgives nofun rfl⟩

/-! ## The two steps in turn -/

/-- The second step starts where the first left, and the whole ends as the second does, with both
verdicts in one. -/
structure StepsInTurn (t : Teardown τ) (setting : Setting τ W) (session : Session τ W)
    (resourceGroup : String) (group : Option String) (deleted : Bool) (between : Session τ W)
    (outcome : Except Stop Bool) (after : Session τ W) (securing closing : List (Event τ)) :
    Prop where
  first : (t.trySecurityGroup resourceGroup group).run setting session = .ok deleted between
  first_trace : between.trace.toList = session.trace.toList ++ securing
  first_calls : ∀ request ∈ calls securing, request.IsAboutShared t.naming resourceGroup group
  second : RunsTo setting between (t.removeResourceGroup resourceGroup) outcome after
  second_trace : after.trace.toList = between.trace.toList ++ closing
  second_closes : ClosingStep t setting resourceGroup between closing outcome after
  second_concludes : Concludes outcome
  whole : RunsTo setting session (t.removeGroup resourceGroup group)
    (outcome.map (deleted && ·)) after

theorem removeGroup_runsTo {deleted : Bool} {outcome : Except Stop Bool}
    (hfirst : (t.trySecurityGroup resourceGroup group).run setting session = .ok deleted between)
    (hsecond : RunsTo setting between (t.removeResourceGroup resourceGroup) outcome after) :
    RunsTo setting session (t.removeGroup resourceGroup group) (outcome.map (deleted && ·))
      after := by
  have hwhole : (t.removeGroup resourceGroup group).run setting session =
      (t.removeResourceGroup resourceGroup >>= fun closed => pure (deleted && closed)).run setting
        between := by
    rw [Teardown.removeGroup, run_bind, hfirst]
  rw [RunsTo, hwhole, run_bind]
  cases outcome with
  | ok closed =>
    rw [hsecond.eq_ok]
    exact ⟨rfl, rfl⟩
  | error reason =>
    rw [hsecond.eq_error]
    exact ⟨rfl, rfl⟩

theorem removeGroup_steps
    (h : ∀ after, (t.removeGroup resourceGroup group).run setting session ≠
      .error .unfinished after) :
    ∃ deleted between outcome after securing closing,
      StepsInTurn t setting session resourceGroup group deleted between outcome after securing
        closing := by
  have hfirst : ∀ after, (t.trySecurityGroup resourceGroup group).run setting session ≠
      .error .unfinished after := by
    intro after hrun
    exact h after (run_bind_eq_error.mpr (.inl hrun))
  obtain ⟨deleted, between, securing, hrun, htrace, hcalls⟩ := trySecurityGroup_returns hfirst
  have hsecond : Ends setting between (t.removeResourceGroup resourceGroup)
      (ClosingStep t setting resourceGroup between) := removeResourceGroup_closes
  obtain ⟨closing, hmore, hcloses, hruns⟩ := hsecond.runs
  have hwhole := removeGroup_runsTo hrun hruns
  refine ⟨deleted, between, _, _, securing, closing, hrun, htrace, hcalls, hruns, hmore, hcloses,
    ?_, hwhole⟩
  rintro _ houtcome rfl
  rw [houtcome] at hwhole
  exact h _ hwhole.eq_error

/-- The step for the security group raises nothing, and asks nothing where the group has no shared
name. The step for the resource group has its turn after it in any case, asks for the delete exactly
if the listing is whole and empty, and is the only one whose faults are raised. So it is whenever
the trackers come to an end, and in exact fractions they do, whatever is replied. -/
theorem removeGroup_contains_faults (t : Teardown τ) (setting : Setting τ W)
    (session : Session τ W) (resourceGroup : String) (group : Option String) :
    NeverRaises (t.trySecurityGroup resourceGroup group : Action τ W Bool) ∧
      (∀ fault, t.naming.sharedName group = .error fault →
        (t.trySecurityGroup resourceGroup group).run setting session =
          .ok false (session.logging [securityGroupFault resourceGroup group fault])) ∧
      Ends setting session (t.removeResourceGroup resourceGroup)
        (ClosingStep t setting resourceGroup session) ∧
      ((∀ after, (t.removeGroup resourceGroup group).run setting session ≠
          .error .unfinished after) →
        ∃ deleted between outcome after securing closing,
          StepsInTurn t setting session resourceGroup group deleted between outcome after securing
            closing) ∧
      ∀ (timed : Teardown Rat) (setting : Setting Rat W), timed.HasTime setting.pollLimit →
        (∀ request world, 0 ≤ (setting.provider.answer request world).2.1) →
          ∀ session after, (timed.removeGroup resourceGroup group).run setting session ≠
            .error .unfinished after :=
  ⟨trySecurityGroup_neverRaises, fun _ => trySecurityGroup_refused, removeResourceGroup_closes,
    removeGroup_steps, fun _ _ htime hforward _ _ =>
      (removeGroup_concluding (htime.finishes hforward)).ne_unfinished⟩

namespace Misnamed

theorem forward (request : Request) (world : Unit) :
    0 ≤ (Stubborn.provider.answer request world).2.1 := by
  cases request with
  | get kind _ _ => cases kind <;> exact zero_le_one
  | _ => exact zero_le_one

/-- A name with a capital letter is refused, and the resource group has its turn. -/
theorem steps_in_turn :
    Teardown.sample.naming.sharedName (some "Web") =
        .error (.invalidGroupName (some "Web")) ∧
      Teardown.sample.HasTime 13 ∧
      ∃ between outcome after closing,
        StepsInTurn Teardown.sample ⟨Stubborn.provider, 13⟩ ⟨(), 0, #[]⟩ "rg" (some "Web") false
          between outcome after
          [.logged (securityGroupFault "rg" (some "Web") (.invalidGroupName (some "Web")))]
          closing := by
  have hrefused : Teardown.sample.naming.sharedName (some "Web") =
      .error (.invalidGroupName (some "Web")) := by rfl
  obtain ⟨-, hfirst, -, hsteps, hends⟩ := removeGroup_contains_faults Teardown.sample
    ⟨Stubborn.provider, 13⟩ ⟨(), 0, #[]⟩ "rg" (some "Web")
  have hfinished := hends Teardown.sample ⟨Stubborn.provider, 13⟩ Unnamed.teardown_hasTime forward
    ⟨(), 0, #[]⟩
  obtain ⟨deleted, between, outcome, after, securing, closing, h⟩ := hsteps hfinished
  obtain ⟨rfl, rfl⟩ := EStateM.Result.ok.inj (h.first.symm.trans (hfirst _ hrefused))
  obtain rfl : securing = [.logged _] := h.first_trace.symm
  exact ⟨hrefused, Unnamed.teardown_hasTime, _, outcome, after, closing, h⟩

end Misnamed

end Reclaim
