import Reclaim.Proofs.Turns.Asking

/-!
# What becomes of a reply

An access asks the provider once, and one thing comes of the reply. What is there is viewed as a
whole, a resource that is not found is gone, every other error response is reported with the request
it answers, and any other fault passes as it is.
-/

namespace Reclaim

open Reclaim.Action

variable {τ W α β : Type}

/-! ## Viewing -/

/-- Nothing can be wrong but that something is missing. -/
def OnlyMisses (result : Except Fault α) : Prop :=
  ∀ fault, result = .error fault → ∃ field, fault = .missingObject field

namespace OnlyMisses

theorem pure {a : α} : OnlyMisses (pure a : Except Fault α) := nofun

theorem need {field : String} {object : Option α} : OnlyMisses (View.need field object) := by
  rintro fault h
  cases object with
  | none => exact ⟨field, (Except.error.inj h).symm⟩
  | some a => cases h

theorem bind {result : Except Fault α} {next : α → Except Fault β} (h : OnlyMisses result)
    (hnext : ∀ a, OnlyMisses (next a)) : OnlyMisses (result >>= next) := by
  cases result with
  | ok a => exact hnext a
  | error first =>
    rintro fault ⟨⟩
    exact h first rfl

theorem mapM {f : α → Except Fault β} (h : ∀ a, OnlyMisses (f a)) (items : List α) :
    OnlyMisses (items.mapM f) := by
  intro fault hfault
  obtain ⟨item, -, hitem⟩ := exists_of_mapM_error hfault
  exact h item fault hitem

theorem linkIds (links : List (Option Link)) : OnlyMisses (View.linkIds links) :=
  .bind (.mapM (fun _ => .need) links) fun _ => .pure

theorem linkIds? (links : Option (List (Option Link))) :
    OnlyMisses (links.mapM View.linkIds) := by
  cases links with
  | none => exact .pure
  | some links => exact .bind (.linkIds links) fun _ => .pure

end OnlyMisses

theorem Kind.view_onlyMisses (kind : Kind) (object : Option kind.Model) :
    OnlyMisses (kind.view object) := by
  cases kind with
  | virtualMachine =>
    exact .bind .need fun _ => .bind (.linkIds _) fun _ => .bind (.mapM (fun _ => .need) _)
      fun _ => .pure
  | networkInterface => exact .bind .need fun _ => .bind (.mapM (fun _ => .need) _) fun _ => .pure
  | availabilitySet => exact .bind .need fun _ => .bind (.linkIds? _) fun _ => .pure
  | securityGroup => exact .bind .need fun _ => .bind (.linkIds? _) fun _ => .pure
  | publicIp | disk | virtualNetwork => exact .need

theorem View.member_onlyMisses (object : Option Model.Member) : OnlyMisses (View.member object) :=
  .bind .need fun _ => .pure

/-! ## Listings -/

/-- What a listing gives if its items are viewed as they come. -/
inductive Listing.Gives (view : Option β → Except Fault α) (listing : Listing β) :
    Except Fault (List α) → Prop
  /-- All items can be viewed, and the listing comes to its end. -/
  | whole {views : List α}
      (hviews : List.Forall₂ (fun item a => view item = .ok a) listing.items views)
      (hcomplete : listing.failure = none) : Gives view listing (.ok views)
  /-- An item cannot be viewed, the first one of which this is so. -/
  | broken {before after : List (Option β)} {item : Option β} {fault : Fault}
      (hitems : listing.items = before ++ item :: after)
      (hbefore : ∀ other ∈ before, ∃ a, view other = .ok a) (hitem : view item = .error fault) :
      Gives view listing (.error fault)
  /-- All items can be viewed, and then the listing fails. -/
  | ended {fault : Fault} (hitems : ∀ item ∈ listing.items, ∃ a, view item = .ok a)
      (hfailure : listing.failure = some fault) : Gives view listing (.error fault)

theorem readListing_gives (view : Option β → Except Fault α) (listing : Listing β) :
    listing.Gives view (Access.readListing view listing) := by
  unfold Access.readListing
  cases hmap : listing.items.mapM view with
  | error fault =>
    obtain ⟨before, item, after, hitems, hbefore, hitem⟩ := first_of_mapM_error hmap
    exact .broken hitems hbefore hitem
  | ok views =>
    have hviews := View.forall₂_of_mapM hmap
    cases hfailure : listing.failure with
    | none => exact .whole hviews hfailure
    | some fault =>
      refine .ended (fun item hitem => ?_) hfailure
      obtain ⟨index, hlt, rfl⟩ := List.getElem_of_mem hitem
      exact ⟨_, List.forall₂_iff_get.mp hviews |>.2 index hlt (hviews.length_eq ▸ hlt)⟩

/-! ## Answers -/

/-- The report is on this response to this request. -/
structure Report.IsOn (report : Report) (verb : String) (subject : Subject) (e : ErrorResponse) :
    Prop where
  code : report.code = e.code
  group : report.group = some subject.group
  name : report.name = subject.name
  message : report.message = "Failed to " ++ verb ++ " Azure " ++ subject.text ++ ": " ++ e.text

def ErrorResponse.SaysInUse (e : ErrorResponse) : Prop := ∃ code ∈ inUseCodes, e.code = some code

/-- What comes of a value, or of a fault in its place. -/
inductive Answered (verb : String) (subject : Subject) (gone : α) :
    Except Fault α → Except Stop α → Prop
  | value (a : α) : Answered verb subject gone (.ok a) (.ok a)
  /-- The code has no say in it. -/
  | gone {e : ErrorResponse} (hcategory : e.category = .notFound) :
      Answered verb subject gone (.error (.response e)) (.ok gone)
  | inUse {e : ErrorResponse} {report : Report} (hcategory : e.category ≠ .notFound)
      (hcode : e.SaysInUse) (hreport : report.IsOn verb subject e) :
      Answered verb subject gone (.error (.response e)) (.error (.raised (.inUse report)))
  | failed {e : ErrorResponse} {report : Report} (hcategory : e.category ≠ .notFound)
      (hcode : ¬ e.SaysInUse) (hreport : report.IsOn verb subject e) :
      Answered verb subject gone (.error (.response e)) (.error (.raised (.failed report)))
  | passed {fault : Fault} (hother : ∀ e, fault ≠ .response e) :
      Answered verb subject gone (.error fault) (.error (.raised fault))

variable {verb : String} {subject : Subject} {gone : α}

theorem Answered.ne_response {result : Except Fault α} {outcome : Except Stop α}
    (h : Answered verb subject gone result outcome) (e : ErrorResponse) :
    outcome ≠ .error (.raised (.response e)) := by
  cases h with
  | passed hother =>
    rintro ⟨⟩
    exact hother e rfl
  | _ => nofun

theorem OnlyMisses.answered {fault : Fault} (h : OnlyMisses (.error fault : Except Fault β)) :
    Answered verb subject gone (.error fault) (.error (.raised fault)) := by
  obtain ⟨field, rfl⟩ := h fault rfl
  exact .passed nofun

theorem answered_report {e : ErrorResponse} (hcategory : e.category ≠ .notFound) :
    Answered verb subject gone (.error (.response e))
      (.error (.raised (subject.report verb e.text e.code))) := by
  unfold Subject.report
  by_cases hcode : e.SaysInUse
  · obtain ⟨code, hmem, hsame⟩ := id hcode
    simp only [hsame, Option.any_some, List.contains_iff_mem, hmem, if_true]
    exact .inUse hcategory hcode ⟨hsame.symm, rfl, rfl, rfl⟩
  · have hany : ¬ e.code.any inUseCodes.contains = true := by
      simpa [ErrorResponse.SaysInUse, Option.any_eq_true, and_comm] using hcode
    simp only [if_neg hany]
    exact .failed hcategory hcode ⟨rfl, rfl, rfl, rfl⟩

theorem answered_unlessGone (fault : Fault) :
    fault.unlessGone verb subject = none ∧
        Answered verb subject gone (.error fault) (.ok gone) ∨
      ∃ other, fault.unlessGone verb subject = some other ∧
        Answered verb subject gone (.error fault) (.error (.raised other)) := by
  by_cases h : ∃ e, fault = .response e
  · obtain ⟨e, rfl⟩ := h
    by_cases hcategory : e.category = .notFound
    · exact .inl ⟨Fault.unlessGone_eq_none.mpr ⟨e, hcategory, rfl⟩, .gone hcategory⟩
    · exact .inr ⟨_, if_neg hcategory, answered_report hcategory⟩
  · have hother : ∀ e, fault ≠ .response e := fun e he => h ⟨e, he⟩
    refine .inr ⟨fault, ?_, .passed hother⟩
    unfold Fault.unlessGone
    split
    next e => exact absurd rfl (hother e)
    next => rfl

/-! ## Accesses -/

variable [Timescale τ] {setting : Setting τ W} {session : Session τ W}

omit [Timescale τ] in
/-- What the events are like where the subject is gone, they are like in any case. -/
theorem orGone_answers {fault : Fault} {whenGone : Action τ W α} {quiet : List (Event τ) → Prop}
    (hnil : quiet []) (h : Ends setting session whenGone fun events outcome _ =>
      quiet events ∧ outcome = .ok gone) :
    Ends setting session (Access.orGone fault verb subject whenGone) fun events outcome _ =>
      quiet events ∧ Answered verb subject gone (.error fault) outcome := by
  unfold Access.orGone
  rcases answered_unlessGone fault with ⟨hnone, hanswered⟩ | ⟨other, hsome, hanswered⟩
  · rw [hnone]
    refine Ends.mono h ?_
    rintro events _ after ⟨hquiet, rfl⟩
    exact ⟨hquiet, hanswered⟩
  · rw [hsome]
    exact Ends.stop ⟨hnil, hanswered⟩

/-- The action asks this request and no other. What its reply amounts to is answered, and no error
response is passed on as it came. -/
def Answers (setting : Setting τ W) (session : Session τ W) (action : Action τ W α)
    (request : Request) (amounts : request.Reply → Except Fault α → Prop) (verb : String)
    (subject : Subject) (gone : α) : Prop :=
  Ends setting session action fun events outcome _ =>
    asks events = [request] ∧
      (∃ reply result, .asked request reply ∈ events ∧ amounts reply result ∧
        Answered verb subject gone result outcome) ∧
      ∀ e, outcome ≠ .error (.raised (.response e))

theorem answers_of_ask {request : Request} {next : request.Reply → Action τ W α}
    {amounts : request.Reply → Except Fault α → Prop}
    (h : ∀ reply session, ∃ result, amounts reply result ∧
      Ends setting session (next reply) fun more outcome _ =>
        asks more = [] ∧ Answered verb subject gone result outcome) :
    Answers setting session (ask request >>= next) request amounts verb subject gone := by
  have hask : Ends setting session (ask request) fun events outcome _ =>
      ∃ reply, outcome = .ok reply ∧ events = [.asked request reply] :=
    Ends.ask fun reply _ _ _ => ⟨reply, rfl, rfl⟩
  refine Ends.bind hask ?_ (by rintro _ _ _ ⟨_, ⟨⟩, -⟩)
  rintro events reply after ⟨_, ⟨⟩, rfl⟩
  obtain ⟨result, hamounts, hends⟩ := h reply after
  refine Ends.mono hends ?_
  rintro more outcome final ⟨hasks, hanswered⟩
  refine ⟨?_, ⟨reply, result, by simp, hamounts, hanswered⟩, hanswered.ne_response⟩
  rw [asks, List.singleton_append, List.filterMap_cons, ← asks, hasks]
  rfl

theorem get_answers (kind : Kind) (group name : String) :
    Answers setting session (Access.get kind group name) (.get kind group name)
      (fun reply result => result = reply >>= fun object => some <$> kind.view object)
      "get" ⟨kind.label, group, some name⟩ none := by
  refine answers_of_ask fun reply between => ⟨_, rfl, ?_⟩
  cases reply with
  | error fault => exact orGone_answers rfl (Ends.pure ⟨rfl, rfl⟩)
  | ok object =>
    have hmisses := kind.view_onlyMisses object
    cases hview : kind.view object with
    | ok view =>
      simp only [bind, Except.bind, hview]
      exact Ends.pure ⟨rfl, .value _⟩
    | error fault =>
      rw [hview] at hmisses
      simp only [bind, Except.bind, hview]
      exact Ends.stop ⟨rfl, hmisses.answered⟩

theorem list_answers (kind : Kind) (group : String) :
    Answers setting session (Access.list kind group) (.list kind group)
      (Listing.Gives kind.view) "list" ⟨kind.label, group, some "*"⟩ [] := by
  refine answers_of_ask fun listing between => ⟨_, readListing_gives _ listing, ?_⟩
  cases Access.readListing kind.view listing with
  | ok views => exact Ends.pure ⟨rfl, .value _⟩
  | error fault => exact orGone_answers rfl (Ends.pure ⟨rfl, rfl⟩)

omit [Timescale τ] in
/-- What is gone is remarked on, and there is no handle. -/
theorem goneNote_ends (text : String) :
    Ends setting session (do record (.noted .debug text); return none : Action τ W (Option Handle))
      fun events outcome _ => asks events = [] ∧ outcome = .ok none :=
  Ends.resume (run_record ..) (Array.toList_push ..) (Ends.pure ⟨rfl, rfl⟩)

/-- There is no handle for a delete that is over once it is answered. -/
theorem delete_answers (kind : Kind) (group : String) (name : Option String) :
    if setting.provider.deletesAtOnce kind then
      Answers setting session (Access.delete kind group name) (.delete kind group name)
        (fun reply result => result = (fun _ => none) <$> reply)
        "delete" ⟨kind.label, group, name⟩ none
    else
      Answers setting session (Access.delete kind group name) (.beginDelete kind group name)
        (fun reply result => result = reply) "delete" ⟨kind.label, group, name⟩ none := by
  split
  next honce =>
    apply Ends.ofSetting
    rw [if_pos honce]
    refine answers_of_ask fun reply between => ⟨_, rfl, ?_⟩
    cases reply with
    | ok _ => exact Ends.pure ⟨rfl, .value _⟩
    | error fault => exact orGone_answers rfl (goneNote_ends _)
  next honce =>
    apply Ends.ofSetting
    rw [if_neg honce]
    refine answers_of_ask fun reply between => ⟨_, rfl, ?_⟩
    cases reply with
    | ok handle => exact Ends.pure ⟨rfl, .value _⟩
    | error fault => exact orGone_answers rfl (goneNote_ends _)

/-- The listing of a group, and what is made of it. -/
theorem members_ends (group : String) :
    Ends setting session (Access.members group) fun events outcome _ =>
      ∃ listing members, events = [.asked (.members group) listing] ∧
        listing.Gives View.member members ∧
          Answered "list" ⟨"resource group", group, some "*"⟩ none (some <$> members) outcome := by
  have hask : Ends setting session (ask (.members group)) fun events outcome _ =>
      ∃ listing, outcome = .ok listing ∧ events = [.asked _ listing] :=
    Ends.ask fun listing _ _ _ => ⟨listing, rfl, rfl⟩
  refine Ends.bind hask ?_ (by rintro _ _ _ ⟨_, ⟨⟩, -⟩)
  rintro events listing after ⟨_, ⟨⟩, rfl⟩
  have hgives := readListing_gives View.member listing
  cases hread : Access.readListing View.member listing with
  | ok members =>
    rw [hread] at hgives
    exact Ends.pure ⟨listing, _, rfl, hgives, .value _⟩
  | error fault =>
    rw [hread] at hgives
    have hgone : Ends setting after (Access.orGone fault "list" ⟨"resource group", group, some "*"⟩
        (pure none : Action τ W (Option (List View.Member))))
        fun events outcome _ => events = [] ∧ Answered "list" _ none (.error fault) outcome :=
      orGone_answers rfl (Ends.pure ⟨rfl, rfl⟩)
    refine Ends.mono hgone ?_
    rintro _ outcome final ⟨rfl, hanswered⟩
    exact ⟨listing, _, rfl, hgives, hanswered⟩

/-- A group without members is told from one that is gone. -/
theorem members_answers (group : String) :
    Answers setting session (Access.members group) (.members group)
      (fun listing result => ∃ members, listing.Gives View.member members ∧
        result = some <$> members)
      "list" ⟨"resource group", group, some "*"⟩ none := by
  refine Ends.mono (members_ends group) ?_
  rintro _ outcome after ⟨listing, members, rfl, hgives, hanswered⟩
  exact ⟨rfl, ⟨listing, _, List.mem_singleton_self _, ⟨members, hgives, rfl⟩, hanswered⟩,
    hanswered.ne_response⟩

theorem deleteGroup_answers (group : String) :
    Answers setting session (Access.deleteGroup group) (.beginDeleteGroup group)
      (fun reply result => result = reply) "delete" ⟨"resource group", group, some group⟩ none := by
  refine answers_of_ask fun reply between => ⟨_, rfl, ?_⟩
  cases reply with
  | ok handle => exact Ends.pure ⟨rfl, .value _⟩
  | error fault => exact orGone_answers rfl (goneNote_ends _)

/-- Each access asks once, and tells apart what it is answered. A listing is given with all of its
items in order or not at all; a resource that is not found is gone, also where a listing breaks off
for it; any other error response becomes a report that carries the code, the group and the name, and
says that its subject is in use exactly if the code does; every other fault passes unchanged, and so
does the fault of a view, which only misses something. No error response leaves an access. -/
theorem replies_are_told_apart (setting : Setting τ W) (session : Session τ W) (kind : Kind)
    (group name : String) (target : Option String) :
    Answers setting session (Access.get kind group name) (.get kind group name)
      (fun reply result => result = reply >>= fun object => some <$> kind.view object)
      "get" ⟨kind.label, group, some name⟩ none ∧
    (if setting.provider.deletesAtOnce kind then
      Answers setting session (Access.delete kind group target) (.delete kind group target)
        (fun reply result => result = (fun _ => none) <$> reply)
        "delete" ⟨kind.label, group, target⟩ none
    else
      Answers setting session (Access.delete kind group target) (.beginDelete kind group target)
        (fun reply result => result = reply) "delete" ⟨kind.label, group, target⟩ none) ∧
    Answers setting session (Access.list kind group) (.list kind group)
      (Listing.Gives kind.view) "list" ⟨kind.label, group, some "*"⟩ [] ∧
    Answers setting session (Access.members group) (.members group)
      (fun listing result => ∃ members, listing.Gives View.member members ∧
        result = some <$> members)
      "list" ⟨"resource group", group, some "*"⟩ none ∧
    Answers setting session (Access.deleteGroup group) (.beginDeleteGroup group)
      (fun reply result => result = reply) "delete" ⟨"resource group", group, some group⟩ none ∧
    (∀ object, OnlyMisses (kind.view object)) ∧ ∀ object, OnlyMisses (View.member object) :=
  ⟨get_answers kind group name, delete_answers kind group target, list_answers kind group,
    members_answers group, deleteGroup_answers group, kind.view_onlyMisses,
    View.member_onlyMisses⟩

end Reclaim
