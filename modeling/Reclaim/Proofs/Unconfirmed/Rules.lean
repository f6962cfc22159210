import Reclaim.Proofs.Unconfirmed.Spec

/-!
# Keeping account of deletes given up

Each delete that is given up makes a debt: a resource that is still to be named in a report. An
action is judged by the debts with which it starts and by those that it leaves, one rule for each
way to build an action.
-/

namespace Reclaim

open Reclaim.Action

variable {τ W α β : Type}

/-! ## Events -/

theorem openings_append (events more : List (Event τ)) :
    openings (events ++ more) = openings events ++ openings more :=
  List.filterMap_append

theorem Reported.append_left {events : List (Event τ)} {removal : Removal}
    (h : Reported events removal) (more : List (Event τ)) : Reported (events ++ more) removal := by
  obtain ⟨entry, hmem, hentry⟩ := h
  exact ⟨entry, List.mem_append_left _ hmem, hentry⟩

theorem Reported.append_right {more : List (Event τ)} {removal : Removal}
    (h : Reported more removal) (events : List (Event τ)) : Reported (events ++ more) removal := by
  obtain ⟨entry, hmem, hentry⟩ := h
  exact ⟨entry, List.mem_append_right _ hmem, hentry⟩

theorem GivesUp.isNotice {handle : Handle} {told notice : Event τ}
    (h : GivesUp handle told notice) : notice.IsNotice := by
  cases h with
  | failed hentry => exact List.mem_pair.mpr (.inl hentry)
  | timedOut hentry => exact List.mem_pair.mpr (.inr hentry)

theorem GivesUp.handle_eq {handle other : Handle} {told notice notice' : Event τ}
    (h : GivesUp handle told notice) (h' : GivesUp other told notice') : handle = other := by
  cases h with
  | failed =>
    cases h'
    rfl
  | timedOut =>
    cases h'
    rfl

/-- The events settle the debts with which they start, and name what is given up in them, except
for what they leave as debts. `opened` holds the deletes that were under way before. -/
structure Accounted (operation : Operation) (opened : List (Removal × Handle))
    (debts left : List Removal) (events : List (Event τ)) : Prop where
  /-- Which handle a notice is about is told right before it. -/
  starts : ∀ notice rest, events = notice :: rest → ¬ notice.IsNotice
  named : ∀ before told notice later handle, events = before ++ told :: notice :: later →
    GivesUp handle told notice → ∃ removal, (removal, handle) ∈ opened ++ openings before ∧
      ∀ reported ∈ operation.reportedAs removal, Reported later reported ∨ reported ∈ left
  settled : ∀ removal ∈ debts, Reported events removal ∨ removal ∈ left

variable {operation : Operation} {opened : List (Removal × Handle)}
variable {debts left left' : List Removal}

theorem accounted_of_quiet {events : List (Event τ)} (h : ∀ event ∈ events, ¬ event.IsNotice)
    (hdebts : ∀ removal ∈ debts, Reported events removal ∨ removal ∈ left) :
    Accounted operation opened debts left events where
  starts := by
    rintro notice rest rfl
    exact h notice List.mem_cons_self
  named := by
    rintro before told notice later handle rfl hgives
    exact absurd hgives.isNotice (h notice (by simp))
  settled := hdebts

theorem Accounted.mono {events : List (Event τ)} (h : Accounted operation opened debts left events)
    (hleft : ∀ removal ∈ left, removal ∈ left') :
    Accounted operation opened debts left' events where
  starts := h.starts
  named before told notice later handle hevents hgives := by
    obtain ⟨removal, hopened, hnamed⟩ := h.named before told notice later handle hevents hgives
    exact ⟨removal, hopened, fun reported hreported =>
      (hnamed reported hreported).imp_right (hleft reported)⟩
  settled removal hremoval := (h.settled removal hremoval).imp_right (hleft removal)

theorem Accounted.append {mid : List Removal} {events more : List (Event τ)}
    (h : Accounted operation opened debts mid events)
    (hmore : Accounted operation (opened ++ openings events) mid left more) :
    Accounted operation opened debts left (events ++ more) where
  starts notice rest hevents := by
    cases events with
    | nil => exact hmore.starts notice rest hevents
    | cons first others =>
      obtain ⟨rfl, -⟩ := List.cons.inj hevents
      exact h.starts first others rfl
  named before told notice later handle hevents hgives := by
    rcases List.append_eq_append_iff.mp hevents with
      ⟨between, rfl, hmiddle⟩ | ⟨between, hmiddle, hsplit⟩
    · obtain ⟨removal, hopened, hnamed⟩ :=
        hmore.named between told notice later handle hmiddle hgives
      refine ⟨removal, ?_, hnamed⟩
      rw [openings_append, ← List.append_assoc]
      exact hopened
    · -- The notice stands in the first part, or it would be the first of the others.
      match between, hsplit with
      | [], hsplit =>
        obtain ⟨removal, hopened, hnamed⟩ :=
          hmore.named [] told notice later handle hsplit.symm hgives
        rw [List.append_nil] at hmiddle
        refine ⟨removal, ?_, hnamed⟩
        rw [← hmiddle]
        simpa [openings] using hopened
      | [last], hsplit =>
        obtain ⟨-, hrest⟩ := List.cons.inj hsplit
        exact absurd hgives.isNotice (hmore.starts notice later hrest.symm)
      | _ :: _ :: rest, hsplit =>
        obtain ⟨rfl, hrest⟩ := List.cons.inj hsplit
        obtain ⟨rfl, rfl⟩ := List.cons.inj hrest
        obtain ⟨removal, hopened, hnamed⟩ := h.named before told notice rest handle hmiddle hgives
        refine ⟨removal, hopened, fun reported hreported => ?_⟩
        rcases hnamed reported hreported with hreport | hmid
        · exact .inl (hreport.append_left _)
        · exact (hmore.settled reported hmid).imp_left fun hreport => hreport.append_right _
  settled removal hremoval := by
    rcases h.settled removal hremoval with hreport | hmid
    · exact .inl (hreport.append_left _)
    · exact (hmore.settled removal hmid).imp_left fun hreport => hreport.append_right _

/-! ## Actions -/

def Sound (events : List (Event τ)) : Prop := ∀ event ∈ events, event.IsSound

theorem sound_append {events more : List (Event τ)} :
    Sound (events ++ more) ↔ Sound events ∧ Sound more :=
  List.forall_mem_append

namespace Action

/-- The debts that are left, by the outcome. Whoever handles a fault answers for `base` only. -/
def leaves (base : List Removal) (owed : α → List Removal) : Except Stop α → List Removal
  | .ok a => owed a
  | .error _ => base

/-- Run after that past with these debts, the action accounts for what is given up in it, and
leaves the debts `owed` with its value, if the provider behaves soundly and no tracker runs out of
polls. Of all that happened and of the value `post` is known in any case. -/
def Accounts (operation : Operation) (base : List Removal) (past : List (Event τ))
    (debts : List Removal) (action : Action τ W α) (post : List (Event τ) → α → Prop)
    (owed : α → List Removal) : Prop :=
  ∀ setting session, Ends setting session action fun events outcome _ =>
    (outcome ≠ .error .unfinished → Sound (past ++ events) →
      Accounted operation (openings past) debts (leaves base owed outcome) events) ∧
        ∀ a, outcome = .ok a → post (past ++ events) a

variable {base : List Removal} {past : List (Event τ)} {action : Action τ W α}
variable {next : α → Action τ W β} {owed owed' : α → List Removal}
variable {post post' : List (Event τ) → α → Prop}

theorem Accounts.mono (h : Accounts operation base past debts action post owed)
    (hpost : ∀ events a, post (past ++ events) a → post' (past ++ events) a)
    (howed : ∀ a, ∀ removal ∈ owed a, removal ∈ owed' a) :
    Accounts operation base past debts action post' owed' := by
  intro setting session
  refine Ends.mono (h setting session) ?_
  rintro events outcome after ⟨haccounted, hvalue⟩
  refine ⟨fun hfinished hsound => (haccounted hfinished hsound).mono ?_,
    fun a ha => hpost events a (hvalue a ha)⟩
  cases outcome with
  | ok a => exact howed a
  | error reason => exact fun _ h => h

theorem Accounts.pure {a : α} (h : post past a) (howed : ∀ removal ∈ debts, removal ∈ owed a) :
    Accounts operation base past debts (pure a : Action τ W α) post owed := by
  intro setting session
  refine Ends.pure ⟨fun _ _ => ?_, ?_⟩
  · exact accounted_of_quiet (by simp) fun removal hremoval => .inr (howed removal hremoval)
  · rintro _ ⟨⟩
    simpa using h

theorem Accounts.stop {reason : Stop} :
    Accounts operation base past base (stop reason : Action τ W α) post owed := by
  intro setting session
  refine Ends.stop ⟨fun _ _ => ?_, nofun⟩
  exact accounted_of_quiet (by simp) fun removal hremoval => .inr hremoval

theorem Accounts.bind {mid : List (Event τ) → α → Prop} {post : List (Event τ) → β → Prop}
    {owed' : β → List Removal} (h : Accounts operation base past debts action mid owed)
    (hnext : ∀ events a, mid (past ++ events) a →
      Accounts operation base (past ++ events) (owed a) (next a) post owed') :
    Accounts operation base past debts (action >>= next) post owed' := by
  intro setting session
  refine Ends.bind (h setting session) ?_ ?_
  · rintro events a after ⟨haccounted, hvalue⟩
    refine Ends.mono (hnext events a (hvalue a rfl) setting after) ?_
    rintro more outcome final ⟨hmore, hresult⟩
    rw [← List.append_assoc]
    refine ⟨fun hfinished hsound => ?_, hresult⟩
    have hfirst := haccounted (by simp) (sound_append.mp hsound).1
    have hrest := hmore hfinished hsound
    rw [openings_append] at hrest
    exact hfirst.append hrest
  · rintro events reason after ⟨haccounted, -⟩
    exact ⟨fun hfinished => haccounted (by simpa using hfinished), nofun⟩

theorem Accounts.rescue {handle : Fault → Action τ W α}
    (h : Accounts operation base past debts action post owed)
    (hhandle : ∀ events fault,
      Accounts operation base (past ++ events) base (handle fault) post owed) :
    Accounts operation base past debts (rescue action handle) post owed := by
  intro setting session
  refine Ends.rescue (h setting session) (fun _ _ _ hend => hend) ?_ (fun _ _ hend => hend)
  rintro events fault after ⟨haccounted, -⟩
  refine Ends.mono (hhandle events fault setting after) ?_
  rintro more outcome final ⟨hmore, hresult⟩
  rw [← List.append_assoc]
  refine ⟨fun hfinished hsound => ?_, hresult⟩
  have hfirst := haccounted (by simp) (sound_append.mp hsound).1
  have hrest := hmore hfinished hsound
  rw [openings_append] at hrest
  exact hfirst.append hrest

/-- A value that can be told from what was seen of a sound provider, or the end of the action. -/
theorem Accounts.ofExcept {result : Except Fault α} (h : Sound past → ∃ a, result = .ok a) :
    Accounts operation base past debts (ofExcept result : Action τ W α)
      (fun events a => events = past ∧ result = .ok a) fun _ => debts := by
  cases result with
  | ok a => exact .pure ⟨rfl, rfl⟩ fun _ h => h
  | error fault =>
    intro setting session
    refine Ends.stop ⟨fun _ hsound => ?_, nofun⟩
    rw [List.append_nil] at hsound
    obtain ⟨a, ha⟩ := h hsound
    cases ha

/-! ## Quiet actions -/

/-- No tracker gives anything up. -/
def Quiet : Rule τ := fun _ event => ¬ event.IsNotice

theorem not_isNotice_of_obeys {events : List (Event τ)} (h : Obeys Quiet past events) :
    ∀ event ∈ events, ¬ event.IsNotice := by
  intro event hevent
  obtain ⟨before, hquiet⟩ := h.mem hevent
  exact hquiet

/-- What gives nothing up may raise, if no debts are left but those that the handler knows of. -/
theorem Accounts.quiet (h : Keeps Quiet past action post) :
    Accounts operation base past base action post fun _ => base := by
  intro setting session
  refine Ends.mono (h setting session) ?_
  rintro events outcome after ⟨hobeys, hvalue⟩
  refine ⟨fun _ _ => accounted_of_quiet (not_isNotice_of_obeys hobeys) fun removal hremoval => ?_,
    hvalue⟩
  right
  cases outcome <;> exact hremoval

theorem NeverRaises.ends {setting : Setting τ W} {session : Session τ W}
    {final : List (Event τ) → Except Stop α → Session τ W → Prop} (hraises : NeverRaises action)
    (h : Ends setting session action final) :
    Ends setting session action fun events outcome after =>
      final events outcome after ∧ ∀ fault, outcome ≠ .error (.raised fault) := by
  obtain ⟨events, htrace, hfinal⟩ := h
  refine ⟨events, htrace, hfinal, fun fault hfault => ?_⟩
  cases hrun : action.run setting session with
  | ok a after =>
    rw [hrun] at hfault
    cases hfault
  | error reason after =>
    rw [hrun] at hfault
    cases hfault
    exact hraises setting session fault after hrun

/-- What cannot raise leaves the debts as they are. -/
theorem Accounts.calm (h : Keeps Quiet past action post) (hraises : NeverRaises action) :
    Accounts operation base past debts action post fun _ => debts := by
  intro setting session
  refine Ends.mono (hraises.ends (h setting session)) ?_
  rintro events outcome after ⟨⟨hobeys, hvalue⟩, hcalm⟩
  refine ⟨fun hfinished _ => accounted_of_quiet (not_isNotice_of_obeys hobeys)
    fun removal hremoval => .inr ?_, hvalue⟩
  cases outcome with
  | ok a => exact hremoval
  | error reason =>
    cases reason with
    | raised fault => exact absurd rfl (hcalm fault)
    | unfinished => exact absurd rfl hfinished

/-- Where nothing can be raised, it does not matter what a handler would answer for. -/
theorem Accounts.of_neverRaises {base' : List Removal}
    (h : Accounts operation base past debts action post owed) (hraises : NeverRaises action) :
    Accounts operation base' past debts action post owed := by
  intro setting session
  refine Ends.mono (hraises.ends (h setting session)) ?_
  rintro events outcome after ⟨⟨haccounted, hvalue⟩, hcalm⟩
  refine ⟨fun hfinished hsound => ?_, hvalue⟩
  cases outcome with
  | ok a => exact haccounted hfinished hsound
  | error reason =>
    cases reason with
    | raised fault => exact absurd rfl (hcalm fault)
    | unfinished => exact absurd rfl hfinished

theorem quiet_logged {channel : Log.Channel} {event : String} {fields : Log.Fields}
    {fault : Option Fault} (h : event ∉ Deletion.noticeWords) :
    Quiet past (.logged ⟨channel, event, fields, fault⟩) := h

theorem Accounts.log {channel : Log.Channel} {event : String} {fields : Log.Fields}
    (h : event ∉ Deletion.noticeWords) :
    Accounts operation base past debts (log channel event fields : Action τ W Unit)
      (fun _ _ => True) fun _ => debts :=
  .calm (Keeps.log (quiet_logged h)).always .record

theorem Accounts.mayLog {c : Prop} [Decidable c] {channel : Log.Channel} {event : String}
    {fields : Log.Fields} {next : Unit → Action τ W β} {post : List (Event τ) → β → Prop}
    {owed : β → List Removal} (h : event ∉ Deletion.noticeWords)
    (hnext : ∀ events, Accounts operation base (past ++ events) debts (next ()) post owed) :
    Accounts operation base past debts
      (if c then Action.log channel event fields >>= next else next ()) post owed := by
  split
  · exact .bind (.log h) fun events _ _ => hnext events
  · simpa using hnext []

/-- An entry at the level of warnings settles the debts that it names. -/
theorem Accounts.warn {channel : Log.Channel} {event : String} {fields : Log.Fields}
    {settled : List Removal} (h : event ∉ Deletion.noticeWords)
    (hlevel : Log.Channel.warning.weight ≤ channel.weight)
    (hnames : ∀ removal ∈ settled, Log.Entry.Names ⟨channel, event, fields, none⟩ removal) :
    Accounts operation base past (settled ++ debts)
      (Action.log channel event fields : Action τ W Unit) (fun _ _ => True) fun _ => debts := by
  intro setting session
  refine Ends.record ⟨fun _ _ => accounted_of_quiet ?_ ?_, fun _ _ => trivial⟩
  · intro entry hentry
    rw [List.mem_singleton.mp hentry]
    exact h
  · intro removal hremoval
    rcases List.mem_append.mp hremoval with hsettled | hlater
    · exact .inl ⟨_, List.mem_singleton_self _, hlevel, hnames removal hsettled⟩
    · exact .inr hlater

/-- What is warned of if the delete was not confirmed, and then the rest. -/
theorem Accounts.mayWarn {confirmed : Bool} {event : String} {fields : Log.Fields}
    {settled : List Removal} {next : Unit → Action τ W β} {post : List (Event τ) → β → Prop}
    {owed : β → List Removal} (h : event ∉ Deletion.noticeWords)
    (hnames : ∀ removal ∈ settled, Log.Entry.Names ⟨.warning, event, fields, none⟩ removal)
    (hnext : ∀ events, Accounts operation base (past ++ events) debts (next ()) post owed) :
    Accounts operation base past (if confirmed then debts else settled ++ debts)
      (if (!confirmed) = true then Action.log .warning event fields >>= next else next ())
      post owed := by
  cases confirmed with
  | true =>
    simp only [Bool.not_true, if_true, Bool.false_eq_true, if_false]
    simpa using hnext []
  | false =>
    simp only [Bool.not_false, if_true, Bool.false_eq_true, if_false]
    exact .bind (.warn h (Nat.le_refl _) hnames) fun events _ _ => hnext events

end Action

end Reclaim
