import Reclaim.Proofs.Turns.Disks
import Reclaim.Proofs.Turns.Interfaces
import Reclaim.Proofs.Ids.Interchange

/-!
# The networks of a group, in turn

The listing is read to its end before a delete is asked for. Then each network with our tag is
deleted and looked for, in the order of the listing. One that is in use, not confirmed or still
listed holds up no other; any other fault of a delete ends the scan.
-/

namespace Reclaim

open Reclaim.Action

variable {τ W : Type}

/-! ## Which networks -/

/-- The networks in the listing that carry the tag. -/
def Listing.tagged (tag : String) (listing : Listing Model.Tagged) : List Model.Tagged :=
  (listing.items.filterMap id).filter fun network => Ownership.hasTag tag network.tags

/-- The listing cannot be read to its end: an item is missing, or the listing itself fails. -/
inductive Listing.FailsWith (listing : Listing Model.Tagged) : Fault → Prop
  | missing (hitem : none ∈ listing.items) : FailsWith listing (.missingObject "id")
  | ended {fault : Fault} (hitems : none ∉ listing.items)
      (hfailure : listing.failure = some fault) : FailsWith listing fault

theorem readListing_eq_error {listing : Listing Model.Tagged} {fault : Fault}
    (h : Access.readListing (View.need "id") listing = .error fault) : listing.FailsWith fault := by
  unfold Access.readListing at h
  cases hmap : listing.items.mapM (View.need "id") with
  | error first =>
    rw [hmap] at h
    obtain rfl : first = fault := Except.error.inj h
    obtain ⟨item, hitem, hneed⟩ := exists_of_mapM_error hmap
    cases item with
    | some network => cases hneed
    | none =>
      obtain rfl : .missingObject "id" = first := Except.error.inj hneed
      exact .missing hitem
  | ok networks =>
    rw [hmap] at h
    have hitems : none ∉ listing.items := by
      rw [View.eq_map_of_mapM_need hmap]
      simp
    cases hfailure : listing.failure with
    | none =>
      rw [hfailure] at h
      cases h
    | some last =>
      rw [hfailure] at h
      obtain rfl : last = fault := Except.error.inj h
      exact .ended hitems hfailure

theorem readListing_eq_ok {listing : Listing Model.Tagged} {networks : List Model.Tagged}
    (h : Access.readListing (View.need "id") listing = .ok networks) :
    listing.failure = none ∧ listing.items = networks.map some := by
  unfold Access.readListing at h
  cases hmap : listing.items.mapM (View.need "id") with
  | error first =>
    rw [hmap] at h
    cases h
  | ok found =>
    rw [hmap] at h
    cases hfailure : listing.failure with
    | some fault =>
      rw [hfailure] at h
      cases h
    | none =>
      rw [hfailure] at h
      obtain rfl : found = networks := Except.ok.inj h
      exact ⟨rfl, View.eq_map_of_mapM_need hmap⟩

theorem tagged_of_items {tag : String} {listing : Listing Model.Tagged}
    {networks : List Model.Tagged} (h : listing.items = networks.map some) :
    listing.tagged tag = networks.filter (Ownership.isOwnedNetwork tag) := by
  rw [Listing.tagged, h, List.filterMap_map]
  exact congrArg _ List.filterMap_some

/-- The deletes of networks of a group. -/
def networkRemovals (group : String) (networks : List Model.Tagged) : List Removal :=
  networks.map fun network => .resource .virtualNetwork group network.name

/-! ## Fates -/

/-- A refused delete says that its subject is in use by the code of the response. -/
theorem unlessGone_inUse_iff {response : ErrorResponse} {verb : String} {subject : Subject} :
    (∃ report, (Fault.response response).unlessGone verb subject = some (.inUse report)) ↔
      response.category ≠ .notFound ∧ ∃ code ∈ inUseCodes, response.code = some code := by
  by_cases hgone : response.category = .notFound
  · simp [Fault.unlessGone, hgone]
  · cases hcode : response.code with
    | none => simp [Fault.unlessGone, Subject.report, hgone, hcode]
    | some code => by_cases hmem : code ∈ inUseCodes <;>
        simp [Fault.unlessGone, Subject.report, hgone, hcode, hmem]

/-- What became of a network. -/
inductive NetworkFate where
  | removed (confirmed : Bool)
  | inUse (report : Report)

def NetworkFate.isSettled : NetworkFate → Bool
  | removed confirmed => confirmed
  | inUse _ => false

variable [Timescale τ]

section Turns

variable (t : Teardown τ) (setting : Setting τ W) (group : String)

def networkNotice (network : Model.Tagged) : Log.Entry :=
  ⟨.debug, "deleting_virtual_network", Teardown.about group network.name, none⟩

/-- The delete of a network was asked for and followed, once and to this outcome. -/
structure NetworkDeleted (session : Session τ W) (network : Model.Tagged) (events : List (Event τ))
    (verdict : Except Stop Bool) (deleted : Session τ W) : Prop where
  run : RunsTo setting (session.logging [networkNotice group network])
    (t.deleteConfirmed .virtualNetwork group network.name) verdict deleted
  calls : calls events = [setting.provider.deleteRequest .virtualNetwork group network.name]

/-- How a network meets its fate. -/
inductive NetworkMeets (session : Session τ W) (network : Model.Tagged) :
    NetworkFate → List (Event τ) → Prop
  /-- Its delete has a verdict. It is then looked for in the listing of its group, and what is found
  there has no say. -/
  | removed {confirmed left : Bool} {id : ResourceId} {deleting looking : List (Event τ)}
      {deleted looked : Session τ W}
      (hdeleted : NetworkDeleted t setting group session network deleting (.ok confirmed) deleted)
      (hid : network.reference = .ok id)
      (hlooked : (t.hasLeft id).run setting deleted = .ok left looked)
      (hcalls : ∀ call ∈ calls looking, call = .members id.group) :
      NetworkMeets session network (.removed confirmed) (deleting ++ looking)
  /-- Its delete has no verdict, because it is in use. -/
  | inUse {report : Report} {deleting : List (Event τ)} {deleted : Session τ W}
      (hdeleted : NetworkDeleted t setting group session network deleting
        (.error (.raised (.inUse report))) deleted)
      (hblames : DeleteRaised .virtualNetwork group network.name deleting (.inUse report)) :
      NetworkMeets session network (.inUse report) deleting

/-- A network was handled, without a fault to the outside. -/
structure NetworkHandled (session : Session τ W) (turn : Turn τ Model.Tagged NetworkFate)
    (after : Session τ W) : Prop where
  run : (t.tryNetwork group turn.item).run setting session = .ok turn.result.isSettled after
  meets : NetworkMeets t setting group session turn.item turn.result turn.events

/-- The handling of a network ended the scan. -/
inductive NetworkStopped (session : Session τ W) (network : Model.Tagged) :
    List (Event τ) → Stop → Session τ W → Prop
  /-- Its delete has no verdict, for another reason than that it is in use. -/
  | undeleted {reason : Stop} {events : List (Event τ)} {deleted : Session τ W}
      (hdeleted : NetworkDeleted t setting group session network events (.error reason) deleted)
      (hother : ∀ report, reason ≠ .raised (.inUse report))
      (hblames : ∀ fault, reason = .raised fault →
        DeleteRaised .virtualNetwork group network.name events fault) :
      NetworkStopped session network events reason deleted
  /-- Its delete has a verdict, and its id cannot be read. -/
  | unreadable {confirmed : Bool} {fault : Fault} {events : List (Event τ)} {deleted : Session τ W}
      (hdeleted : NetworkDeleted t setting group session network events (.ok confirmed) deleted)
      (hid : network.reference = .error fault) :
      NetworkStopped session network events (.raised fault) deleted
  /-- It is looked for without end. -/
  | unseen {confirmed : Bool} {id : ResourceId} {deleting looking : List (Event τ)}
      {deleted after : Session τ W}
      (hdeleted : NetworkDeleted t setting group session network deleting (.ok confirmed) deleted)
      (hid : network.reference = .ok id)
      (hlooked : (t.hasLeft id).run setting deleted = .error .unfinished after)
      (hcalls : ∀ call ∈ calls looking, call = .members id.group) :
      NetworkStopped session network (deleting ++ looking) .unfinished after

/-- How the removal of a group's networks ends. -/
inductive NetworksEnd (session : Session τ W) :
    List (Event τ) → Except Stop Bool → Session τ W → Prop
  /-- The listing fails, if only behind some items, and nothing is deleted. -/
  | unlisted {listing : Listing Model.Tagged} {original fault : Fault} {listed : Session τ W}
      (hfails : listing.FailsWith original)
      (hreport : original.unlessGone "list" ⟨Kind.label .virtualNetwork, group, some "*"⟩ =
        some fault) :
      NetworksEnd session [.asked (.list .virtualNetwork group) listing] (.error (.raised fault))
        listed
  /-- The group is not found, and so has no networks. -/
  | absent {listing : Listing Model.Tagged} {response : ErrorResponse} {listed : Session τ W}
      (hfails : listing.FailsWith (.response response)) (hgone : response.category = .notFound) :
      NetworksEnd session [.asked (.list .virtualNetwork group) listing] (.ok true) listed
  /-- The networks of a complete listing with our tag are handled in turn. -/
  | scanned {listing : Listing Model.Tagged} {scanning : List (Event τ)}
      {result : Except Stop (List (Turn τ Model.Tagged NetworkFate))} {listed after : Session τ W}
      (hcomplete : listing.failure = none) (hitems : none ∉ listing.items)
      (hlisted : ∃ networks, (Access.list .virtualNetwork group).run setting session =
        .ok networks listed)
      (hround : Round (NetworkHandled t setting group) (NetworkStopped t setting group) listed
        (listing.tagged t.ownershipTag) scanning result after)
      (hordered : removals scanning <+: networkRemovals group (listing.tagged t.ownershipTag))
      (hall : ∀ turns, result = .ok turns →
        removals scanning = networkRemovals group (listing.tagged t.ownershipTag)) :
      NetworksEnd session (.asked (.list .virtualNetwork group) listing :: scanning)
        (result.map fun turns => turns.all fun turn => turn.result.isSettled) after

end Turns

/-! ## One network -/

variable {t : Teardown τ} {setting : Setting τ W} {session : Session τ W} {group : String}
variable {network : Model.Tagged}

theorem hasLeft_ends (id : ResourceId) :
    Ends setting session (t.hasLeft id) fun events outcome after =>
      (∀ call ∈ calls events, call = .members id.group) ∧
        RunsTo setting session (t.hasLeft id) outcome after ∧
          ∀ reason, outcome = .error reason → reason = .unfinished := by
  refine Ends.mono (Ends.runs (hasLeft_takesTurn id session)) ?_
  rintro events outcome after ⟨⟨left, rfl, hlooked⟩ | ⟨reason, rfl, hlooked⟩, hrun⟩
  · exact ⟨fun call hcall => List.mem_singleton.mp (hlooked.asks (calls_subset_asks _ hcall)), hrun,
      nofun⟩
  · refine ⟨fun call hcall => List.mem_singleton.mp (hlooked.asks (calls_subset_asks _ hcall)),
      hrun, ?_⟩
    rintro _ ⟨⟩
    exact hlooked.unfinished

omit [Timescale τ] in
/-- The remarks on a network change nothing more. -/
theorem networkRemarks_end {left confirmed : Bool} :
    Ends setting session (do
      if !left then log .warning "virtual_network_still_listed" (Teardown.about group network.name)
      if !confirmed then
        log .warning "virtual_network_not_deleted" (Teardown.about group network.name)
      return confirmed : Action τ W Bool)
      fun events outcome _ => calls events = [] ∧ outcome = .ok confirmed := by
  cases left <;> cases confirmed
  · exact Ends.log (Ends.log (Ends.pure ⟨rfl, rfl⟩))
  · exact Ends.log (Ends.pure ⟨rfl, rfl⟩)
  · exact Ends.log (Ends.pure ⟨rfl, rfl⟩)
  · exact Ends.pure ⟨rfl, rfl⟩

omit [Timescale τ] in
theorem reference_ne_inUse {named : Named} {report : Report} :
    named.reference ≠ .error (.inUse report) := by
  obtain ⟨text, name⟩ := named
  cases text with
  | none => rintro ⟨⟩
  | some text =>
    change (ResourceId.parse? text).elim (.error (.malformedId text)) (.ok : _ → Except Fault _) ≠ _
    cases ResourceId.parse? text <;> rintro ⟨⟩

theorem removeNetwork_meetsFate (network : Model.Tagged) :
    Ends setting session (t.removeNetwork group network) fun events outcome after =>
      (∃ confirmed, outcome = .ok confirmed ∧
        NetworkMeets t setting group session network (.removed confirmed) events) ∨
      (∃ report, outcome = .error (.raised (.inUse report)) ∧
        NetworkMeets t setting group session network (.inUse report) events) ∨
      ∃ reason, outcome = .error reason ∧ (∀ report, reason ≠ .raised (.inUse report)) ∧
        NetworkStopped t setting group session network events reason after := by
  unfold Teardown.removeNetwork
  refine Ends.log ?_
  rw [← bind_assoc]
  refine Ends.bind (Ends.runs deleteConfirmed_ends) ?_ ?_
  · rintro deleting confirmed deleted ⟨⟨hcalls, -⟩, hrun⟩
    have hdeleted : NetworkDeleted t setting group session network
        (.logged (networkNotice group network) :: deleting) (.ok confirmed) deleted :=
      ⟨hrun, hcalls⟩
    cases hid : network.reference with
    | error fault =>
      refine Ends.stop (.inr (.inr ⟨_, rfl, ?_, ?_⟩))
      · rintro report ⟨⟩
        exact reference_ne_inUse hid
      · rw [List.append_nil]
        exact .unreadable hdeleted hid
    | ok id =>
      rw [ofExcept_ok, pure_bind]
      refine Ends.bind (hasLeft_ends id) ?_ ?_
      · rintro looking left looked ⟨hmembers, hlooked, -⟩
        refine Ends.mono networkRemarks_end ?_
        rintro remarks _ after ⟨hnone, rfl⟩
        refine .inl ⟨confirmed, rfl, ?_⟩
        rw [← List.cons_append]
        refine .removed hdeleted hid hlooked.eq_ok ?_
        rw [calls_append, hnone, List.append_nil]
        exact hmembers
      · rintro looking reason after ⟨hmembers, hlooked, hreason⟩
        obtain rfl := hreason reason rfl
        refine .inr (.inr ⟨_, rfl, nofun, ?_⟩)
        rw [← List.cons_append]
        exact .unseen hdeleted hid hlooked.eq_error hmembers
  · rintro deleting reason deleted ⟨⟨hcalls, hblames⟩, hrun⟩
    have hdeleted : NetworkDeleted t setting group session network
        (.logged (networkNotice group network) :: deleting) (.error reason) deleted :=
      ⟨hrun, hcalls⟩
    by_cases hinUse : ∃ report, reason = .raised (.inUse report)
    · obtain ⟨report, rfl⟩ := hinUse
      exact .inr (.inl ⟨report, rfl, .inUse hdeleted ((hblames _ rfl).after [_])⟩)
    · rw [not_exists] at hinUse
      refine .inr (.inr ⟨reason, rfl, hinUse, .undeleted hdeleted hinUse ?_⟩)
      rintro fault rfl
      exact (hblames fault rfl).after [_]

theorem NetworkMeets.append {fate : NetworkFate} {events more : List (Event τ)}
    (h : NetworkMeets t setting group session network fate events) (hmore : calls more = []) :
    NetworkMeets t setting group session network fate (events ++ more) := by
  cases h with
  | removed hdeleted hid hlooked hcalls =>
    rw [List.append_assoc]
    refine .removed hdeleted hid hlooked ?_
    rw [calls_append, hmore, List.append_nil]
    exact hcalls
  | inUse hdeleted hblames =>
    refine .inUse ⟨hdeleted.run, ?_⟩ (hblames.append more)
    rw [calls_append, hmore, List.append_nil, hdeleted.calls]

theorem tryNetwork_takesTurn : TakesTurn setting (NetworkHandled t setting group)
    (NetworkStopped t setting group) NetworkFate.isSettled (t.tryNetwork group) := by
  intro network session
  have hends : Ends setting session (t.tryNetwork group network) fun events outcome after =>
      (∃ fate, outcome = .ok fate.isSettled ∧
        NetworkMeets t setting group session network fate events) ∨
      ∃ reason, outcome = .error reason ∧
        NetworkStopped t setting group session network events reason after := by
    refine Ends.rescue (removeNetwork_meetsFate network) ?_ ?_ ?_
    · rintro events confirmed after (⟨_, ⟨⟩, hmeets⟩ | ⟨_, ⟨⟩, -⟩ | ⟨_, ⟨⟩, -⟩)
      exact .inl ⟨.removed confirmed, rfl, hmeets⟩
    · rintro events fault after (⟨_, ⟨⟩, -⟩ | ⟨report, ⟨⟩, hmeets⟩ | ⟨_, ⟨⟩, hother, hstopped⟩)
      · exact Ends.log (Ends.pure (.inl ⟨.inUse report, rfl, hmeets.append rfl⟩))
      · split
        next report => exact absurd rfl (hother report)
        next =>
          refine Ends.stop (.inr ⟨_, rfl, ?_⟩)
          rwa [List.append_nil]
    · rintro events after (⟨_, ⟨⟩, -⟩ | ⟨_, ⟨⟩, -⟩ | ⟨_, ⟨⟩, -, hstopped⟩)
      exact .inr ⟨.unfinished, rfl, hstopped⟩
  refine Ends.mono (Ends.runs hends) ?_
  rintro events outcome after ⟨⟨fate, rfl, hmeets⟩ | ⟨reason, rfl, hstopped⟩, hrun⟩
  · exact .inl ⟨fate, rfl, hrun.eq_ok, hmeets⟩
  · exact .inr ⟨reason, rfl, hstopped⟩

/-! ## The scan -/

/-- How the listing of a group's networks can be answered. -/
inductive NetworksListed (group : String) (listing : Listing Model.Tagged) :
    Except Stop (List Model.Tagged) → Prop
  | complete {networks : List Model.Tagged} (hcomplete : listing.failure = none)
      (hitems : listing.items = networks.map some) : NetworksListed group listing (.ok networks)
  | absent {response : ErrorResponse} (hfails : listing.FailsWith (.response response))
      (hgone : response.category = .notFound) : NetworksListed group listing (.ok [])
  | unlisted {original fault : Fault} (hfails : listing.FailsWith original)
      (hreport : original.unlessGone "list" ⟨Kind.label .virtualNetwork, group, some "*"⟩ =
        some fault) : NetworksListed group listing (.error (.raised fault))

theorem listNetworks_ends :
    Ends setting session (Access.list .virtualNetwork group) fun events outcome _ =>
      ∃ listing, events = [.asked (.list .virtualNetwork group) listing] ∧
        NetworksListed group listing outcome := by
  have hask : Ends setting session (ask (.list .virtualNetwork group)) fun events outcome _ =>
      ∃ listing, outcome = .ok listing ∧ events = [.asked _ listing] :=
    Ends.ask fun listing _ _ _ => ⟨listing, rfl, rfl⟩
  refine Ends.bind hask ?_ (by rintro _ _ _ ⟨_, ⟨⟩, -⟩)
  rintro events listing after ⟨_, ⟨⟩, rfl⟩
  cases hread : Access.readListing (Kind.view .virtualNetwork) listing with
  | ok networks =>
    obtain ⟨hcomplete, hitems⟩ := readListing_eq_ok hread
    exact Ends.pure ⟨listing, rfl, .complete hcomplete hitems⟩
  | error original =>
    have hfails := readListing_eq_error hread
    refine orGone_ends (fun hgone => ?_) fun fault hreport =>
      ⟨listing, rfl, .unlisted hfails hreport⟩
    obtain ⟨response, hcategory, rfl⟩ := Fault.unlessGone_eq_none.mp hgone
    exact Ends.pure ⟨listing, rfl, .absent hfails hcategory⟩

omit [Timescale τ] in
/-- If each turn removes one thing, also the last one of a round that is cut short, then a round
removes these in order. -/
theorem Round.removals {α β : Type} {step : Session τ W → Turn τ α β → Session τ W → Prop}
    {cut : Session τ W → α → List (Event τ) → Stop → Session τ W → Prop} {removal : α → Removal}
    {items : List α} {events : List (Event τ)} {result : Except Stop (List (Turn τ α β))}
    {after : Session τ W} (h : Round step cut session items events result after)
    (hstep : ∀ session turn after, step session turn after →
      Reclaim.removals turn.events = [removal turn.item])
    (hcut : ∀ session a events reason after, cut session a events reason after →
      Reclaim.removals events = [removal a]) :
    Reclaim.removals events <+: items.map removal ∧
      ∀ turns, result = .ok turns → Reclaim.removals events = items.map removal := by
  have hturns : ∀ {session turns after}, InTurn step session turns after →
      Reclaim.removals (happened turns) = (turns.map (·.item)).map removal := by
    intro session turns after hinTurn
    induction hinTurn with
    | none => rfl
    | turn hfirst _ _ ih =>
      rw [happened_cons, removals_append, hstep _ _ _ hfirst, ih]
      rfl
  cases h with
  | through hinTurn hitems =>
    rw [hturns hinTurn, hitems]
    exact ⟨List.prefix_rfl, fun _ _ => rfl⟩
  | cutShort hsplit hinTurn hbefore hlast =>
    refine ⟨?_, nofun⟩
    rw [removals_append, hturns hinTurn, hcut _ _ _ _ _ hlast, hbefore, hsplit, List.map_append,
      List.map_cons]
    exact List.prefix_append_right_inj _ |>.mpr (List.prefix_iff_eq_take.mpr rfl)

omit [Timescale τ] in
theorem looking_removes {id : ResourceId} {looking : List (Event τ)}
    (h : ∀ call ∈ calls looking, call = .members id.group) : removals looking = [] := by
  refine List.filterMap_eq_nil_iff.mpr fun call hcall => ?_
  rw [h call hcall]
  rfl

theorem NetworkMeets.removals {fate : NetworkFate} {events : List (Event τ)}
    (h : NetworkMeets t setting group session network fate events) :
    Reclaim.removals events = [.resource .virtualNetwork group network.name] := by
  cases h with
  | removed hdeleted _ _ hcalls =>
    rw [removals_append, removals_of_delete hdeleted.calls, looking_removes hcalls]
    rfl
  | inUse hdeleted => exact removals_of_delete hdeleted.calls

theorem NetworkStopped.removals {events : List (Event τ)} {reason : Stop} {after : Session τ W}
    (h : NetworkStopped t setting group session network events reason after) :
    Reclaim.removals events = [.resource .virtualNetwork group network.name] := by
  cases h with
  | undeleted hdeleted => exact removals_of_delete hdeleted.calls
  | unreadable hdeleted => exact removals_of_delete hdeleted.calls
  | unseen hdeleted _ _ hcalls =>
    rw [removals_append, removals_of_delete hdeleted.calls, looking_removes hcalls]
    rfl

/-- The networks with our tag are removed in the order of their listing, each in a turn of its own.
The result is whether all are settled, unless the listing fails or the handling of one of them
raises, and it does not raise because a response has the code of a network in use. -/
theorem removeNetworks_ends (t : Teardown τ) (setting : Setting τ W) (session : Session τ W)
    (group : String) :
    Ends setting session (t.removeNetworks group)
        (fun events outcome after => NetworksEnd t setting group session events outcome after) ∧
      ∀ response subject,
        (∃ report, (Fault.response response).unlessGone "delete" subject = some (.inUse report)) ↔
          response.category ≠ .notFound ∧ ∃ code ∈ inUseCodes, response.code = some code := by
  refine ⟨?_, fun response subject => unlessGone_inUse_iff⟩
  unfold Teardown.removeNetworks
  refine Ends.bind (Ends.runs listNetworks_ends) ?_ ?_
  · rintro events networks listed ⟨⟨listing, rfl, hlisted⟩, hrun⟩
    cases hlisted with
    | absent hfails hgone => exact Ends.pure (.absent hfails hgone)
    | complete hcomplete hitems =>
      rw [← tagged_of_items hitems]
      refine Ends.mono (Teardown.all_isRound tryNetwork_takesTurn _) ?_
      rintro scanning _ after ⟨result, rfl, hround⟩
      obtain ⟨hordered, hall⟩ := hround.removals (fun _ _ _ h => h.meets.removals)
        fun _ _ _ _ _ h => h.removals
      exact .scanned hcomplete (by simp [hitems]) ⟨networks, hrun.eq_ok⟩ hround hordered hall
  · rintro events reason listed ⟨⟨listing, rfl, hlisted⟩, -⟩
    cases hlisted with
    | unlisted hfails hreport => exact .unlisted hfails hreport

end Reclaim
