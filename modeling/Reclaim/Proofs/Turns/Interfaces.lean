import Reclaim.Proofs.Turns.Asking

/-!
# The interfaces of a machine, in turn

An interface is read, then the ids of its public IPs, and only then is it deleted; whatever the
verdict, each of the IPs is tried next. A fault with an IP stays with it, and a fault with an
interface ends the round before the next one.
-/

namespace Reclaim

open Reclaim.Action

variable {τ W : Type}

/-! ## Fates -/

/-- What became of a public IP. -/
inductive IpFate where
  | absent
  | kept
  | removed (confirmed : Bool)
  | unread (fault : Fault)
  | unremoved (fault : Fault)

def IpFate.isSettled : IpFate → Bool
  | absent | kept => true
  | removed confirmed => confirmed
  | unread _ | unremoved _ => false

/-- The calls that a public IP has met its fate with. -/
def IpFate.calls (provider : Provider τ W) (id : ResourceId) : IpFate → List Request
  | absent | kept | unread _ => [.get .publicIp id.group id.name]
  | removed _ | unremoved _ =>
      [.get .publicIp id.group id.name,
        provider.deleteRequest .publicIp id.group (some id.name)]

/-- What became of an interface, and then of its public IPs. -/
inductive InterfaceFate (τ : Type) where
  | absent
  | removed (confirmed : Bool) (ips : List (Turn τ ResourceId IpFate))

def InterfaceFate.isSettled : InterfaceFate τ → Bool
  | absent => true
  | removed confirmed ips => confirmed && ips.all (·.result.isSettled)

variable [Timescale τ]

/-! ## Turns -/

section Turns

variable (t : Teardown τ) (setting : Setting τ W)

/-- How a public IP meets its fate. -/
inductive IpMeets (session : Session τ W) (id : ResourceId) : IpFate → Prop
  | absent {read : Session τ W}
      (hget : (Access.get .publicIp id.group id.name).run setting session = .ok none read) :
      IpMeets session id .absent
  | kept {ip : Model.Tagged} {read : Session τ W}
      (hget : (Access.get .publicIp id.group id.name).run setting session = .ok (some ip) read)
      (htag : Ownership.isGenerated t.generatedTag ip = false) : IpMeets session id .kept
  | removed {ip : Model.Tagged} {confirmed : Bool} {read : Session τ W}
      (hget : (Access.get .publicIp id.group id.name).run setting session = .ok (some ip) read)
      (htag : Ownership.isGenerated t.generatedTag ip = true)
      (hdelete : outcome ((t.deleteConfirmed .publicIp id.group id.name).run setting
        (read.logging [⟨.debug, "deleting_public_ip", Teardown.aboutId id, none⟩])) =
          .ok confirmed) : IpMeets session id (.removed confirmed)
  | unread {fault : Fault} {read : Session τ W}
      (hget : (Access.get .publicIp id.group id.name).run setting session =
        .error (.raised fault) read) : IpMeets session id (.unread fault)
  | unremoved {ip : Model.Tagged} {fault : Fault} {read : Session τ W}
      (hget : (Access.get .publicIp id.group id.name).run setting session = .ok (some ip) read)
      (htag : Ownership.isGenerated t.generatedTag ip = true)
      (hdelete : outcome ((t.deleteConfirmed .publicIp id.group id.name).run setting
        (read.logging [⟨.debug, "deleting_public_ip", Teardown.aboutId id, none⟩])) =
          .error (.raised fault)) : IpMeets session id (.unremoved fault)

/-- A public IP was tried, without a fault to the outside. -/
structure IpTried (session : Session τ W) (turn : Turn τ ResourceId IpFate)
    (after : Session τ W) : Prop where
  run : (t.tryPublicIp turn.item).run setting session = .ok turn.result.isSettled after
  meets : IpMeets t setting session turn.item turn.result
  calls : calls turn.events = turn.result.calls setting.provider turn.item

/-- The delete of a public IP was followed without end. -/
structure IpUnfinished (session : Session τ W) (id : ResourceId) (events : List (Event τ))
    (reason : Stop) (after : Session τ W) : Prop where
  run : (t.tryPublicIp id).run setting session = .error .unfinished after
  unfinished : reason = .unfinished
  calls : calls events = [.get .publicIp id.group id.name,
    setting.provider.deleteRequest .publicIp id.group (some id.name)]

def interfaceNotice (id : ResourceId) : Log.Entry :=
  ⟨.debug, "destroying_nic", Teardown.aboutId id, none⟩

/-- An interface was read, and the ids of all of its public IPs too. -/
structure InterfaceRead (session : Session τ W) (text : String) (id : ResourceId)
    (nic : View.Interface) (addresses : List ResourceId) (read : Session τ W) : Prop where
  parse : ResourceId.parse? text = some id
  get : (Access.get .networkInterface id.group id.name).run setting session = .ok (some nic) read
  addresses : List.Forall₂ (fun ip address => ResourceId.parse? ip = some address) nic.publicIpIds
    addresses

/-- An interface was read, then its delete was asked for and followed, once and to this outcome. -/
structure InterfaceFollowed (session : Session τ W) (text : String) (id : ResourceId)
    (addresses : List ResourceId) (events : List (Event τ)) (verdict : Except Stop Bool)
    (followed : Session τ W) : Prop where
  run : ∃ nic read, InterfaceRead setting session text id nic addresses read ∧
    RunsTo setting (read.logging [interfaceNotice id])
      (t.deleteConfirmed .networkInterface id.group id.name) verdict followed
  calls : calls events = [.get .networkInterface id.group id.name,
    setting.provider.deleteRequest .networkInterface id.group (some id.name)]

def interfaceWarning (id : ResourceId) (confirmed : Bool) : List Log.Entry :=
  if confirmed then [] else [⟨.warning, "nic_not_deleted", Teardown.aboutId id, none⟩]

/-- The round over the public IPs of an interface, after the verdict on its delete. -/
def IpRound (followed : Session τ W) (id : ResourceId) (confirmed : Bool)
    (addresses : List ResourceId) (events : List (Event τ))
    (result : Except Stop (List (Turn τ ResourceId IpFate))) (after : Session τ W) : Prop :=
  Round (IpTried t setting) (IpUnfinished t setting)
    (followed.logging (interfaceWarning id confirmed)) addresses events result after

/-- An interface was handled. -/
inductive InterfaceHandled :
    Session τ W → Turn τ String (InterfaceFate τ) → Session τ W → Prop
  /-- It is not found. -/
  | absent {session read : Session τ W} {text : String} {id : ResourceId}
      {events : List (Event τ)} (hparse : ResourceId.parse? text = some id)
      (hget : (Access.get .networkInterface id.group id.name).run setting session = .ok none read)
      (hcalls : calls events = [.get .networkInterface id.group id.name]) :
      InterfaceHandled session ⟨text, .absent, events⟩
        (read.logging [⟨.debug, "nic_already_deleted", Teardown.aboutId id, none⟩])
  /-- Its delete has a verdict, after which each public IP was tried. -/
  | removed {session followed after : Session τ W} {text : String} {id : ResourceId}
      {addresses : List ResourceId} {confirmed : Bool} {ips : List (Turn τ ResourceId IpFate)}
      {opening trying : List (Event τ)}
      (hfollowed : InterfaceFollowed t setting session text id addresses opening (.ok confirmed)
        followed)
      (hips : IpRound t setting followed id confirmed addresses trying (.ok ips) after) :
      InterfaceHandled session ⟨text, .removed confirmed ips, opening ++ trying⟩ after

/-- The handling of an interface was cut short. -/
inductive InterfaceStopped (session : Session τ W) (text : String) :
    List (Event τ) → Stop → Session τ W → Prop
  /-- Its id cannot be read. -/
  | malformed (hparse : ResourceId.parse? text = none) :
      InterfaceStopped session text [] (.raised (.malformedId text)) session
  /-- It cannot be read itself. -/
  | unread {id : ResourceId} {fault : Fault} {events : List (Event τ)} {read : Session τ W}
      (hparse : ResourceId.parse? text = some id)
      (hget : (Access.get .networkInterface id.group id.name).run setting session =
        .error (.raised fault) read)
      (hcalls : calls events = [.get .networkInterface id.group id.name]) :
      InterfaceStopped session text events (.raised fault) read
  /-- The id of one of its public IPs cannot be read, and no delete was asked for. -/
  | malformedIp {id : ResourceId} {nic : View.Interface} {ip : String} {events : List (Event τ)}
      {read : Session τ W} (hparse : ResourceId.parse? text = some id)
      (hget : (Access.get .networkInterface id.group id.name).run setting session =
        .ok (some nic) read)
      (hip : ip ∈ nic.publicIpIds) (hparseIp : ResourceId.parse? ip = none)
      (hcalls : calls events = [.get .networkInterface id.group id.name]) :
      InterfaceStopped session text events (.raised (.malformedId ip)) read
  /-- Its delete has no verdict. -/
  | unremoved {id : ResourceId} {addresses : List ResourceId} {reason : Stop}
      {events : List (Event τ)} {followed : Session τ W}
      (hfollowed : InterfaceFollowed t setting session text id addresses events (.error reason)
        followed)
      (hblames : ∀ fault, reason = .raised fault →
        DeleteRaised .networkInterface id.group (some id.name) events fault) :
      InterfaceStopped session text events reason followed
  /-- The delete of one of its public IPs is followed without end. -/
  | unfinishedIp {id : ResourceId} {addresses : List ResourceId} {confirmed : Bool} {reason : Stop}
      {opening trying : List (Event τ)} {followed after : Session τ W}
      (hfollowed : InterfaceFollowed t setting session text id addresses opening (.ok confirmed)
        followed)
      (hips : IpRound t setting followed id confirmed addresses trying (.error reason) after) :
      InterfaceStopped session text (opening ++ trying) reason after

end Turns

/-! ## Requests -/

variable {t : Teardown τ} {setting : Setting τ W} {session : Session τ W}

theorem get_raises {kind : Kind} {group name : String} :
    Ends setting session (Access.get kind group name) fun events outcome _ =>
      calls events = [.get kind group name] ∧
        ∀ reason, outcome = .error reason → ∃ fault, reason = .raised fault := by
  have hraises : Ends setting session (Access.get kind group name) fun _ outcome _ =>
      ∀ reason, outcome = .error reason → ∃ fault, reason = .raised fault := by
    have hask : Ends setting session (ask (.get kind group name)) fun _ outcome _ =>
        ∃ reply, outcome = .ok reply := Ends.ask fun reply _ _ _ => ⟨reply, rfl⟩
    refine Ends.bind hask ?_ (by rintro _ _ _ ⟨_, ⟨⟩⟩)
    rintro events reply after -
    cases reply with
    | error fault =>
      refine orGone_ends (fun _ => Ends.pure nofun) fun report _ => ?_
      rintro _ ⟨⟩
      exact ⟨report, rfl⟩
    | ok object =>
      dsimp only
      cases kind.view object with
      | ok view => exact Ends.pure nofun
      | error fault =>
        refine Ends.stop ?_
        rintro _ ⟨⟩
        exact ⟨fault, rfl⟩
  refine Ends.mono (Ends.and get_calls hraises) ?_
  rintro events outcome after ⟨⟨hcalls, -⟩, hreason⟩
  exact ⟨hcalls, hreason⟩

theorem InterfaceRead.followed {text : String} {id : ResourceId} {nic : View.Interface}
    {addresses : List ResourceId} {events more : List (Event τ)} {verdict : Except Stop Bool}
    {read after : Session τ W}
    (h : InterfaceRead setting session text id nic addresses read)
    (hcalls : calls events = [.get .networkInterface id.group id.name])
    (hmore : calls more =
      [setting.provider.deleteRequest .networkInterface id.group (some id.name)])
    (hrun : RunsTo setting (read.logging [interfaceNotice id])
      (t.deleteConfirmed .networkInterface id.group id.name) verdict after) :
    InterfaceFollowed t setting session text id addresses
      (events ++ .logged (interfaceNotice id) :: more) verdict after where
  run := ⟨nic, read, h, hrun⟩
  calls := by
    rw [calls_append, calls_cons_logged, hcalls, hmore]
    rfl

theorem InterfaceFollowed.append {text : String} {id : ResourceId} {addresses : List ResourceId}
    {events : List (Event τ)} {verdict : Except Stop Bool} {after : Session τ W}
    (h : InterfaceFollowed t setting session text id addresses events verdict after)
    (entries : List Log.Entry) : InterfaceFollowed t setting session text id addresses
      (events ++ entries.map .logged) verdict after where
  run := h.run
  calls := by rw [calls_append, calls_map_logged, List.append_nil, h.calls]

/-! ## Public IPs -/

/-- The part that deletes a public IP. -/
theorem deletePublicIp_ends {id : ResourceId} :
    Ends setting session (do
      log .debug "deleting_public_ip" (Teardown.aboutId id)
      let deleted ← t.isConfirmed (← Access.delete .publicIp id.group id.name)
      if !deleted then log .warning "public_ip_not_deleted" (Teardown.aboutId id)
      return deleted : Action τ W Bool)
      fun events result _ =>
        calls events = [setting.provider.deleteRequest .publicIp id.group (some id.name)] ∧
          outcome ((t.deleteConfirmed .publicIp id.group id.name).run setting
            (session.logging [⟨.debug, "deleting_public_ip", Teardown.aboutId id, none⟩])) =
              result := by
  refine Ends.log ?_
  rw [← bind_assoc]
  refine Ends.bind (Ends.runs deleteConfirmed_ends) ?_ ?_
  · rintro events deleted after ⟨⟨hcalls, -⟩, hresult, -⟩
    split
    · exact Ends.log (Ends.pure ⟨(calls_append_logged ..).trans hcalls, hresult⟩)
    · rw [← List.append_nil events] at hcalls
      exact Ends.pure ⟨hcalls, hresult⟩
  · rintro events reason after ⟨⟨hcalls, -⟩, hresult, -⟩
    exact ⟨hcalls, hresult⟩

theorem removePublicIp_ends (id : ResourceId) :
    Ends setting session (t.removePublicIp id) fun events result _ =>
      (∃ fate, IpMeets t setting session id fate ∧
        calls events = fate.calls setting.provider id ∧
          (result = .ok fate.isSettled ∨
            (∃ fault, result = .error (.raised fault)) ∧ fate.isSettled = false)) ∨
      result = .error .unfinished ∧ calls events = [.get .publicIp id.group id.name,
        setting.provider.deleteRequest .publicIp id.group (some id.name)] := by
  unfold Teardown.removePublicIp
  refine Ends.bind (Ends.runs get_raises) ?_ ?_
  · rintro events found read ⟨⟨hcalls, -⟩, hget⟩
    cases found with
    | none =>
      refine Ends.log (Ends.pure (.inl ⟨.absent, .absent hget.eq_ok, ?_, .inl rfl⟩))
      exact (calls_append_logged ..).trans hcalls
    | some ip =>
      dsimp only
      cases htag : Ownership.isGenerated t.generatedTag ip with
      | false =>
        refine Ends.log (Ends.pure (.inl ⟨.kept, .kept hget.eq_ok htag, ?_, .inl rfl⟩))
        exact (calls_append_logged ..).trans hcalls
      | true =>
        refine Ends.mono deletePublicIp_ends ?_
        rintro more result after ⟨hmore, hdelete⟩
        have hboth : calls (events ++ more) = [.get .publicIp id.group id.name,
            setting.provider.deleteRequest .publicIp id.group (some id.name)] := by
          rw [calls_append, hcalls, hmore]
          rfl
        rcases result with (fault | -) | confirmed
        · exact .inl ⟨.unremoved fault, .unremoved hget.eq_ok htag hdelete, hboth,
            .inr ⟨⟨fault, rfl⟩, rfl⟩⟩
        · exact .inr ⟨rfl, hboth⟩
        · exact .inl ⟨.removed confirmed, .removed hget.eq_ok htag hdelete, hboth, .inl rfl⟩
  · rintro events reason read ⟨⟨hcalls, hraised⟩, hget⟩
    obtain ⟨fault, rfl⟩ := hraised reason rfl
    exact .inl ⟨.unread fault, .unread hget.eq_error, hcalls, .inr ⟨⟨fault, rfl⟩, rfl⟩⟩

/-- What a try comes to: a fault counts as not settled. -/
theorem tryPublicIp_ends (id : ResourceId) :
    Ends setting session (t.tryPublicIp id) fun events result _ =>
      (∃ fate, IpMeets t setting session id fate ∧
        calls events = fate.calls setting.provider id ∧ result = .ok fate.isSettled) ∨
      result = .error .unfinished ∧ calls events = [.get .publicIp id.group id.name,
        setting.provider.deleteRequest .publicIp id.group (some id.name)] := by
  refine Ends.rescue (removePublicIp_ends id) ?_ ?_ ?_
  · rintro events settled after (⟨fate, hmeets, hcalls, hsettled | ⟨⟨_, ⟨⟩⟩, -⟩⟩ | ⟨⟨⟩, -⟩)
    exact .inl ⟨fate, hmeets, hcalls, hsettled⟩
  · rintro events fault after (⟨fate, hmeets, hcalls, ⟨⟨⟩⟩ | ⟨-, hunsettled⟩⟩ | ⟨⟨⟩, -⟩)
    refine Ends.log (Ends.pure (.inl ⟨fate, hmeets, ?_, by rw [hunsettled]⟩))
    exact (calls_append_logged ..).trans hcalls
  · rintro events after (⟨fate, -, -, ⟨⟨⟩⟩ | ⟨⟨_, ⟨⟩⟩, -⟩⟩ | ⟨-, hcalls⟩)
    exact .inr ⟨rfl, hcalls⟩

theorem tryPublicIp_takesTurn : TakesTurn setting (IpTried t setting) (IpUnfinished t setting)
    IpFate.isSettled t.tryPublicIp := by
  intro id session
  refine Ends.mono (Ends.runs (tryPublicIp_ends id)) ?_
  rintro events result after ⟨⟨fate, hmeets, hcalls, rfl⟩ | ⟨rfl, hcalls⟩, hrun⟩
  · exact .inl ⟨fate, rfl, hrun.eq_ok, hmeets, hcalls⟩
  · exact .inr ⟨.unfinished, rfl, hrun.eq_error, rfl, hcalls⟩

/-! ## Interfaces -/

/-- The part that comes after the verdict on an interface. -/
theorem ips_end {id : ResourceId} {confirmed : Bool} {addresses : List ResourceId} :
    Ends setting session (do
      if !confirmed then log .warning "nic_not_deleted" (Teardown.aboutId id)
      let ipsDeleted ← Teardown.all t.tryPublicIp addresses
      return confirmed && ipsDeleted : Action τ W Bool)
      fun events outcome after => ∃ trying result,
        events = (interfaceWarning id confirmed).map .logged ++ trying ∧
          outcome = result.map (fun ips => confirmed && ips.all (·.result.isSettled)) ∧
            IpRound t setting session id confirmed addresses trying result after := by
  have hround : IsRound setting (session.logging (interfaceWarning id confirmed))
      (IpTried t setting) (IpUnfinished t setting) addresses
      (fun ips => ips.all fun ip => ip.result.isSettled) (Teardown.all t.tryPublicIp addresses) :=
    Teardown.all_isRound tryPublicIp_takesTurn addresses
  have htail : Ends setting (session.logging (interfaceWarning id confirmed)) (do
      let ipsDeleted ← Teardown.all t.tryPublicIp addresses
      return confirmed && ipsDeleted : Action τ W Bool)
      fun trying outcome after => ∃ result,
        outcome = result.map (fun ips => confirmed && ips.all (·.result.isSettled)) ∧
          IpRound t setting session id confirmed addresses trying result after := by
    refine hround.bind ?_ ?_
    · intro trying ips after hips
      rw [← List.append_nil trying] at hips
      exact Ends.pure ⟨.ok ips, rfl, hips⟩
    · intro trying reason after hcut
      exact ⟨.error reason, rfl, hcut⟩
  cases confirmed with
  | true => exact Ends.mono htail fun trying _ _ ⟨result, hresult⟩ => ⟨trying, result, rfl, hresult⟩
  | false =>
    exact Ends.log (Ends.mono htail fun trying _ _ ⟨result, hresult⟩ =>
      ⟨trying, result, rfl, hresult⟩)

/-- The part that comes after an interface was read with its public IPs. -/
theorem interfaceRead_ends {text : String} {id : ResourceId} {nic : View.Interface}
    {addresses : List ResourceId} {events : List (Event τ)} {read : Session τ W}
    (hread : InterfaceRead setting session text id nic addresses read)
    (hcalls : calls events = [.get .networkInterface id.group id.name]) :
    Ends setting read (do
      log .debug "destroying_nic" (Teardown.aboutId id)
      let deleted ← t.isConfirmed (← Access.delete .networkInterface id.group id.name)
      if !deleted then log .warning "nic_not_deleted" (Teardown.aboutId id)
      let ipsDeleted ← Teardown.all t.tryPublicIp addresses
      return deleted && ipsDeleted : Action τ W Bool)
      fun more outcome after =>
        (∃ fate : InterfaceFate τ, outcome = .ok fate.isSettled ∧
          InterfaceHandled t setting session ⟨text, fate, events ++ more⟩ after) ∨
        ∃ reason, outcome = .error reason ∧
          InterfaceStopped t setting session text (events ++ more) reason after := by
  refine Ends.log ?_
  rw [← bind_assoc]
  refine Ends.bind (Ends.runs deleteConfirmed_ends) ?_ ?_
  · rintro more confirmed followed ⟨⟨hmore, -⟩, hrun⟩
    refine Ends.mono ips_end ?_
    rintro _ _ after ⟨trying, ips, rfl, rfl, hips⟩
    have hfollowed := hread.followed hcalls hmore hrun
    have hbefore := hfollowed.append (interfaceWarning id confirmed)
    rw [List.append_assoc, List.cons_append] at hbefore
    rw [← List.append_assoc more, ← List.cons_append, ← List.append_assoc]
    cases ips with
    | ok turns => exact .inl ⟨.removed confirmed turns, rfl, .removed hbefore hips⟩
    | error reason => exact .inr ⟨reason, rfl, .unfinishedIp hbefore hips⟩
  · rintro more reason followed ⟨⟨hmore, hblames⟩, hrun⟩
    refine .inr ⟨reason, rfl, .unremoved (hread.followed hcalls hmore hrun) ?_⟩
    rintro fault rfl
    rw [List.append_cons]
    exact (hblames fault rfl).after _

theorem removeInterface_takesTurn : TakesTurn setting (InterfaceHandled t setting)
    (InterfaceStopped t setting) InterfaceFate.isSettled t.removeInterface := by
  intro text session
  unfold Teardown.removeInterface
  cases hparse : ResourceId.parse? text with
  | none =>
    have hread : ResourceId.read (.str text) = .error (.malformedId text) := by
      rw [ResourceId.read, hparse]
      rfl
    rw [hread]
    exact Ends.stop (.inr ⟨_, rfl, .malformed hparse⟩)
  | some id =>
    rw [read_eq_ok_iff.mpr hparse, ofExcept_ok, pure_bind]
    refine Ends.bind (Ends.runs get_raises) ?_ ?_
    · rintro events found read ⟨⟨hcalls, -⟩, hrun⟩
      have hget := hrun.eq_ok
      cases found with
      | none =>
        refine Ends.log (Ends.pure (.inl ⟨.absent, rfl, .absent hparse hget ?_⟩))
        exact (calls_append_logged ..).trans hcalls
      | some nic =>
        dsimp only
        cases hread : nic.publicIpIds.mapM fun ip => ResourceId.read (.str ip) with
        | error fault =>
          obtain ⟨ip, hip, hparseIp, rfl⟩ := exists_of_mapM_read_error hread
          refine Ends.stop (.inr ⟨_, rfl, .malformedIp hparse hget hip hparseIp ?_⟩)
          simpa using hcalls
        | ok addresses =>
          have haddresses := (View.forall₂_of_mapM hread).imp fun _ _ => read_eq_ok_iff.mp
          rw [ofExcept_ok, pure_bind]
          exact interfaceRead_ends ⟨hparse, hget, haddresses⟩ hcalls
    · rintro events reason read ⟨⟨hcalls, hraised⟩, hrun⟩
      obtain ⟨fault, rfl⟩ := hraised reason rfl
      exact .inr ⟨_, rfl, .unread hparse hrun.eq_error hcalls⟩

/-- A machine's interfaces are removed in turn, each with its public IPs before the next. Unless
the round is cut short, the result is whether all of them and all their IPs are settled. -/
theorem removeInterfaces_isRound (t : Teardown τ) (setting : Setting τ W) (session : Session τ W)
    (machine : View.Machine) :
    IsRound setting session (InterfaceHandled t setting) (InterfaceStopped t setting)
      machine.interfaceIds (fun turns => turns.all fun turn => turn.result.isSettled)
      (t.removeInterfaces machine) :=
  Teardown.all_isRound removeInterface_takesTurn machine.interfaceIds

end Reclaim
