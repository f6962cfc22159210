import Reclaim.Session

/-!
# What actions do to a session

One equation for each way to build an action. With them the run of an action is a chain of matches
on the runs of its parts.
-/

namespace Reclaim.Action

variable {τ W α β : Type} (setting : Setting τ W) (session : Session τ W)

/-! ## Sequencing -/

@[simp] theorem run_pure (a : α) : (pure a : Action τ W α).run setting session = .ok a session :=
  rfl

theorem run_bind (action : Action τ W α) (next : α → Action τ W β) :
    (action >>= next).run setting session =
      match action.run setting session with
      | .ok a session => (next a).run setting session
      | .error stop session => .error stop session := by
  change EStateM.bind (action setting) (fun a => next a setting) session = _
  unfold EStateM.bind run
  split <;> simp_all

/-! ## Faults -/

@[simp] theorem run_stop (reason : Stop) :
    (stop reason : Action τ W α).run setting session = .error reason session := rfl

@[simp] theorem run_raise (fault : Fault) :
    (raise fault : Action τ W α).run setting session = .error (.raised fault) session := rfl

@[simp] theorem run_ofExcept_ok (a : α) :
    (ofExcept (.ok a) : Action τ W α).run setting session = .ok a session := rfl

@[simp] theorem run_ofExcept_error (fault : Fault) :
    (ofExcept (.error fault) : Action τ W α).run setting session =
      .error (.raised fault) session := rfl

theorem run_rescue (action : Action τ W α) (handle : Fault → Action τ W α) :
    (rescue action handle).run setting session =
      match action.run setting session with
      | .error (.raised fault) session => (handle fault).run setting session
      | result => result := rfl

/-! ## The session -/

@[simp] theorem run_setting :
    (Action.setting : Action τ W (Setting τ W)).run setting session = .ok setting session := rfl

@[simp] theorem run_now : (now : Action τ W τ).run setting session = .ok session.clock session :=
  rfl

@[simp] theorem run_record (event : Event τ) :
    (record event : Action τ W Unit).run setting session =
      .ok () { session with trace := session.trace.push event } := rfl

@[simp] theorem run_log (channel : Log.Channel) (event : String) (fields : Log.Fields) :
    (log channel event fields : Action τ W Unit).run setting session =
      .ok () { session with
        trace := session.trace.push (.logged ⟨channel, event, fields, none⟩) } := rfl

@[simp] theorem run_logFault (event : String) (fields : Log.Fields) (fault : Fault) :
    (logFault event fields fault : Action τ W Unit).run setting session =
      .ok () { session with
        trace := session.trace.push (.logged ⟨.exception, event, fields, some fault⟩) } := rfl

variable [Timescale τ]

theorem counted_of_fits {duration : τ} (h : Timescale.fits duration = true) :
    (counted duration : Action τ W τ) = pure duration := if_pos h

@[simp] theorem counted_rat (duration : Rat) :
    (counted duration : Action Rat W Rat) = pure duration := rfl

theorem run_letPass {duration : τ} (h : Timescale.fits duration = true) :
    (letPass duration : Action τ W Unit).run setting session =
      .ok () { session with clock := Timescale.plus session.clock duration } := by
  rw [letPass, counted_of_fits h]
  rfl

theorem run_sleep {duration : τ} (h : Timescale.fits duration = true) :
    (sleep duration : Action τ W Unit).run setting session =
      .ok () { session with
        clock := Timescale.plus session.clock duration
        trace := session.trace.push (.slept duration) } := by
  rw [sleep, counted_of_fits h, pure_bind, run_bind, run_record]
  exact run_letPass setting _ h

theorem run_ask (request : Request) :
    (ask request : Action τ W request.Reply).run setting session =
      .ok (setting.provider.answer request session.world).1 {
        world := (setting.provider.answer request session.world).2.2
        clock := Timescale.plus session.clock
          (setting.provider.answer request session.world).2.1
        trace := session.trace.push
          (.asked request (setting.provider.answer request session.world).1) } := rfl

end Reclaim.Action
