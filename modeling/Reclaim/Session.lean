import Reclaim.Cloud.Request
import Reclaim.Log.Entry
import Reclaim.Time.Scale

/-!
# Sessions

An action asks the provider, lets time pass and writes to the log. A session holds the world, the
clock, and the trace of all that happened so far. An action that fails leaves its session behind
like one that succeeds.
-/

namespace Reclaim

inductive Event (τ : Type) where
  | asked (request : Request) (reply : request.Reply)
  /-- A condition was evaluated by a tracker. -/
  | polled
  | slept (duration : τ)
  | logged (entry : Log.Entry)
  /-- A remark of the access to the provider. -/
  | noted (channel : Log.Channel) (text : String)

structure Session (τ W : Type) where
  world : W
  clock : τ
  trace : Array (Event τ)

/-- The provider, and how often a tracker may poll in one wait. -/
structure Setting (τ W : Type) where
  provider : Provider τ W
  pollLimit : Nat

inductive Stop where
  | raised (fault : Fault)
  /-- A tracker used up its polls. -/
  | unfinished

abbrev Action (τ W : Type) : Type → Type := ReaderT (Setting τ W) (EStateM Stop (Session τ W))

namespace Action

variable {τ W α : Type}

def run (action : Action τ W α) (setting : Setting τ W) (session : Session τ W) :
    EStateM.Result Stop (Session τ W) α :=
  action setting session

def stop (reason : Stop) : Action τ W α := fun _ session => .error reason session

def raise (fault : Fault) : Action τ W α := stop (.raised fault)

/-- The value, or the fault as this action's own. -/
def ofExcept : Except Fault α → Action τ W α
  | .ok a => pure a
  | .error fault => raise fault

/-- Handles a fault of the action. Running out of polls is no fault. -/
def rescue (action : Action τ W α) (handle : Fault → Action τ W α) : Action τ W α :=
  fun setting session =>
    match action setting session with
    | .error (.raised fault) session => handle fault setting session
    | result => result

def setting : Action τ W (Setting τ W) := read

def record (event : Event τ) : Action τ W Unit :=
  modify fun session => { session with trace := session.trace.push event }

def now : Action τ W τ := return (← get).clock

variable [Timescale τ]

def counted (duration : τ) : Action τ W τ :=
  if Timescale.fits duration then pure duration else raise .durationTooLong

def letPass (duration : τ) : Action τ W Unit := do
  let duration ← counted duration
  modify fun session => { session with clock := Timescale.plus session.clock duration }

def sleep (duration : τ) : Action τ W Unit := do
  let duration ← counted duration
  record (.slept duration)
  letPass duration

/-- Asks the provider, whose replies take a time that fits. The request is on the trace together
with its reply. -/
def ask (request : Request) : Action τ W request.Reply := fun setting session =>
  let (reply, elapsed, world) := setting.provider.answer request session.world
  .ok reply {
    world
    clock := Timescale.plus session.clock elapsed
    trace := session.trace.push (.asked request reply) }

omit [Timescale τ]

/-! ## The log -/

def log (channel : Log.Channel) (event : String) (fields : Log.Fields) : Action τ W Unit :=
  record (.logged ⟨channel, event, fields, none⟩)

def logFault (event : String) (fields : Log.Fields) (fault : Fault) : Action τ W Unit :=
  record (.logged ⟨.exception, event, fields, some fault⟩)

end Action

end Reclaim
