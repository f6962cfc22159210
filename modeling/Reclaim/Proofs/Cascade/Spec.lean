import Reclaim.Proofs.Limits

/-!
# How the teardown of a node may end

It raises before anything but the machine was touched, or finds no machine, or performs every stage
once and in order and reports on each.
-/

namespace Reclaim

variable {τ W : Type}

/-! ## What a trace shows -/

/-- A request to the provider itself. To follow a delete through its handle is none. -/
def Event.call? : Event τ → Option Request
  | .asked (.isDone _) _ | .asked (.status _) _ => none
  | .asked request _ => some request
  | _ => none

def calls (events : List (Event τ)) : List Request := events.filterMap Event.call?

def Event.report? : Event τ → Option Log.Entry
  | .logged entry => if entry.event ∈ Stage.reportWords then some entry else none
  | _ => none

def reports (events : List (Event τ)) : List Log.Entry := events.filterMap Event.report?

def Provider.deleteRequest (provider : Provider τ W) (kind : Kind) (group : String)
    (name : Option String) : Request :=
  if provider.deletesAtOnce kind then .delete kind group name else .beginDelete kind group name

/-! ## Stages -/

/-- The entries that a stage must leave in the log, by how it ended. -/
def Stage.report (node : NodeId) (stage : Stage) : Except Fault Bool → List Log.Entry
  | .ok true => []
  | .ok false => [incomplete]
  | .error fault => [⟨.exception, "cleanup_stage_error", fields, some fault⟩, incomplete]
where
  fields := ("stage", .str stage.label) :: Teardown.about node.group (some node.name)
  incomplete := ⟨.warning, "cleanup_stage_incomplete", fields, none⟩

def Session.logging (session : Session τ W) (entries : List Log.Entry) : Session τ W :=
  { session with
    trace := entries.foldl (fun trace entry => trace.push (.logged entry)) session.trace }

variable [Timescale τ]

/-- Stages performed in a row. Each starts where the report on the one before it ended. -/
inductive Performed (t : Teardown τ) (setting : Setting τ W) (node : NodeId)
    (machine : View.Machine) :
    Session τ W → List (Stage × Except Fault Bool) → Session τ W → Prop
  | none (session : Session τ W) : Performed t setting node machine session [] session
  | stage {session after final : Session τ W} {stage : Stage} {result : Except Fault Bool}
      {rest : List (Stage × Except Fault Bool)}
      (hresult : Action.outcome ((t.perform node.group machine stage).run setting session) =
        result.mapError .raised)
      (hafter : Action.left ((t.perform node.group machine stage).run setting session) = after)
      (hrest : Performed t setting node machine (after.logging (stage.report node result)) rest
        final) :
      Performed t setting node machine session ((stage, result) :: rest) final

namespace Cascade

def destroying (node : NodeId) : Log.Entry :=
  ⟨.info, "destroying_node", Teardown.about node.group (some node.name), none⟩

def concluding (node : NodeId) (verdict : Bool) : Log.Entry :=
  if verdict then ⟨.info, "node_destroyed", Teardown.about node.group (some node.name), none⟩
  else ⟨.warning, "node_not_deleted", Teardown.about node.group (some node.name), none⟩

end Cascade

/-- The parts of a run that finds a machine: the machine is read, its delete is asked for and
followed to a verdict, and then every stage is performed. -/
structure Cascade (t : Teardown τ) (setting : Setting τ W) (session : Session τ W)
    (node : NodeId) where
  machine : View.Machine
  read : Session τ W
  found : (Access.get .virtualMachine node.group node.name).run setting session =
    .ok (some machine) read
  handle : Option Handle
  asked : Session τ W
  requested : (Access.delete .virtualMachine node.group machine.name).run setting
    (read.logging [Cascade.destroying node]) = .ok handle asked
  verdict : Bool
  confirmed : Session τ W
  followed : (t.isConfirmed handle).run setting asked = .ok verdict confirmed
  begun : Session τ W
  removed : (t.removeMachine node.group machine).run setting
    (read.logging [Cascade.destroying node]) = .ok verdict begun
  outcomes : List (Stage × Except Fault Bool)
  staged : Session τ W
  performed : Performed t setting node machine begun outcomes staged
  inOrder : outcomes.map (·.1) = Stage.sequence

/-! ## The operations behind the stages -/

variable {t : Teardown τ} {setting : Setting τ W} {session final : Session τ W} {node : NodeId}

/-- An operation was run as a stage, and reported on. -/
def Stage.RanAs (stage : Stage) (setting : Setting τ W) (node : NodeId)
    (operation : Action τ W Bool) (session : Session τ W) (result : Except Fault Bool)
    (reported : Session τ W) : Prop :=
  Action.outcome (operation.run setting session) = result.mapError .raised ∧
    (Action.left (operation.run setting session)).logging (stage.report node result) = reported

/-- Where a stage comes first, it was run first, and the others from the report on. -/
theorem Performed.first {machine : View.Machine} {stage : Stage} {stages : List Stage}
    {outcomes : List (Stage × Except Fault Bool)}
    (h : Performed t setting node machine session outcomes final)
    (horder : outcomes.map (·.1) = stage :: stages) :
    ∃ result rest reported, outcomes = (stage, result) :: rest ∧
      stage.RanAs setting node (t.perform node.group machine stage) session result reported ∧
      Performed t setting node machine reported rest final ∧ rest.map (·.1) = stages := by
  cases h with
  | none => cases horder
  | stage hresult hafter hrest =>
    obtain ⟨rfl, hstages⟩ := List.cons.inj horder
    exact ⟨_, _, _, rfl, ⟨hresult, by rw [hafter]⟩, hrest, hstages⟩

/-- The stages are these four operations: on the interfaces, the disks and the availability set of
the machine that was read, and on the networks of the node's group. -/
theorem Cascade.operations (c : Cascade t setting session node) :
    ∃ nics disks set networks first second third,
      c.outcomes = [(.interfaces, nics), (.disks, disks), (.availabilitySet, set),
        (.networks, networks)] ∧
      Stage.interfaces.RanAs setting node (t.removeInterfaces c.machine) c.begun nics first ∧
      Stage.disks.RanAs setting node (t.removeDisks c.machine) first disks second ∧
      Stage.availabilitySet.RanAs setting node (t.removeAvailabilitySet c.machine) second set
        third ∧
      Stage.networks.RanAs setting node (t.removeNetworks node.group) third networks c.staged := by
  obtain ⟨nics, _, first, houtcomes, hnics, hperformed, horder⟩ := c.performed.first c.inOrder
  obtain ⟨disks, _, second, rfl, hdisks, hperformed, horder⟩ := hperformed.first horder
  obtain ⟨set, _, third, rfl, hset, hperformed, horder⟩ := hperformed.first horder
  obtain ⟨networks, _, _, rfl, hnetworks, hperformed, horder⟩ := hperformed.first horder
  obtain rfl := List.map_eq_nil_iff.mp horder
  cases hperformed
  exact ⟨nics, disks, set, networks, first, second, third, houtcomes, hnics, hdisks, hset,
    hnetworks⟩

/-! ## Endings -/

inductive Ending where
  | raised
  | nothingFound
  | cascaded

/-- How the run of a teardown ends, with the events that it adds to the trace. The verdict of a
cascade is the one on the machine's delete: no stage has a say in it. -/
def EndsAs (t : Teardown τ) (setting : Setting τ W) (token : Value) (session : Session τ W) :
    Ending → Prop
  | .raised => ∃ fault after events,
      (t.removeNode token).run setting session = .error (.raised fault) after ∧
        after.trace.toList = session.trace.toList ++ events ∧
          (calls events = [] ∨ ∃ node name, NodeId.read token = .ok node ∧
            calls events <+: [.get .virtualMachine node.group node.name,
              setting.provider.deleteRequest .virtualMachine node.group name])
  | .nothingFound => ∃ node response read after events,
      (t.removeNode token).run setting session = .ok true after ∧
        after.trace.toList = session.trace.toList ++ events ∧
          NodeId.read token = .ok node ∧
            (Access.get .virtualMachine node.group node.name).run setting session = .ok none read ∧
              calls events = [.get .virtualMachine node.group node.name] ∧
                response.category = .notFound ∧
                  .asked (.get .virtualMachine node.group node.name)
                    (.error (.response response)) ∈ events
  | .cascaded => ∃ node, ∃ c : Cascade t setting session node, ∃ events,
      (t.removeNode token).run setting session =
          .ok c.verdict (c.staged.logging [Cascade.concluding node c.verdict]) ∧
        (c.staged.logging [Cascade.concluding node c.verdict]).trace.toList =
            session.trace.toList ++ events ∧
          NodeId.read token = .ok node ∧
            reports events = c.outcomes.flatMap fun outcome => outcome.1.report node outcome.2

end Reclaim
