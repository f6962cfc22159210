import Reclaim.Proofs.Authorisation.Spec

/-!
# Deletes that are not confirmed

A delete that goes on behind a handle is followed by a tracker. When it gives the delete up, its
notice does not tell which resource is meant. Whoever asked for the delete has to name it.
-/

namespace Reclaim

variable {τ : Type}

/-! ## Deletes and their trackers -/

/-- The delete that a reply starts, and the handle behind which it goes on. -/
def Event.opens? : Event τ → Option (Removal × Handle)
  | .asked (.beginDelete kind group name) (.ok (some handle)) =>
    some (.resource kind group name, handle)
  | .asked (.beginDeleteGroup group) (.ok (some handle)) => some (.group group, handle)
  | _ => none

def openings (events : List (Event τ)) : List (Removal × Handle) := events.filterMap Event.opens?

namespace Deletion

def noticeWords : List String := ["delete_operation_failed", "delete_operation_timed_out"]

end Deletion

def Event.IsNotice : Event τ → Prop
  | .logged entry => entry.event ∈ Deletion.noticeWords
  | _ => False

/-- The tracker of the handle gives a delete up: it was told that the delete ended in failure, or
not yet, and notes so. -/
inductive GivesUp (handle : Handle) : Event τ → Event τ → Prop
  | failed {status : Option String} {entry : Log.Entry}
      (hentry : entry.event = "delete_operation_failed") :
      GivesUp handle (.asked (.status handle) (.ok status)) (.logged entry)
  | timedOut {entry : Log.Entry} (hentry : entry.event = "delete_operation_timed_out") :
      GivesUp handle (.asked (.isDone handle) (.ok false)) (.logged entry)

/-! ## Reports -/

/-- The entry names the resource: by the fields for its group and its name, or by both in one of
the texts of a list. A resource group is named by the field for groups. -/
def Log.Entry.Names (entry : Log.Entry) : Removal → Prop
  | .resource _ group name =>
      ("resource_group", .str group) ∈ entry.fields ∧ ("name", .ofText? name) ∈ entry.fields ∨
        ∃ field items shown, (field, .list items) ∈ entry.fields ∧ name = some shown ∧
          .str (group ++ "/" ++ shown) ∈ items
  | .group name => ("resource_group", .str name) ∈ entry.fields

/-- An entry at the level of warnings or above names the resource. -/
def Reported (events : List (Event τ)) (removal : Removal) : Prop :=
  ∃ entry, .logged entry ∈ events ∧ Log.Channel.warning.weight ≤ entry.channel.weight ∧
    entry.Names removal

/-- How an operation names, in its reports, a resource whose delete was given up. A machine goes by
the name of the node that was asked for. A security group and a resource group are not named. -/
def Operation.reportedAs (operation : Operation) : Removal → Option Removal
  | .group _ => none
  | .resource .securityGroup _ _ => none
  | .resource .virtualMachine holder name =>
    match operation with
    | .node token =>
      (NodeId.read token).toOption.map fun node =>
        .resource .virtualMachine node.group (some node.name)
    | _ => some (.resource .virtualMachine holder name)
  | removal => some removal

/-! ## What the provider may do -/

/-- The ids of the machines and networks that are shown can be read, and no handle raises. -/
def Event.IsSound : Event τ → Prop
  | .asked (.get .virtualMachine _ _) (.ok (some object)) =>
      ∃ id, ResourceId.readText object.id = .ok id
  | .asked (.list .virtualNetwork _) listing =>
      ∀ object, some object ∈ listing.items → ∃ id, ResourceId.readText object.id = .ok id
  | .asked (.isDone _) reply => ∃ done, reply = .ok done
  | .asked (.status _) reply => ∃ status, reply = .ok status
  | _ => True

/-- The clock can count the durations for which a tracker waits. -/
structure Patience.Fits [Timescale τ] (p : Patience τ) : Prop where
  timeout : Timescale.fits p.timeout = true
  period : Timescale.fits p.period = true

end Reclaim
