import Reclaim.Cloud.View
import Reclaim.Session

/-!
# Access to the provider

Each request is asked once. A resource that is not found counts as gone, which is a result and no
fault. Every other error response becomes a report that names the request; all other faults pass
as they are.
-/

namespace Reclaim

/-! ## Reports -/

/-- The codes with which the provider refuses to delete what other resources still use. -/
def inUseCodes : List String :=
  [ "InUseSubnetCannotBeDeleted", "InUseNetworkSecurityGroupCannotBeDeleted",
    "InUseNetworkInterfaceCannotBeDeleted", "PublicIPAddressCannotBeDeleted",
    "PublicIPAddressInUse" ]

structure Subject where
  label : String
  group : String
  name : Option String

def Subject.text (s : Subject) : String :=
  s.label ++ " " ++ s.group ++ "/" ++ (Value.ofText? s.name).text

def Subject.report (s : Subject) (verb text : String) (code : Option String) : Fault :=
  let report : Report := {
    message := "Failed to " ++ verb ++ " Azure " ++ s.text ++ ": " ++ text
    code
    group := some s.group
    name := s.name }
  if code.any inUseCodes.contains then .inUse report else .failed report

/-- The fault of a request, or `none` if its subject is gone. -/
def Fault.unlessGone (fault : Fault) (verb : String) (subject : Subject) : Option Fault :=
  match fault with
  | .response e => if e.category = .notFound then none else some (subject.report verb e.text e.code)
  | fault => some fault

namespace Access

open Reclaim.Action

variable {τ W α : Type}

/-- The value behind a listing: all of its items in order, unless one cannot be viewed or the
listing fails. -/
def readListing {β : Type} (view : Option β → Except Fault α) (listing : Listing β) :
    Except Fault (List α) := do
  let views ← listing.items.mapM view
  match listing.failure with
  | none => return views
  | some fault => throw fault

/-- Continues with `whenGone` if the fault says that the subject is gone. -/
def orGone (fault : Fault) (verb : String) (subject : Subject) (whenGone : Action τ W α) :
    Action τ W α :=
  match fault.unlessGone verb subject with
  | none => whenGone
  | some fault => raise fault

variable [Timescale τ]

/-! ## Resources -/

def get (kind : Kind) (group name : String) : Action τ W (Option kind.View) := do
  match ← ask (.get kind group name) with
  | .ok object => return some (← ofExcept (kind.view object))
  | .error fault => orGone fault "get" ⟨kind.label, group, some name⟩ (pure none)

def list (kind : Kind) (group : String) : Action τ W (List kind.View) := do
  match readListing kind.view (← ask (.list kind group)) with
  | .ok views => return views
  | .error fault => orGone fault "list" ⟨kind.label, group, some "*"⟩ (pure [])

/-- Asks for a delete. There is no handle if nothing is left to wait for. -/
def delete (kind : Kind) (group : String) (name : Option String) :
    Action τ W (Option Handle) := do
  let subject : Subject := ⟨kind.label, group, name⟩
  let gone : Action τ W (Option Handle) := do
    record (.noted .debug ("Azure " ++ subject.text ++ " already deleted"))
    return none
  if (← setting).provider.deletesAtOnce kind then
    match ← ask (.delete kind group name) with
    | .ok () => return none
    | .error fault => orGone fault "delete" subject gone
  else
    match ← ask (.beginDelete kind group name) with
    | .ok handle => return handle
    | .error fault => orGone fault "delete" subject gone

/-! ## Resource groups -/

/-- The members of a group; `none` if the group itself is gone. -/
def members (group : String) : Action τ W (Option (List View.Member)) := do
  match readListing View.member (← ask (.members group)) with
  | .ok members => return some members
  | .error fault => orGone fault "list" ⟨"resource group", group, some "*"⟩ (pure none)

def deleteGroup (group : String) : Action τ W (Option Handle) := do
  match ← ask (.beginDeleteGroup group) with
  | .ok handle => return handle
  | .error fault =>
    orGone fault "delete" ⟨"resource group", group, some group⟩ do
      record (.noted .debug ("Azure resource group " ++ group ++ " already deleted"))
      return none

end Access

end Reclaim
