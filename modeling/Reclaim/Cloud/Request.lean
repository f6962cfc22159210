import Reclaim.Cloud.Model
import Reclaim.Fault

/-!
# Requests and replies

What can be asked of the provider, and what it may reply. A listing can fail after some of its
items; an operation that goes on behind a delete is followed through its handle.
-/

namespace Reclaim

structure Handle where
  number : Nat
deriving DecidableEq

/-- The items that a listing gives, and the fault that ends it early. -/
structure Listing (α : Type) where
  items : List (Option α)
  failure : Option Fault

inductive Request where
  | get (kind : Kind) (group name : String)
  | list (kind : Kind) (group : String)
  /-- Starts a delete. -/
  | beginDelete (kind : Kind) (group : String) (name : Option String)
  /-- Deletes and waits. -/
  | delete (kind : Kind) (group : String) (name : Option String)
  | members (group : String)
  | beginDeleteGroup (group : String)
  | isDone (handle : Handle)
  | status (handle : Handle)
deriving DecidableEq

/-- A delete may be answered without a handle. -/
abbrev Request.Reply : Request → Type
  | get kind _ _ => Except Fault (Option kind.Model)
  | list kind _ => Listing kind.Model
  | beginDelete _ _ _ => Except Fault (Option Handle)
  | delete _ _ _ => Except Fault Unit
  | members _ => Listing Model.Member
  | beginDeleteGroup _ => Except Fault (Option Handle)
  | isDone _ => Except Fault Bool
  | status _ => Except Fault (Option String)

/-- A provider is a total function on a world of any kind. A reply takes time. -/
structure Provider (τ W : Type) where
  answer : (request : Request) → W → request.Reply × τ × W
  /-- The kinds whose delete is over once it is answered. -/
  deletesAtOnce : Kind → Bool

end Reclaim
