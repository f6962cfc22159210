import Reclaim.Fault

/-!
# Names of shared resources

The nodes of a group share resources whose names derive from the group's name.
-/

namespace Reclaim

structure Naming where
  stem : String
  delimiter : String

namespace Naming

/-- A convention needs a stem that is not empty. -/
def make (stem : String) (delimiter : String) : Except Fault Naming :=
  if stem.isEmpty then .error .emptyPrefix else .ok ⟨stem, delimiter⟩

def standard : Naming := ⟨"jclouds", "-"⟩

def isInitial (c : Char) : Bool := c.isLower || c.isDigit

def isInner (c : Char) : Bool := isInitial c || c = '-'

/-- The text without the line break that may end it. -/
def withoutLineBreak (cs : List Char) : List Char :=
  if cs.getLast? = some '\n' then cs.dropLast else cs

/-- Lower-case letters, digits and dashes, the first of them no dash. A line break at the end is
let through. -/
def accepts : List Char → Bool
  | [] => false
  | c :: rest => isInitial c && (withoutLineBreak rest).all isInner

def sharedName (naming : Naming) (group : Option String) : Except Fault String :=
  match group with
  | some g =>
    if accepts g.toList then .ok (naming.stem ++ naming.delimiter ++ g)
    else .error (.invalidGroupName group)
  | none => .error (.invalidGroupName none)

end Naming

end Reclaim
