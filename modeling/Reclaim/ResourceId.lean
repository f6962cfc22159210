import Reclaim.Fault
import Reclaim.Text.Blank
import Reclaim.Text.Segments

/-!
# Resource ids

An id is a path `/subscriptions/S/resourceGroups/G`, on which `/providers/NS` and one or more
`/TYPE/NAME` pairs may follow. Blanks around it and one slash at its end do not count.
-/

namespace Reclaim

/-- A resource as its id names it. The id is kept as it was given. -/
structure ResourceId where
  group : String
  name : String
  text : String
deriving DecidableEq

namespace ResourceId

/-! ## Keywords -/

/-- Keywords are compared letter by letter without case. The long s counts as an s, and the i
without a dot and the capital one with a dot count as an i. -/
def foldLetter (c : Char) : Char :=
  if c.toNat = 0x017F then 's'
  else if c.toNat = 0x0130 || c.toNat = 0x0131 then 'i'
  else c.toLower

def isKeyword (keyword : String) (segment : List Char) : Bool :=
  segment.map foldLetter == keyword.toList

/-! ## The path -/

/-- The name in the last of the type and name pairs, which a slash may follow. -/
def lastName? : List (List Char) → Option (List Char)
  | [type, name] => if type.isEmpty || name.isEmpty then none else some name
  | [type, name, []] => if type.isEmpty || name.isEmpty then none else some name
  | type :: name :: rest => if type.isEmpty || name.isEmpty then none else lastName? rest
  | _ => none

/-- The name that the path behind the group gives; the group's own if nothing follows. -/
def nameBehind? (group : List Char) : List (List Char) → Option (List Char)
  | [] => some group
  | [[]] => some group
  | keyword :: provider :: pairs =>
    if isKeyword "providers" keyword && !provider.isEmpty then lastName? pairs else none
  | _ => none

def parts? (path : List Char) : Option (List Char × List Char) :=
  match Text.segments '/' path with
  | [] :: subscriptions :: subscription :: groups :: group :: rest =>
    if isKeyword "subscriptions" subscriptions && !subscription.isEmpty &&
        isKeyword "resourcegroups" groups && !group.isEmpty then
      (nameBehind? group rest).map (group, ·)
    else none
  | _ => none

def parse? (s : String) : Option ResourceId :=
  (parts? (Text.trim s.toList)).map fun (group, name) =>
    ⟨String.ofList group, String.ofList name, s⟩

/-- Reads an id where the caller may have passed anything. -/
def read : Value → Except Fault ResourceId
  | .str s => (parse? s).elim (.error (.malformedId s)) .ok
  | v => .error (.idNotText v)

def readText (s : Option String) : Except Fault ResourceId := read (.ofText? s)

def label (r : ResourceId) : String := r.group ++ "/" ++ r.name

end ResourceId

end Reclaim
