import Reclaim.Fault
import Reclaim.Text.Segments

/-!
# Node ids

Callers name a node by its group and name with a slash between them.
-/

namespace Reclaim

structure NodeId where
  group : String
  name : String
deriving DecidableEq

namespace NodeId

def encode (node : NodeId) : String := node.group ++ "/" ++ node.name

def parse? (token : String) : Option NodeId :=
  match Text.segments '/' token.toList with
  | [group, name] =>
    if group.isEmpty || name.isEmpty then none
    else some ⟨String.ofList group, String.ofList name⟩
  | _ => none

def read : Value → Except Fault NodeId
  | .str token => (parse? token).elim (.error (.malformedNodeId token)) .ok
  | v => .error (.nodeIdNotText v)

end NodeId

end Reclaim
