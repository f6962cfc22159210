import Reclaim.Value.Basic
import Reclaim.Decimal.Notation
import Reclaim.Text.Quoted

/-!
# Values in messages

A value is shown so that its kind can be told: text is quoted, lists stand in brackets and
dictionaries in braces. As plain text, a text stands for itself.
-/

namespace Reclaim

mutual

def Value.shown : Value → String
  | .null => "None"
  | .bool true => "True"
  | .bool false => "False"
  | .int n => toString n
  | .float x => Decimal.text x
  | .str s => Text.quoted s
  | .list items => "[" ++ ", ".intercalate (shownItems items) ++ "]"
  | .dict entries => "\x7b" ++ ", ".intercalate (shownEntries entries) ++ "\x7d"

def shownItems : List Value → List String
  | [] => []
  | v :: rest => v.shown :: shownItems rest

def shownEntries : List (String × Value) → List String
  | [] => []
  | (k, v) :: rest => (Text.quoted k ++ ": " ++ v.shown) :: shownEntries rest

end

def Value.text : Value → String
  | .str s => s
  | v => v.shown

end Reclaim
