/-!
# Loose values

What a caller may pass where a text is expected, what a tag may hold, and what a log entry shows.
A dictionary keeps the order of its entries.
-/

namespace Reclaim

inductive Value where
  | null
  | bool (b : Bool)
  | int (n : Int)
  | float (x : Float)
  | str (s : String)
  | list (items : List Value)
  | dict (entries : List (String × Value))

/-- Null, false, zero and whatever is empty say nothing. -/
def Value.saysSomething : Value → Bool
  | null => false
  | bool b => b
  | int n => n != 0
  | float x => x != 0
  | str s => !s.isEmpty
  | list items => !items.isEmpty
  | dict entries => !entries.isEmpty

def Value.ofText? (s : Option String) : Value := s.elim .null .str

end Reclaim
