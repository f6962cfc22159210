/-!
# Tables of code points

A property of characters is a list of closed ranges of code points. A case mapping is a list of
runs, each of which moves every first or second code point of a range by the same distance.
-/

namespace Reclaim.Text

/-- Closed ranges of code points, in ascending order. -/
abbrev RangeTable := List (Nat × Nat)

def RangeTable.covers (table : RangeTable) (c : Char) : Bool :=
  table.any fun (first, last) => first ≤ c.toNat && c.toNat ≤ last

/-- The code points `first`, `first + step`, … up to `last`, taken to `target`, `target + step`,
… in turn. -/
structure CaseRun where
  first : Nat
  last : Nat
  step : Nat
  target : Nat

def CaseRun.image? (run : CaseRun) (n : Nat) : Option Nat :=
  if run.first ≤ n && n ≤ run.last && (n - run.first) % run.step == 0 then
    some (run.target + (n - run.first))
  else none

def mapped? (runs : List CaseRun) (c : Char) : Option Char :=
  (runs.findSome? (·.image? c.toNat)).map Char.ofNat

end Reclaim.Text
