import Reclaim.Decimal.Binary

/-!
# The fewest digits that read back

Of the decimals that round to a given binary number, one has the fewest digits; of two such
decimals the closer is taken, and a tie goes to the even digit.
-/

namespace Reclaim.Decimal

structure Numeral where
  digits : Nat
  exponent : Int

/-- `digits * 10 ^ exponent` lies among the reals that round to `x`. The ends of that interval are
half-way to the neighbours of `x`, and belong to it when `m` is even. -/
def Binary.holds (x : Binary) (digits : Nat) (exponent : Int) : Bool :=
  let point := Nat.pow 10 exponent.toNat * Nat.pow 2 (2 - x.q).toNat
  let quarter := Nat.pow 10 (-exponent).toNat * Nat.pow 2 (x.q - 2).toNat
  let low := (4 * x.m - if x.narrowBelow then 1 else 2) * quarter
  let high := (4 * x.m + 2) * quarter
  let place := digits * point
  if x.m % 2 = 0 then low ≤ place && place ≤ high else low < place && place < high

/-- The multiple of `10 ^ exponent` next to `x`, below or above, that rounds to `x`. -/
def Binary.pick? (x : Binary) (exponent : Int) : Option Nat :=
  let point := Nat.pow 10 exponent.toNat * Nat.pow 2 (-x.q).toNat
  let unit := Nat.pow 10 (-exponent).toNat * Nat.pow 2 x.q.toNat
  let below := x.m * unit / point
  match x.holds below exponent, x.holds (below + 1) exponent with
  | false, false => none
  | true, false => some below
  | false, true => some (below + 1)
  | true, true =>
    match compare (2 * (x.m * unit)) ((2 * below + 1) * point) with
    | .lt => some below
    | .gt => some (below + 1)
    | .eq => some (below + below % 2)

/-- A power of ten above `x`, and the least one unless `x` is zero. -/
def Binary.magnitude (x : Binary) : Int :=
  let guess := ((x.m.log2 : Int) + x.q) * 30103 / 100000 - 1
  let exceeds (k : Int) : Bool :=
    x.m * Nat.pow 2 x.q.toNat * Nat.pow 10 (-k).toNat <
      Nat.pow 10 k.toNat * Nat.pow 2 (-x.q).toNat
  ((List.range 4).find? fun (i : Nat) => exceeds (guess + i)).elim (guess + 4) (guess + ·)

def Numeral.trim (digits : Nat) (exponent : Int) : Numeral :=
  if digits ≠ 0 ∧ digits % 10 = 0 then Numeral.trim (digits / 10) (exponent + 1)
  else ⟨digits, exponent⟩
termination_by digits
decreasing_by omega

/-- Seventeen digits suffice for every number; past them the exact value stands. -/
def Binary.shortest (x : Binary) : Numeral :=
  if x.m = 0 then ⟨0, 0⟩
  else
    let k := x.magnitude
    let found := (List.range 17).findSome? fun (n : Nat) =>
      (x.pick? (k - (n + 1))).map fun digits => Numeral.trim digits (k - (n + 1))
    found.getD ⟨x.m * Nat.pow 2 x.q.toNat * Nat.pow 5 (-x.q).toNat, -((-x.q).toNat : Int)⟩

end Reclaim.Decimal
