/-!
# The exact value of a binary fraction

A finite floating point number is `m * 2 ^ q`, with a sign beside it.
-/

namespace Reclaim.Decimal

/-- The magnitude `m * 2 ^ q`. -/
structure Binary where
  m : Nat
  q : Int
  /-- The next number below is half as far away as the next one above. -/
  narrowBelow : Bool

def Binary.ofBits (bits : UInt64) : Binary :=
  let exponent : Nat := bits.toNat / Nat.pow 2 52 % Nat.pow 2 11
  let fraction : Nat := bits.toNat % Nat.pow 2 52
  if exponent = 0 then ⟨fraction, -1074, false⟩
  else ⟨Nat.pow 2 52 + fraction, (exponent : Int) - 1075, fraction = 0 && 1 < exponent⟩

def Binary.ofFloat (x : Float) : Binary := .ofBits x.toBits

/-- The sign bit is set, as it is for a negative zero. -/
def isNegative (x : Float) : Bool := Nat.pow 2 63 ≤ x.toBits.toNat

def Binary.fraction (x : Binary) : Nat × Nat := (x.m * Nat.pow 2 x.q.toNat, Nat.pow 2 (-x.q).toNat)

end Reclaim.Decimal
