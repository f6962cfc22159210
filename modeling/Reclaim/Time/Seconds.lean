import Reclaim.Time.Scale
import Reclaim.Decimal.Binary

/-!
# Seconds

A duration is a whole number of seconds or a floating point number, and is shown as it was given.
Whole numbers are exact, also in comparisons; sums with a floating point number are rounded. A clock
counts in floating point numbers, so a whole number beyond their range does not fit.
-/

namespace Reclaim

inductive Seconds where
  | whole (n : Int)
  | fractional (x : Float)

namespace Seconds

def toFloat : Seconds → Float
  | whole n => Float.ofInt n
  | fractional x => x

/-- The least whole number that no longer rounds to a finite floating point number: the largest of
these is `2 ^ 1024 - 2 ^ 971`, and half a step above it the rounding goes up. -/
def limit : Nat := Nat.pow 2 1024 - Nat.pow 2 970

def fits : Seconds → Bool
  | whole n => n.natAbs < limit
  | fractional _ => true

/-- How a whole number compares with a floating point number, by exact value. -/
def compareWhole (n : Int) (x : Float) : Option Ordering :=
  if x.isNaN then none
  else if x.isInf then some (if Decimal.isNegative x then .gt else .lt)
  else
    let (num, den) := (Decimal.Binary.ofFloat x).fraction
    some (compare (n * den) (if Decimal.isNegative x then -(num : Int) else num))

def atMost : Seconds → Seconds → Bool
  | whole m, whole n => m ≤ n
  | fractional x, fractional y => x ≤ y
  | whole n, fractional x => (compareWhole n x).any (· != .gt)
  | fractional x, whole n => (compareWhole n x).any (· != .lt)

def below : Seconds → Seconds → Bool
  | whole m, whole n => m < n
  | fractional x, fractional y => x < y
  | whole n, fractional x => compareWhole n x == some .lt
  | fractional x, whole n => compareWhole n x == some .gt

def plus : Seconds → Seconds → Seconds
  | whole m, whole n => whole (m + n)
  | a, b => fractional (a.toFloat + b.toFloat)

def minus : Seconds → Seconds → Seconds
  | whole m, whole n => whole (m - n)
  | a, b => fractional (a.toFloat - b.toFloat)

def shown : Seconds → Value
  | whole n => .int n
  | fractional x => .float x

end Seconds

instance : Timescale Seconds where
  seconds := .whole
  fits := Seconds.fits
  plus := Seconds.plus
  minus := Seconds.minus
  lengthened d := .fractional (d.toFloat * 1.5)
  atMost := Seconds.atMost
  below := Seconds.below
  shown := Seconds.shown

end Reclaim
