import Reclaim.Value.Basic

/-!
# Time scales

The trackers only add, subtract and compare durations, and lengthen them by half. They work on
every type that offers this: on seconds as callers write them, and on exact fractions.
-/

namespace Reclaim

class Timescale (τ : Type) where
  seconds : Int → τ
  fits : τ → Bool
  plus : τ → τ → τ
  minus : τ → τ → τ
  lengthened : τ → τ
  atMost : τ → τ → Bool
  below : τ → τ → Bool
  /-- The duration as messages and log entries show it. -/
  shown : τ → Value

namespace Timescale

variable {τ : Type} [Timescale τ]

def isPositive (d : τ) : Bool := !atMost d (seconds 0)

/-- The second one only if it is shorter. -/
def shorter (a b : τ) : τ := if below b a then b else a

end Timescale

/-! ## Exact fractions -/

instance : Timescale Rat where
  seconds n := n
  fits _ := true
  plus a b := a + b
  minus a b := a - b
  lengthened a := a * (3 / 2)
  atMost a b := a ≤ b
  below a b := a < b
  shown a := if a.den = 1 then .int a.num else .str (toString a)

@[simp] theorem Timescale.fits_rat (d : Rat) : fits d = true := rfl

end Reclaim
