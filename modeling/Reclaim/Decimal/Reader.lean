import Reclaim.Text.Blank
import Reclaim.Text.DecimalDigit

/-!
# Reading numbers

A number is an optional sign, digits with an optional point, and an optional exponent; or one of
the words for infinity and for no number. Digits may be those of any script, blanks around the
number are skipped, and an underscore may stand between two digits.
-/

namespace Reclaim.Decimal

/-! ## The characters -/

/-- Each character as a number is read: digits of all scripts become ASCII ones and blanks beyond
ASCII become spaces. -/
def plainChar (c : Char) : Char :=
  if c.toNat < 0x7F then c
  else if Text.isBlank c then ' '
  else match Text.digitValue? c with
    | some d => Char.ofNat (48 + d)
    | none => c

/-- The blanks that may surround a number. The information separators are not among them. -/
def isGap (c : Char) : Bool := c = ' ' || (9 ≤ c.toNat && c.toNat ≤ 13)

def trimGaps (cs : List Char) : List Char :=
  ((cs.dropWhile isGap).reverse.dropWhile isGap).reverse

/-- Drops the underscores, each of which must stand between two digits. `previous` is a digit just
read. -/
def dropUnderscores (previous : Bool) : List Char → Option (List Char)
  | [] => some []
  | '_' :: c :: rest =>
    if previous && c.isDigit then (dropUnderscores true rest).map (c :: ·) else none
  | c :: rest => if c = '_' then none else (dropUnderscores c.isDigit rest).map (c :: ·)

/-! ## The parts -/

def natOf (digits : List Char) : Nat := digits.foldl (fun n c => 10 * n + (c.toNat - 48)) 0

def splitSign : List Char → Bool × List Char
  | '-' :: rest => (true, rest)
  | '+' :: rest => (false, rest)
  | cs => (false, cs)

def exponent? : List Char → Option Int
  | [] => some 0
  | c :: rest =>
    if c = 'e' || c = 'E' then
      let (negative, digits) := splitSign rest
      if !digits.isEmpty && digits.all Char.isDigit then
        some (if negative then -(natOf digits : Int) else natOf digits)
      else none
    else none

def nearest (digits : Nat) (exponent : Int) : Float :=
  let leading := (Nat.toDigits 10 digits).length + exponent
  if digits = 0 || leading < -400 then 0
  else if 400 < leading then 1.0 / 0.0
  else Float.ofScientific digits (exponent < 0) exponent.natAbs

def unsigned? (cs : List Char) : Option Float :=
  let whole := cs.takeWhile Char.isDigit
  let (places, rest) :=
    match cs.dropWhile Char.isDigit with
    | '.' :: rest => (rest.takeWhile Char.isDigit, rest.dropWhile Char.isDigit)
    | rest => ([], rest)
  if whole.isEmpty && places.isEmpty then
    let word := String.ofList (cs.map Char.toLower)
    if word = "inf" || word = "infinity" then some (1.0 / 0.0)
    else if word = "nan" then some (0.0 / 0.0)
    else none
  else (exponent? rest).map fun e => nearest (natOf (whole ++ places)) (e - places.length)

def read? (s : String) : Option Float := do
  let cs ← dropUnderscores false (trimGaps (s.toList.map plainChar))
  let (negative, magnitude) := splitSign cs
  let x ← unsigned? magnitude
  return if negative then -x else x

end Reclaim.Decimal
