import Reclaim.Decimal.Shortest

/-!
# Numbers in messages

A number is written with the fewest digits that identify it: with a point, and at least one digit
behind it, from `0.0001` up to sixteen digits before the point, otherwise with an exponent of at
least two digits and its sign.
-/

namespace Reclaim.Decimal

def digitsOf (n : Nat) : List Char := Nat.toDigits 10 n

def zeros (n : Nat) : List Char := List.replicate n '0'

/-- The digits with the point after the first `before` of them. -/
def positional (digits : List Char) (before : Int) : List Char :=
  if before ≤ 0 then '0' :: '.' :: zeros (-before).toNat ++ digits
  else
    let whole := digits.take before.toNat ++ zeros (before.toNat - digits.length)
    let rest := digits.drop before.toNat
    whole ++ '.' :: if rest.isEmpty then ['0'] else rest

/-- One digit before the point, and the power of ten behind an `e`. -/
def scientific (digits : List Char) (power : Int) : List Char :=
  let rest := digits.drop 1
  let number := digitsOf power.natAbs
  digits.take 1 ++ (if rest.isEmpty then [] else '.' :: rest) ++
    'e' :: (if power < 0 then '-' else '+') :: zeros (2 - number.length) ++ number

def Numeral.chars (n : Numeral) : List Char :=
  let digits := digitsOf n.digits
  let before := (digits.length : Int) + n.exponent
  if n.digits = 0 || (-4 < before && before ≤ 16) then positional digits before
  else scientific digits (before - 1)

def text (x : Float) : String :=
  if x.isNaN then "nan"
  else
    let sign := if isNegative x then ['-'] else []
    String.ofList (sign ++ if x.isInf then ['i', 'n', 'f'] else (Binary.ofFloat x).shortest.chars)

end Reclaim.Decimal
