import Reclaim.Text.RangeTable

/-!
# Blank characters

Blank is what Unicode calls white space, together with the four information separators.
Zero-width characters are not blank.
-/

namespace Reclaim.Text

def blanks : RangeTable :=
  [ (0x0009, 0x000D), (0x001C, 0x0020), (0x0085, 0x0085), (0x00A0, 0x00A0), (0x1680, 0x1680),
    (0x2000, 0x200A), (0x2028, 0x2029), (0x202F, 0x202F), (0x205F, 0x205F), (0x3000, 0x3000) ]

def isBlank (c : Char) : Bool := blanks.covers c

def trim (cs : List Char) : List Char :=
  ((cs.dropWhile isBlank).reverse.dropWhile isBlank).reverse

def strip (s : String) : String := String.ofList (trim s.toList)

end Reclaim.Text
