import Reclaim.Value.Basic
import Reclaim.Decimal.Notation
import Reclaim.Text.Quoted

/-!
# Values as JSON

JSON in ASCII: a blank follows each comma and colon, and every character outside printable ASCII
is escaped by its 16-bit units.
-/

namespace Reclaim

namespace Json

def escapeUnit (n : Nat) : List Char := '\\' :: 'u' :: Text.hexDigits 4 n

def escapeChar (c : Char) : List Char :=
  if c = '"' || c = '\\' then ['\\', c]
  else if c = '\n' then ['\\', 'n']
  else if c = '\r' then ['\\', 'r']
  else if c = '\t' then ['\\', 't']
  else if c.toNat = 0x08 then ['\\', 'b']
  else if c.toNat = 0x0C then ['\\', 'f']
  else if 0x20 ≤ c.toNat && c.toNat < 0x7F then [c]
  else if c.toNat < 0x10000 then escapeUnit c.toNat
  else
    let n := c.toNat - 0x10000
    escapeUnit (0xD800 + n / 0x400) ++ escapeUnit (0xDC00 + n % 0x400)

def string (s : String) : String :=
  String.ofList ('"' :: s.toList.flatMap escapeChar ++ ['"'])

def number (x : Float) : String :=
  if x.isNaN then "NaN"
  else if x.isInf then (if Decimal.isNegative x then "-Infinity" else "Infinity")
  else Decimal.text x

end Json

mutual

def Value.json : Value → String
  | .null => "null"
  | .bool true => "true"
  | .bool false => "false"
  | .int n => toString n
  | .float x => Json.number x
  | .str s => Json.string s
  | .list items => "[" ++ ", ".intercalate (jsonItems items) ++ "]"
  | .dict entries => "\x7b" ++ ", ".intercalate (jsonEntries entries) ++ "\x7d"

def jsonItems : List Value → List String
  | [] => []
  | v :: rest => v.json :: jsonItems rest

def jsonEntries : List (String × Value) → List String
  | [] => []
  | (k, v) :: rest => (Json.string k ++ ": " ++ v.json) :: jsonEntries rest

end

end Reclaim
