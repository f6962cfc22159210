import Reclaim.Log.Entry
import Reclaim.Text.Segments
import Reclaim.Text.Uppercase
import Reclaim.Value.Json

/-!
# Log lines

An entry is printed as a JSON object on one line, or as text for people, which may have several
lines. A field that is set again keeps its place and takes the new value. The time of an entry is
always written `T`.
-/

namespace Reclaim.Log

/-- Sets a field, at its place if it has one and otherwise at the end. -/
def put (fields : Fields) (key : String) (value : Value) : Fields :=
  if fields.any (·.1 == key) then
    fields.map fun field => if field.1 == key then (key, value) else field
  else fields ++ [(key, value)]

def putAll (fields more : Fields) : Fields :=
  more.foldl (fun fields field => put fields field.1 field.2) fields

/-- The entry's own fields. An entry about a fault is marked. -/
def Entry.ownFields (entry : Entry) : Fields :=
  let fields := putAll [] entry.fields
  if entry.channel = .exception && !fields.any (·.1 == "exc_info") then
    fields ++ [("exc_info", .bool true)]
  else fields

def Entry.allFields (bound : Fields) (entry : Entry) : Fields :=
  putAll (putAll [] bound) (entry.ownFields ++
    [("event", .str entry.event), ("timestamp", .str "T"),
      ("level", .str entry.channel.levelName)])

/-! ## Names of fields -/

def reserved : List String := ["self", "event"]

def reservedInPrint : String := "method_name"

def bind (fields : Fields) : Except Fault Fields :=
  if fields.any (·.1 == "self") then .error (.reservedField "self") else .ok fields

/-! ## JSON -/

def Entry.jsonLine (bound : Fields) (entry : Entry) : String :=
  (Value.dict (entry.allFields bound)).json

/-! ## Text -/

def pad (width : Nat) (s : String) : String :=
  s ++ String.ofList (List.replicate (width - s.length) ' ')

/-- Text is quoted where it could be misread. -/
def needsQuotes (s : String) : Bool :=
  s.toList.any fun c => [' ', '\t', '=', '\r', '\n', '"', '\''].contains c

def fieldText (v : Value) : String :=
  match v with
  | .str s => if needsQuotes s then v.shown else s
  | v => v.shown

/-- The fields that have a place of their own: on the line, or below it, or none. -/
def placed : List String :=
  ["timestamp", "level", "event", "logger", "logger_name", "exc_info", "exception", "stack"]

def dropTrailingSpaces (cs : List Char) : List Char :=
  (cs.reverse.dropWhile (· = ' ')).reverse

def headLine (channel : Channel) (event : String) (fields : Fields) : String :=
  let loggers := ["logger", "logger_name"].filterMap fun key =>
    (fields.lookup key).map fun v => "[" ++ v.text ++ "]"
  let others := (fields.filter fun field => !placed.contains field.1).mergeSort
    fun a b => a.1 ≤ b.1
  let columns := ["T", "[" ++ pad 9 channel.levelName ++ "]", pad 30 event] ++ loggers ++
    others.map fun field => field.1 ++ "=" ++ fieldText field.2
  String.ofList (dropTrailingSpaces (" ".intercalate columns).toList)

def below (fields : Fields) (key : String) : Except Fault (Option String) :=
  match (fields.lookup key).getD .null with
  | .null => .ok none
  | .str s => .ok (some s)
  | _ => .error (.fieldNotText key)

def rule : String := "\n\n" ++ String.ofList (List.replicate 79 '=') ++ "\n"

/-- The line of the entry, and below it the stack and the exception that its fields tell of. The
stack is ruled off also where the entry is only marked to be about a fault. -/
def Entry.prose (bound : Fields) (entry : Entry) : Except Fault String := do
  let fields := entry.allFields bound
  let stack ← below fields "stack"
  let exception ← below fields "exception"
  let marked := ((fields.lookup "exc_info").getD .null).saysSomething
  let ruled := if exception.isSome || marked then rule else ""
  return headLine entry.channel entry.event fields ++
    stack.elim "" (fun s => "\n" ++ s ++ ruled) ++ exception.elim "" (fun s => "\n" ++ s)

/-! ## What is printed -/

inductive Style where
  | json
  | text

structure Printer where
  /-- Entries of less weight are left out. -/
  threshold : Nat
  style : Style

namespace Printer

/-- A printer for the level of this name, whose letters may be of either case. -/
def make (level : String) (style : Style) : Except Fault Printer :=
  let name := Text.upper level
  match threshold? name with
  | some threshold => .ok ⟨threshold, style⟩
  | none => .error (.unknownLogLevel name)

def prints (printer : Printer) (entry : Entry) : Bool := printer.threshold ≤ entry.channel.weight

def refused? (printer : Printer) (entry : Entry) : Option String :=
  (entry.fields.map (·.1)).find? fun name =>
    reserved.contains name || printer.prints entry && name == reservedInPrint

def text (printer : Printer) (bound : Fields) (entry : Entry) : Except Fault String :=
  match printer.style with
  | .json => .ok (entry.jsonLine bound)
  | .text => entry.prose bound

def lines (printer : Printer) (bound : Fields) (entry : Entry) : Except Fault (List String) := do
  if let some name := printer.refused? entry then throw (.reservedField name)
  if !printer.prints entry then return []
  return (Text.segments '\n' (← printer.text bound entry).toList).map String.ofList

end Printer

end Reclaim.Log
