import Wdl.Assoc
import Wdl.Decimal.Layout
import Wdl.Text.Quoted

/-!
JSON data.

Integers and floating point numbers are kept apart, and an object keeps its members in the order in
which they were given. `Json.render` writes data on one line and `Json.pretty` over several, both in
ASCII.
-/

namespace Wdl

inductive Json
  | null
  | bool (b : Bool)
  | int (n : Int)
  | float (x : Float)
  | str (s : String)
  | arr (items : List Json)
  | obj (members : List (String × Json))
  deriving Inhabited

namespace Json

mutual

/-- Data on one line, with a blank after each comma and colon. -/
def render : Json → String
  | .null => "null"
  | .bool b => if b then "true" else "false"
  | .int n => toString n
  | .float x => Decimal.json.render x
  | .str s => Text.jsonQuoted s
  | .arr items => "[" ++ ", ".intercalate (renderItems items) ++ "]"
  | .obj members => "\x7b" ++ ", ".intercalate (renderMembers members) ++ "\x7d"

def renderItems : List Json → List String
  | [] => []
  | j :: js => render j :: renderItems js

def renderMembers : List (String × Json) → List String
  | [] => []
  | (k, v) :: rest => (Text.jsonQuoted k ++ ": " ++ render v) :: renderMembers rest

end

/-- The start of a line that is indented by `depth` levels of two blanks. -/
def newline (depth : Nat) : String :=
  "\n" ++ "".pushn ' ' (2 * depth)

mutual

/-- Data with one item on a line, where the current line is indented by `depth` levels. -/
def prettyAt (depth : Nat) : Json → String
  | .arr [] => "[]"
  | .obj [] => "\x7b\x7d"
  | .arr items =>
    "[" ++ ",".intercalate (prettyItems (depth + 1) items) ++ newline depth ++ "]"
  | .obj members =>
    "\x7b" ++ ",".intercalate (prettyMembers (depth + 1) members) ++ newline depth ++ "\x7d"
  | .null => "null"
  | .bool b => if b then "true" else "false"
  | .int n => toString n
  | .float x => Decimal.json.render x
  | .str s => Text.jsonQuoted s

def prettyItems (depth : Nat) : List Json → List String
  | [] => []
  | j :: js => (newline depth ++ prettyAt depth j) :: prettyItems depth js

def prettyMembers (depth : Nat) : List (String × Json) → List String
  | [] => []
  | (k, v) :: rest =>
    (newline depth ++ Text.jsonQuoted k ++ ": " ++ prettyAt depth v) :: prettyMembers depth rest

end

/-- Data over several lines. -/
def pretty (j : Json) : String :=
  prettyAt 0 j

/-- The value of a member of an object. -/
def get? (j : Json) (key : String) : Option Json :=
  match j with
  | .obj members => members.lookup key
  | _ => none

def ofStrings (ss : List String) : Json :=
  .arr (ss.map .str)

/-- A text, or null. -/
def ofString? (s : Option String) : Json :=
  match s with
  | some s => .str s
  | none => .null

end Json
end Wdl
