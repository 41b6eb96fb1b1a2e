import Wdl.Expr.Operator
import Wdl.Value
import Wdl.Position

/-!
Compiled expressions.

A compiled expression is a sequence of items in postfix order. Literals and names contribute a
value, operators and applications take their operands from the values before them, and a nested
expression is evaluated by itself and contributes one value.
-/

namespace Wdl

/-- A node of a document is named by its number. -/
abbrev NodeId := Nat

/-- What an expression carries besides its items: where it stands, if it is a placeholder, its
options, and if it belongs to a document, its node there. -/
structure ExprInfo where
  span : Span
  position : Option Position := none
  options : List (String × Value) := []
  node : Option NodeId := none

inductive Item
  | literal (v : Value)
  | name (n : String)
  | operator (op : Operator)
  /-- a function, or the constructor of a compound value, and the number of its operands -/
  | apply (function : String) (arity : Nat)
  | nested (info : ExprInfo) (items : List Item)
  /-- something that no expression may hold -/
  | invalid (text : String)

instance : Inhabited Item := ⟨.literal .null⟩

structure Expr where
  info : ExprInfo
  items : List Item := []

instance : Inhabited Expr := ⟨⟨⟨⟨0, 0⟩, none, [], none⟩, []⟩⟩

namespace Item

mutual

/-- An item as compiled expressions show it. -/
def shown : Item → String
  | .literal v => v.shown
  | .name n => n
  | .operator op => op.name
  | .apply f n => f ++ "/" ++ toString n
  | .nested _ items => "Expression[" ++ ", ".intercalate (shownList items) ++ "]"
  | .invalid s => s

def shownList : List Item → List String
  | [] => []
  | i :: is => shown i :: shownList is

end

/-- The items of an expression as it shows them. -/
def sequence (items : List Item) : String :=
  "[" ++ ", ".intercalate (shownList items) ++ "]"

/-- An operator as debugging output shows it. -/
def operatorDescribed (op : Operator) : String :=
  "<Operator." ++ op.name.map Char.toUpper ++ ": '" ++ op.name ++ "'>"

/-- An item with its class, as debugging output shows it. -/
def described : Item → String
  | .literal v => v.described
  | .name n => "Identifier(" ++ Text.quoted n ++ ")"
  | .operator op => operatorDescribed op
  | .apply f n => "Apply(" ++ Text.quoted f ++ ", " ++ toString n ++ ")"
  | .nested _ items => "Expression(" ++ sequence items ++ ")"
  | .invalid s => Text.quoted s

/-- Whether two items are the same; nested expressions never are. -/
def same : Item → Item → Bool
  | .literal v, .literal w => v.same w
  | .name a, .name b => a == b
  | .operator a, .operator b => a == b
  | .apply f m, .apply g n => f == g && m == n
  | .invalid a, .invalid b => a == b
  | _, _ => false

mutual

/-- An item as data. -/
def json : Item → Json
  | .literal v => .obj [("value", v.json), ("type", .str v.type.text)]
  | .name n => .obj [("identifier", .str n)]
  | .operator op => .obj [("operator", .str op.name)]
  | .apply f n => .obj [("apply", .str f), ("arity", .int n)]
  | .nested _ items => .obj [("expression", .arr (jsonList items))]
  | .invalid s => .str s

def jsonList : List Item → List Json
  | [] => []
  | i :: is => json i :: jsonList is

end

/-- Whether a name can be looked up: it is not empty and so are none of its dotted parts. -/
def isLegalName (n : String) : Bool :=
  (Text.splitOn '.' n).all fun part => !part.isEmpty

end Item

namespace Expr

/-- The items in brackets. -/
def text (e : Expr) : String :=
  Item.sequence e.items

/-- An expression as debugging output shows it. -/
def described (e : Expr) : String :=
  "Expression(" ++ e.text ++ ")"

/-- The value of an expression that is a single literal. -/
def literal? (e : Expr) : Option Value :=
  match e.items with
  | [.literal v] => some v
  | _ => none

/-- The expression as an item of another. -/
def toItem (e : Expr) : Item :=
  .nested e.info e.items

end Expr
end Wdl
