import Wdl.Fault
import Wdl.Json.Basic
import Wdl.Ty

/-!
Values of expressions.

Besides its content a value has two written forms: `Value.text`, the form in which it becomes part
of a string, and `Value.shown`, the form in which it is shown as data.
-/

namespace Wdl

inductive Value
  | boolean (b : Bool)
  | int (n : Int)
  | float (x : Float)
  | string (s : String)
  | file (s : String)
  | null

instance : Inhabited Value := ⟨.null⟩

namespace Value

def type : Value → Ty
  | .boolean _ => .boolean
  | .int _ => .int
  | .float _ => .float
  | .string _ => .string
  | .file _ => .file
  | .null => .null

/-- The content of a value as data. -/
def json : Value → Json
  | .boolean b => .bool b
  | .int n => .int n
  | .float x => .float x
  | .string s => .str s
  | .file s => .str s
  | .null => .null

/-- The name of the class of values that a value belongs to. -/
def kind : Value → String
  | .null => "Null"
  | v => v.type.base.name

/-- The text of a value inside a string. The missing value has none. -/
def text : Value → String
  | .boolean b => if b then "true" else "false"
  | .int n => toString n
  | .float x => Decimal.text.render x
  | .string s => s
  | .file s => s
  | .null => ""

/-- A value as data, as compiled expressions show it. -/
def shown : Value → String
  | .float x => Decimal.plain.render x
  | .null => "None"
  | v => v.json.render

/-- The content of a value as debugging output shows it. -/
def content : Value → String
  | .boolean b => if b then "True" else "False"
  | .int n => toString n
  | .float x => Decimal.plain.render x
  | .string s => Text.quoted s
  | .file s => Text.quoted s
  | .null => "None"

/-- A value with its class, as debugging output shows it. -/
def described (v : Value) : String :=
  v.kind ++ "(" ++ v.content ++ ")"

/-- Whether two values are the same: of one type and with equal contents. A floating point number
that is not a number differs from itself. -/
def same : Value → Value → Bool
  | .boolean a, .boolean b => a == b
  | .int a, .int b => a == b
  | .float a, .float b => a == b
  | .string a, .string b => a == b
  | .file a, .file b => a == b
  | .null, .null => true
  | _, _ => false

/-! ## Taking a value for one of another type -/

/-- The floating point number nearest to an integer. -/
def floatOfInt (n : Int) : Except Failure Value :=
  match Binary64.ofInt? n with
  | some x => .ok (.float x)
  | none => .error .overflow

def cannotCoerce (v : Value) (t : Ty) : Failure :=
  .incompatible ("cannot coerce " ++ v.type.text ++ " to " ++ t.text)

/-- Takes a value for one of a given type. Anything but the missing value becomes a string by its
text, an integer becomes the nearest floating point number, and strings and files become each other;
other values stay as they are if their type allows it. -/
def coerce (v : Value) (t : Ty) : Except Failure Value :=
  match v, t.base with
  | .null, b =>
    if t.optional || b == .any then .ok .null
    else .error (.incompatible ("'None' for non-optional " ++ t.text))
  | .int n, .float => floatOfInt n
  | .string s, .file => .ok (.file s)
  | .file s, .string => .ok (.string s)
  | .string s, .string => .ok (.string s)
  | v, .string => .ok (.string v.text)
  | v, _ => if v.type.coerces t then .ok v else .error (v.cannotCoerce t)

/-- Takes a value for one of a type that may be left open. -/
def coerceTo? (v : Value) (t : Option Ty) : Except Failure Value :=
  match t with
  | some t => v.coerce t
  | none => .ok v

end Value
end Wdl
