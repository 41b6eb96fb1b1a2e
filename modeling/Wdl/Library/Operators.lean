import Wdl.Expr.Operator
import Wdl.Value

/-!
What the operators compute.

Arithmetic on integers wraps to 64 bits; division goes toward zero. If one operand is a floating
point number the other is taken for one too. `+` also joins strings and files. Comparison is between
values of one type, or of the two numeric ones; files can only be equal or not.
-/

namespace Wdl
namespace Library

/-- The integer of 64 bits that is congruent to `n`. -/
def wrap (n : Int) : Int :=
  (n + 0x8000000000000000) % 0x10000000000000000 - 0x8000000000000000

/-- The operators that compute a number from two numbers. -/
inductive Arithmetic
  | add | sub | mul | div | mod
  deriving DecidableEq, Repr

/-- The operators that compare two values. -/
inductive Comparison
  | eq | neq | lt | lte | gt | gte
  deriving DecidableEq, Repr

namespace Arithmetic

/-- The result on integers, before it is wrapped. -/
def onInts (op : Arithmetic) (l r : Int) : Except Failure Int :=
  match op with
  | .add => .ok (l + r)
  | .sub => .ok (l - r)
  | .mul => .ok (l * r)
  | .div => if r == 0 then .error (.arithmetic "integer division by zero") else .ok (l.tdiv r)
  | .mod =>
    if r == 0 then .error (.arithmetic "integer modulo by zero") else .ok (l - r * l.tdiv r)

/-- A quotient of floating point numbers; division by zero gives an infinity with the sign of the
quotient, or no number. -/
def divideFloats (l r : Float) : Float :=
  if r == 0.0 then
    if l == 0.0 || l.isNaN then Binary64.nan
    else Binary64.infinity (Binary64.isNegative l != Binary64.isNegative r)
  else l / r

def onFloats (op : Arithmetic) (l r : Float) : Float :=
  match op with
  | .add => l + r
  | .sub => l - r
  | .mul => l * r
  | .div => divideFloats l r
  | .mod => Binary64.remainder l r

end Arithmetic

namespace Comparison

/-- The outcome for operands of which only order and equality matter. -/
def outcome {α : Type} [LT α] [DecidableLT α] [BEq α] (op : Comparison) (l r : α) : Bool :=
  match op with
  | .eq => l == r
  | .neq => !(l == r)
  | .lt => decide (l < r)
  | .lte => decide (l < r) || l == r
  | .gt => decide (r < l)
  | .gte => decide (r < l) || l == r

/-- Whether an operator compares for equality only. -/
def isEquality : Comparison → Bool
  | .eq => true
  | .neq => true
  | _ => false

end Comparison

/-- A number as a floating point number. -/
def toFloat : Value → Except Failure Float
  | .int n =>
    match Binary64.ofInt? n with
    | some x => .ok x
    | none => .error .overflow
  | .float x => .ok x
  | v => .error (v.cannotCoerce .float)

def isNumeric : Value → Bool
  | .int _ => true
  | .float _ => true
  | _ => false

/-- Refuses the missing value as an operand. -/
def refuseNull (sign : String) (args : List Value) : Except Failure Unit :=
  if args.any fun v => v.type.base == .any then
    .error (.incompatible ("None operand to " ++ sign ++ " operator"))
  else .ok ()

/-- Both operand types around the sign of an operator. -/
def operandTypes (sign : String) (l r : Value) : String :=
  sign ++ " operator: " ++ l.type.text ++ " " ++ sign ++ " " ++ r.type.text

/-- Arithmetic on two values that are present. -/
def arithmetic (op : Arithmetic) (sign : String) (l r : Value) : Except Failure Value :=
  match l, r with
  | .int a, .int b => (op.onInts a b).map fun n => .int (wrap n)
  | l, r =>
    if isNumeric l && isNumeric r then do
      let a ← toFloat l
      let b ← toFloat r
      .ok (.float (op.onFloats a b))
    else .error (.incompatible ("Non-numeric operand to " ++ operandTypes sign l r))

/-- Joins two strings, or a string and the text of a number; all other operands are added. -/
def addOrJoin (l r : Value) : Except Failure Value :=
  match l, r with
  | .string a, .string b => .ok (.string (a ++ b))
  | .string a, .file b => .ok (.file (a ++ b))
  | .file a, .string b => .ok (.file (a ++ b))
  | .file a, .file b => .ok (.file (a ++ b))
  | .string a, .int b => .ok (.string (a ++ (Value.int b).text))
  | .string a, .float b => .ok (.string (a ++ (Value.float b).text))
  | .int a, .string b => .ok (.string ((Value.int a).text ++ b))
  | .float a, .string b => .ok (.string ((Value.float a).text ++ b))
  | l, r =>
    if l.type.base == .string || l.type.base == .file || r.type.base == .string ||
        r.type.base == .file then
      .error (.incompatible ("Cannot add/concatenate " ++ l.type.text ++ " and " ++ r.type.text))
    else arithmetic .add "+" l r

/-- Comparison of two texts, of which one may name a file. -/
def compareTexts (op : Comparison) (l r : Value) (a b : String) : Except Failure Value :=
  if (l.type.base == .file || r.type.base == .file) && !op.isEquality then
    .error (.incompatible ("Cannot order " ++ l.type.text ++ " and " ++ r.type.text))
  else .ok (.boolean (op.outcome a b))

/-- Comparison of two values that are present. Booleans compare by their texts. -/
def compare (op : Comparison) (l r : Value) : Except Failure Value :=
  match l, r with
  | .boolean _, .boolean _ => .ok (.boolean (op.outcome l.text r.text))
  | .int a, .int b => .ok (.boolean (op.outcome a b))
  | .string a, .string b => compareTexts op l r a b
  | .string a, .file b => compareTexts op l r a b
  | .file a, .string b => compareTexts op l r a b
  | .file a, .file b => compareTexts op l r a b
  | l, r =>
    if isNumeric l && isNumeric r then do
      let a ← toFloat l
      let b ← toFloat r
      .ok (.boolean (op.outcome a b))
    else .error (.incompatible ("Cannot compare " ++ l.type.text ++ " and " ++ r.type.text))

/-- A logical operator on two values that are present. -/
def logical (f : Bool → Bool → Bool) (sign : String) (l r : Value) : Except Failure Value :=
  match l, r with
  | .boolean a, .boolean b => .ok (.boolean (f a b))
  | l, r => .error (.incompatible ("Non-Boolean operand to " ++ operandTypes sign l r))

/-- A binary operator on two values. -/
def binary (op : BinaryOp) (l r : Value) : Except Failure Value := do
  refuseNull op.sign [l, r]
  match op with
  | .add => addOrJoin l r
  | .sub => arithmetic .sub op.sign l r
  | .mul => arithmetic .mul op.sign l r
  | .div => arithmetic .div op.sign l r
  | .mod => arithmetic .mod op.sign l r
  | .eq => compare .eq l r
  | .neq => compare .neq l r
  | .lt => compare .lt l r
  | .lte => compare .lte l r
  | .gt => compare .gt l r
  | .gte => compare .gte l r
  | .and => logical (· && ·) op.sign l r
  | .or => logical (· || ·) op.sign l r

/-- The negative of a number. -/
def negate (v : Value) : Except Failure Value := do
  refuseNull "-" [v]
  match v with
  | .int n => .ok (.int (wrap (-n)))
  | .float x => .ok (.float (-x))
  | v => .error (.incompatible ("Non-numeric operand to unary - operator: " ++ v.type.text))

/-- A wrong number of arguments. -/
def miscounted (name : String) (expected given : Nat) : Failure :=
  .incompatible
    (name ++ " expects " ++ toString expected ++ " argument(s), not " ++ toString given)

/-- The opposite of a Boolean. -/
def complement (v : Value) : Except Failure Value :=
  match v with
  | .boolean b => .ok (.boolean (!b))
  | v => .error (.incompatible ("! argument #1 should be Boolean, not " ++ v.type.text))

/-- An operator on its operands. Negation of a Boolean says how many operands it expects; the other
operators are only ever given as many as they have. -/
def operator (op : Operator) (args : List Value) : Except Failure Value :=
  match op, args with
  | .neg, [v] => negate v
  | .not, [v] => complement v
  | .not, args => .error (miscounted "!" 1 args.length)
  | .str, [v] => .ok (.string v.text)
  | .binary op, [l, r] => binary op l r
  | _, _ => .error .operandCount

end Library
end Wdl
