import Wdl.Builder.Expressions
import Wdl.Expr.Eval

/-!
Direct evaluation of parse trees.

`Tree.value` gives the outcome of a parse tree of an expression by recursion on the tree: the
operands are evaluated from left to right, and then the operator, function or placeholder option of
the production is applied to their values.  Nothing is compiled and there is no stack.

What an operator or a function computes is taken from the library, and how a name gets its value is
a parameter.
-/

namespace Wdl

/-- The value of something, or why it has none. -/
abbrev Outcome := Except Cause

/-- The outcome of an evaluation, whatever its fault is about. -/
def outcome {α : Type} (x : Except Fault α) : Outcome α :=
  x.mapError Fault.cause

/-- An operator applied to values. -/
def Operator.outcome (op : Operator) (args : List Value) : Outcome Value :=
  (Library.operator op args).mapError .failure

/-- A function, given by its name, applied to values. -/
def Library.outcome (function : String) (args : List Value) : Outcome Value :=
  match Library.Function.ofName? function with
  | none => .error (.problem (Library.unknownFunction function))
  | some f => (f.call args).mapError .failure

namespace Tree

/-- The name that a tree stands for, if it is a name or a member of one. -/
def dotted? : Tree → Option String
  | .node .leftName _ [.token k] => some k.text
  | .node .member _ [x, .token k] => (dotted? x).map (· ++ "." ++ k.text)
  | _ => none

/-- The key of a member of an object. -/
def keyText : Tree → String
  | .token k => k.text
  | t => (Builder.literalText? t).getD ""

/-- The options of a placeholder with their values, in order. -/
def optionList (ts : List Tree) : Bindings :=
  ts.filterMap fun t =>
    (t.children[1]?.bind Builder.optionValue?).map (t.childText 0, ·)

mutual

/-- The outcome of a tree, given those of the names in it. -/
def value (resolve : String → Outcome Value) : Tree → Outcome Value
  | .node .expr _ [x] => value resolve x
  | .node .exprOperand _ [x] => value resolve x
  | .node .group _ [x] => value resolve x
  | .node .unaryPlus _ [x] => value resolve x
  | .node .negate _ [x] => do
    let v ← value resolve x
    Operator.not.outcome [v]
  | .node .unaryMinus _ [x] => do
    let v ← value resolve x
    Operator.neg.outcome [v]
  | .node (.binary op) _ [x, y] => do
    let v ← value resolve x
    let w ← value resolve y
    (Operator.binary op).outcome [v, w]
  | .node .array _ xs => do
    let vs ← values resolve xs
    Library.outcome "_array" vs
  | .node .index _ xs => do
    let vs ← values resolve xs
    Library.outcome "_at" vs
  | .node .pair _ xs => do
    let vs ← values resolve xs
    Library.outcome "_pair" vs
  | .node .map _ xs => do
    let vs ← values resolve xs
    Library.outcome "_map" vs
  | .node .ifThenElse _ xs => do
    let vs ← values resolve xs
    Library.outcome "_ifthenelse" vs
  | .node .apply _ (.token k :: xs) => do
    let vs ← values resolve xs
    Library.outcome k.text vs
  | .node .object _ (.token k :: xs) => do
    let vs ← values resolve xs
    if k.text == "object" then Library.outcome "_object" vs
    else Library.outcome "_struct" (.string k.text :: vs)
  | .node .leftName _ [.token k] => resolve k.text
  | .node .member _ [x, .token k] =>
    match dotted? x with
    | some name => resolve (name ++ "." ++ k.text)
    | none => do
      let v ← value resolve x
      Library.outcome "_get" [v, .string k.text]
  | .node .booleanTrue _ _ => .ok (.boolean true)
  | .node .booleanFalse _ _ => .ok (.boolean false)
  | .node .null _ _ => .ok .null
  | .node .int _ [.token k] => .ok (.int (Text.natOfAscii k.text))
  | .node .float _ [.token k] => .ok (.float (Decimal.floatOfNumeral k.text))
  | .node .string _ xs => do
    let s ← text resolve xs
    .ok (.string s)
  | .node .placeholder _ xs => do
    let v ← lastValue resolve xs
    (applyOptions (optionList xs) v).mapError .failure
  | _ => .error (.failure (.eval ""))

/-- The values of operands.  An entry of a map or an object has two, its key and its value. -/
def values (resolve : String → Outcome Value) : List Tree → Outcome (List Value)
  | [] => .ok []
  | .node .mapEntry _ [x, y] :: ts => do
    let v ← value resolve x
    let w ← value resolve y
    let vs ← values resolve ts
    .ok (v :: w :: vs)
  | .node .objectEntry _ [x, y] :: ts => do
    let w ← value resolve y
    let vs ← values resolve ts
    .ok (.string (keyText x) :: w :: vs)
  | t :: ts => do
    let v ← value resolve t
    let vs ← values resolve ts
    .ok (v :: vs)

/-- The text of the parts of a string, one after another. -/
def text (resolve : String → Outcome Value) : List Tree → Outcome String
  | [] => .ok ""
  | .node .stringPart e cs :: ts => do
    let s ← text resolve ts
    .ok ((Tree.node .stringPart e cs).tokenText ++ s)
  | .node .stringExprWithPart _ [.node .stringExprPart _ [x], y] :: ts => do
    let v ← value resolve x
    let s ← text resolve ts
    .ok (v.text ++ (y.tokenText ++ s))
  | _ :: ts => text resolve ts

/-- The value of the last of some trees. -/
def lastValue (resolve : String → Outcome Value) : List Tree → Outcome Value
  | [] => .error (.failure (.eval ""))
  | [t] => value resolve t
  | _ :: ts => lastValue resolve ts

end

end Tree
end Wdl
