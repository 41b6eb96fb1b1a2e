import Wdl.Library.Operators
import Wdl.Pattern.Replace

/-!
The functions that expressions can call.

Most functions have fixed argument types, to which the arguments are coerced. Compound values are
written by functions too, but they have no values of their own, so each of these refuses to be
evaluated.
-/

namespace Wdl
namespace Library

/-- A function with fixed argument types. -/
inductive Static
  | floor | ceil | round | sub | basename | defined
  deriving DecidableEq, Repr

inductive Function
  | static (s : Static)
  | least
  | greatest
  | ifThenElse
  /-- a compound value, with the words for what cannot be evaluated -/
  | compound (what : String)
  deriving DecidableEq, Repr

namespace Static

def name : Static → String
  | .floor => "floor"
  | .ceil => "ceil"
  | .round => "round"
  | .sub => "sub"
  | .basename => "basename"
  | .defined => "defined"

def all : List Static := [.floor, .ceil, .round, .sub, .basename, .defined]

def argumentTypes : Static → List Ty
  | .floor => [.float]
  | .ceil => [.float]
  | .round => [.float]
  | .sub => [.string, .string, .string]
  | .basename => [.string, ⟨.string, true⟩]
  | .defined => [.any]

/-- The number of arguments that have to be given: optional ones at the end may be left out. -/
def leastArguments (s : Static) : Nat :=
  (s.argumentTypes.reverse.dropWhile Ty.optional).length

end Static

/-- A function that could not compute its value, and why. -/
def evaluationFailed (why : String) : Failure :=
  .arithmetic ("function evaluation failed" ++ why)

/-- The greatest integer that is not above a floating point number. -/
def floorOf (x : Float) : Except Failure Int :=
  match Binary64.decode x with
  | .finite neg m e => .ok (Binary64.floorOf neg m e)
  | .infinite _ => .error (evaluationFailed ", cannot convert float infinity to integer")
  | .nan => .error (evaluationFailed ", cannot convert float NaN to integer")

/-- The last component of a path, after a suffix has been taken from the end of the whole path. -/
def finalComponent (path suffix : String) : String :=
  let cs := path.toList
  let ss := suffix.toList
  let stem := if ss.isSuffixOf cs then cs.take (cs.length - ss.length) else cs
  String.ofList (stem.reverse.takeWhile (· != '/')).reverse

/-- The value of a function on arguments of its types. -/
def Static.compute (s : Static) (args : List Value) : Except Failure Value :=
  match s, args with
  | .floor, [.float x] => (floorOf x).map .int
  | .ceil, [.float x] => (floorOf (-x)).map fun n => .int (-n)
  | .round, [.float x] => (floorOf (x + 0.5)).map .int
  | .sub, [.string text, .string pattern, .string replacement] =>
    match Pattern.substitute text pattern replacement with
    | .ok t => .ok (.string t)
    | .error .malformed => .error (evaluationFailed "")
    | .error (.invalid why) => .error (evaluationFailed (", " ++ why))
    | .error .unknownGroup => .error .unknownGroup
    | .error (.several count) => .error (.severalCharacters count)
  | .basename, .string path :: .string suffix :: _ => .ok (.string (finalComponent path suffix))
  | .basename, .string path :: _ => .ok (.string (finalComponent path ""))
  | .defined, [.null] => .ok (.boolean false)
  | .defined, [_] => .ok (.boolean true)
  | _, _ => .error .operandCount

/-- The arguments of a function, coerced to its types; `i` is the number of the first of them. -/
def coerceArguments (name : String) : Nat → List Value → List Ty → Except Failure (List Value)
  | i, v :: vs, t :: ts => do
    let w ← match v.coerce t with
      | .error (.incompatible _) =>
        .error (.incompatible (name ++ " argument #" ++ toString i ++ " should be " ++ t.text ++
          ", not " ++ v.type.text))
      | result => result
    let ws ← coerceArguments name (i + 1) vs ts
    .ok (w :: ws)
  | _, _, _ => .ok []

/-- Calls a function with fixed argument types. -/
def Static.call (s : Static) (args : List Value) : Except Failure Value := do
  let types := s.argumentTypes
  if types.length < args.length || args.length < s.leastArguments then
    .error (miscounted s.name types.length args.length)
  else
    s.compute (← coerceArguments s.name 1 args types)

/-- The second of two numbers if it comes before the first in an order, and the first otherwise. -/
def pick {α : Type} (before : α → α → Bool) (a b : α) : α :=
  if before b a then b else a

/-- The least or the greatest of two numbers, floating point if one of them is. -/
def extreme (greatest : Bool) (args : List Value) : Except Failure Value :=
  let name := if greatest then "max" else "min"
  match args with
  | [.int a, .int b] => .ok (.int (if greatest then pick (· > ·) a b else pick (· < ·) a b))
  | [l, r] =>
    if isNumeric l && isNumeric r then do
      let a ← toFloat l
      let b ← toFloat r
      .ok (.float (if greatest then pick (· > ·) a b else pick (· < ·) a b))
    else
      .error (.incompatible (name ++ " arguments should be Int or Float, not " ++ l.type.text ++
        " and " ++ r.type.text))
  | args => .error (miscounted name 2 args.length)

/-- Chooses between two values. An integer that is chosen over a floating point number becomes
one. -/
def choose (args : List Value) : Except Failure Value :=
  match args with
  | [.boolean b, yes, no] =>
    match if b then (yes, no) else (no, yes) with
    | (.int n, .float _) => Value.floatOfInt n
    | (v, _) => .ok v
  | [condition, _, _] =>
    .error (.incompatible
      ("if-then-else condition should be Boolean, not " ++ condition.type.text))
  | args =>
    .error (.incompatible ("if-then-else expects 3 operands, not " ++ toString args.length))

namespace Function

/-- The names of compound values and the words for them. -/
def compounds : List (String × String) :=
  [("_array", "Array"), ("_pair", "Pair"), ("_map", "Map"), ("_object", "Object"),
   ("_struct", "struct"), ("_at", "Array/Map element"), ("_get", "member access")]

/-- The function with a given name. -/
def ofName? (s : String) : Option Function :=
  match s with
  | "min" => some .least
  | "max" => some .greatest
  | "_ifthenelse" => some .ifThenElse
  | _ =>
    match Static.all.find? fun f => f.name == s with
    | some f => some (.static f)
    | none => (compounds.lookup s).map .compound

/-- Calls a function. -/
def call (f : Function) (args : List Value) : Except Failure Value :=
  match f with
  | .static s => s.call args
  | .least => extreme false args
  | .greatest => extreme true args
  | .ifThenElse => choose args
  | .compound what => .error (.incompatible (what ++ " values can't be evaluated"))

end Function

/-- A name that no function has. -/
def unknownFunction (name : String) : Problem :=
  .unresolved ("No such function: " ++ name)

end Library
end Wdl
