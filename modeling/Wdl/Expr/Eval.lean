import Wdl.Expr.Basic
import Wdl.Library.Functions

/-!
Evaluation of compiled expressions.

Items are run from left to right on a stack of values. How a name gets its value is a parameter, so
one evaluator serves all environments. A fault is about the expression whose items were running when
it arose, unless it is about something else already.
-/

namespace Wdl

/-- What a fault is about. -/
inductive Site
  | expression (e : Expr)
  /-- a part of a document, as debugging output shows it -/
  | part (described : String) (position : Option Position)
  | place (p : Position)

namespace Site

/-- The node that a site is, as debugging output shows it. -/
def described? : Site → Option String
  | .expression e => some e.described
  | .part d _ => some d
  | .place _ => none

def position? : Site → Option Position
  | .expression e => e.info.position
  | .part _ p => p
  | .place p => some p

end Site

/-- Something that went wrong, and what it is about, if that is known. -/
structure Fault where
  cause : Cause
  site : Option Site := none

namespace Fault

def message (f : Fault) : String := f.cause.message

/-- The fault, about `s` if it is not about anything yet. -/
def orAt (f : Fault) (s : Site) : Fault :=
  match f.site with
  | none => { f with site := some s }
  | some _ => f

def ofFailure (s : Option Site) (f : Failure) : Fault := ⟨.failure f, s⟩

def ofProblem (s : Option Site) (p : Problem) : Fault := ⟨.problem p, s⟩

end Fault

/-- How a name gets its value, for an expression at a site. -/
abbrev Lookup := Option Site → String → Except Fault Value

/-- Values for names, of which the first counts. -/
abbrev Bindings := List (String × Value)

namespace Lookup

/-- Values for names, with others that take precedence over them. -/
def ofBindings (inputs env : Bindings) : Lookup := fun site name =>
  match inputs.lookup name with
  | some v => .ok v
  | none =>
    match env.lookup name with
    | some v => .ok v
    | none => .error (.ofProblem site (.unknownIdentifier name))

end Lookup

/-- Takes `n` operands from a stack, whose top is the first element. -/
def takeOperands (site : Option Site) (what : String) (n : Nat) (stack : List Value) :
    Except Fault (List Value × List Value) :=
  if stack.length < n then
    .error (.ofFailure site (.malformed (what ++ " needs " ++ toString n ++ " operand(s), found " ++
      toString stack.length)))
  else .ok ((stack.take n).reverse, stack.drop n)

/-- The value of a placeholder, after its options: `default` replaces a missing value, and `true` or
`false` the Boolean of that name. -/
def applyOptions (options : Bindings) (v : Value) : Except Failure Value :=
  match v with
  | .null => .ok ((options.lookup "default").getD .null)
  | .boolean b =>
    match options.lookup (if b then "true" else "false") with
    | some w => w.coerce .string
    | none => .ok v
  | v => .ok v

/-- The one value that an expression leaves on the stack. -/
def single (site : Option Site) : List Value → Except Fault Value
  | [v] => .ok v
  | stack =>
    .error (.ofFailure site (.malformed
      ("expression left " ++ toString stack.length ++ " values on the stack")))

/-- The value of an expression whose items have left a stack. A fault of an option is not about the
expression that has the option. -/
def conclude (e : Expr) (stack : Except Fault (List Value)) : Except Fault Value :=
  match stack.bind (single (some (.expression e))) with
  | .error f => .error (f.orAt (.expression e))
  | .ok v => (applyOptions e.info.options v).mapError (Fault.ofFailure none)

namespace Item

mutual

/-- Runs an item on a stack of values. -/
def run (lookup : Lookup) (site : Option Site) : Item → List Value → Except Fault (List Value)
  | .literal v, stack => .ok (v :: stack)
  | .name n, stack => do
    let v ← lookup site n
    .ok (v :: stack)
  | .operator op, stack => do
    let (args, rest) ← takeOperands site op.name op.arity stack
    let v ← (Library.operator op args).mapError (Fault.ofFailure site)
    .ok (v :: rest)
  | .apply f n, stack =>
    match Library.Function.ofName? f with
    | none => .error (.ofProblem site (Library.unknownFunction f))
    | some function => do
      let (args, rest) ← takeOperands site f n stack
      let v ← (function.call args).mapError (Fault.ofFailure site)
      .ok (v :: rest)
  | .nested info items, stack => do
    let e : Expr := ⟨info, items⟩
    let v ← conclude e (runAll lookup (some (.expression e)) items [])
    .ok (v :: stack)
  | .invalid s, _ =>
    .error (.ofFailure site (.malformed ("unexpected RPN item " ++ Text.quoted s)))

/-- Runs items one after another. -/
def runAll (lookup : Lookup) (site : Option Site) :
    List Item → List Value → Except Fault (List Value)
  | [], stack => .ok stack
  | i :: is, stack => do
    let stack ← run lookup site i stack
    runAll lookup site is stack

end

/-- The value of items that are not an expression by themselves. -/
def evaluate (lookup : Lookup) (items : List Item) : Except Fault Value := do
  let stack ← runAll lookup none items []
  single none stack

end Item

/-- The value of an expression. -/
def Expr.evaluate (lookup : Lookup) (e : Expr) : Except Fault Value :=
  conclude e (Item.runAll lookup (some (.expression e)) e.items [])

end Wdl
