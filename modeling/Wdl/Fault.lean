import Wdl.Document.Kind
import Wdl.Position

/-!
Faults.

A fault has a cause, which says what went wrong, and may have a node that it is about and a
position. Causes found while a document is put together are listed apart from those of evaluation:
the former are collected, the latter end the evaluation.
-/

namespace Wdl

/-- What is wrong with a document or a name. -/
inductive Problem
  /-- a part that cannot stand where it does -/
  | kindMismatch (parent child : Kind)
  /-- a second definition of something that has one -/
  | redefinition (message : String)
  | emptyName
  /-- the end of a section other than the open one -/
  | mismatchContext (expected : Kind) (actual : Option Kind)
  /-- a name without a binding -/
  | unresolved (message : String)
  /-- any other problem -/
  | invalid (message : String)
  deriving DecidableEq, Repr

/-- What goes wrong in an evaluation. -/
inductive Failure
  /-- operands or values of unsuitable types -/
  | incompatible (message : String)
  | arithmetic (message : String)
  /-- a compiled expression that is not well formed -/
  | malformed (message : String)
  | circular (name : String)
  /-- any other failure -/
  | eval (message : String)
  /-- an integer beyond all floating point numbers -/
  | overflow
  /-- an operator with too many or too few operands -/
  | operandCount
  /-- a name whose resolution would go on forever -/
  | endless
  /-- a replacement with the name of a group that the pattern does not have -/
  | unknownGroup
  /-- a pattern or a replacement with the name of several characters -/
  | severalCharacters (count : Nat)
  deriving DecidableEq, Repr

inductive Cause
  | problem (p : Problem)
  | failure (f : Failure)
  deriving DecidableEq, Repr

namespace Problem

def message : Problem → String
  | .kindMismatch parent child => parent.label ++ " cannot contain " ++ child.label
  | .redefinition m => m
  | .emptyName => "cannot define a symbol with an empty name"
  | .mismatchContext expected actual =>
    "end of " ++ expected.label ++ " while inside " ++ (actual.map Kind.label).getD "nothing"
  | .unresolved m => m
  | .invalid m => m

/-- The place of a problem in the taxonomy of errors. -/
def code : Problem → String
  | .kindMismatch _ _ => "kind-mismatch"
  | .redefinition _ => "redefinition"
  | .emptyName => "empty-name"
  | .mismatchContext _ _ => "mismatch-context"
  | .unresolved _ => "unresolved"
  | .invalid _ => "validation"

/-- The binding of a name that was not found. -/
def notDefined (name : String) : Problem :=
  .unresolved (name ++ " not defined")

def unknownIdentifier (name : String) : Problem :=
  .unresolved ("Unknown identifier " ++ name)

end Problem

namespace Failure

def message : Failure → String
  | .incompatible m => m
  | .arithmetic m => m
  | .malformed m => m
  | .circular name => "circular dependencies involving " ++ name
  | .eval m => m
  | .overflow => "int too large to convert to float"
  | .operandCount => ""
  | .endless => "maximum recursion depth exceeded"
  | .unknownGroup => "unknown group"
  | .severalCharacters n =>
    "ord() expected a character, but string of length " ++ toString n ++ " found"

def code : Failure → String
  | .incompatible _ => "type-mismatch"
  | .arithmetic _ => "arithmetic"
  | .malformed _ => "malformed-expression"
  | .circular _ => "circular-dependency"
  | .eval _ => "eval"
  | .overflow => "overflow"
  | .operandCount => "operand-count"
  | .endless => "endless"
  | .unknownGroup => "unknown-group"
  | .severalCharacters _ => "several-characters"

end Failure

namespace Cause

def message : Cause → String
  | .problem p => p.message
  | .failure f => f.message

def code : Cause → String
  | .problem p => p.code
  | .failure f => f.code

end Cause
end Wdl
