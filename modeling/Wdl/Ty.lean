import Wdl.Text.Blank

/-!
Types of values.

Values have one of five atomic types. The sixth, `any`, is the type of the missing value and accepts
every other. A type may be optional, written with a question mark.
-/

namespace Wdl

inductive Base
  | any
  | boolean
  | int
  | float
  | string
  | file
  deriving DecidableEq, Repr

namespace Base

def name : Base → String
  | .any => "Any"
  | .boolean => "Boolean"
  | .int => "Int"
  | .float => "Float"
  | .string => "String"
  | .file => "File"

/-- Whether every value of one atomic type can be taken for the other: integers for floating point
numbers, strings and files for each other, and anything for `any`. -/
def widens : Base → Base → Bool
  | .int, .float => true
  | .string, .file => true
  | .file, .string => true
  | _, .any => true
  | a, b => a == b

end Base

structure Ty where
  base : Base
  optional : Bool := false
  deriving DecidableEq, Repr

namespace Ty

def any : Ty := ⟨.any, false⟩
def boolean : Ty := ⟨.boolean, false⟩
def int : Ty := ⟨.int, false⟩
def float : Ty := ⟨.float, false⟩
def string : Ty := ⟨.string, false⟩
def file : Ty := ⟨.file, false⟩

/-- The type of the missing value. -/
def null : Ty := ⟨.any, true⟩

def text (t : Ty) : String :=
  t.base.name ++ (if t.optional then "?" else "")

/-- An optional type can only be taken for another optional one, or for `any`. -/
def quantifierFits (t u : Ty) : Bool :=
  !(t.optional && !u.optional && u.base != .any)

/-- Whether values of type `t` can be taken for values of type `u`. -/
def coerces (t u : Ty) : Bool :=
  match t.base with
  | .any => t.quantifierFits u || u.optional
  | b => b.widens u.base && t.quantifierFits u

/-- The atomic types that a document can name. -/
def declarable : List Base :=
  [.boolean, .int, .float, .string, .file]

/-- The type that a declaration's text names, if it is atomic. -/
def ofText? (s : String) : Option Ty :=
  let cs := Text.trimChars s.toList
  let optional := cs.getLast? == some '?'
  let name := String.ofList (if optional then Text.trimRightChars cs.dropLast else cs)
  (declarable.find? fun b => b.name == name).map fun b => ⟨b, optional⟩

end Ty
end Wdl
