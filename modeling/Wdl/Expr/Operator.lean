/-!
Operators of expressions.
-/

namespace Wdl

/-- The operators written between their two operands. -/
inductive BinaryOp
  | mul | div | mod | add | sub | eq | neq | lt | lte | gt | gte | and | or
  deriving DecidableEq, Repr

/-- The operators of a compiled expression. `str` turns its operand into a string, as an
interpolation does. -/
inductive Operator
  | neg
  | not
  | str
  | binary (op : BinaryOp)
  deriving DecidableEq, Repr

namespace BinaryOp

def all : List BinaryOp :=
  [.mul, .div, .mod, .add, .sub, .eq, .neq, .lt, .lte, .gt, .gte, .and, .or]

/-- The name of an operator in a compiled expression. -/
def name : BinaryOp → String
  | .mul => "mul"
  | .div => "div"
  | .mod => "mod"
  | .add => "add"
  | .sub => "sub"
  | .eq => "eq"
  | .neq => "neq"
  | .lt => "lt"
  | .lte => "lte"
  | .gt => "gt"
  | .gte => "gte"
  | .and => "and"
  | .or => "or"

/-- The sign of an operator in an expression. -/
def sign : BinaryOp → String
  | .mul => "*"
  | .div => "/"
  | .mod => "%"
  | .add => "+"
  | .sub => "-"
  | .eq => "=="
  | .neq => "!="
  | .lt => "<"
  | .lte => "<="
  | .gt => ">"
  | .gte => ">="
  | .and => "&&"
  | .or => "||"

end BinaryOp

namespace Operator

def all : List Operator :=
  [.neg, .not, .str] ++ BinaryOp.all.map .binary

/-- The name of an operator in a compiled expression. -/
def name : Operator → String
  | .neg => "neg"
  | .not => "not"
  | .str => "str"
  | .binary op => op.name

/-- The number of operands. -/
def arity : Operator → Nat
  | .binary _ => 2
  | _ => 1

/-- The operator with a given name. -/
def ofName? (s : String) : Option Operator :=
  all.find? fun op => op.name == s

end Operator
end Wdl
