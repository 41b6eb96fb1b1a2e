import Wdl.Fault

/-!
Problems that are raised together.

Problems found one after another are gathered: a single one is raised as it is, several as one list.
-/

namespace Wdl

/-- What is raised: a problem by itself, or a list of them. -/
inductive Raised
  | one (p : Problem)
  | several (ps : List Problem)

namespace Raised

def problems : Raised → List Problem
  | .one p => [p]
  | .several ps => ps

/-- Everything that was raised, in one list. -/
def join (rs : List Raised) : Raised :=
  .several (rs.flatMap problems)

/-- What to raise in the end, if anything. -/
def gather : List Raised → Option Raised
  | [] => none
  | [r] => some r
  | rs => some (join rs)

/-- The messages, with semicolons between them. -/
def message (r : Raised) : String :=
  "; ".intercalate (r.problems.map Problem.message)

end Raised
end Wdl
