import Wdl.Scope.Resolve

/-!
Evaluation through scopes.

A name stands for the value of the declaration that it is bound to, evaluated in the scope of that
declaration and taken for a value of the declared type. A declaration that needs its own value has
none, and the number of declarations that wait for one another is limited.
-/

namespace Wdl
namespace Forest

/-- A name that is bound to something without a value. -/
def notAValue (name : String) (kind : Kind) : Problem :=
  .unresolved (name ++ " is a " ++ kind.label ++ ", not a value")

/-- The value of a declaration, given the value of its initializer: one of the declared type, if
that is atomic. -/
def declaredValue (f : Forest) (name : String) (symbol : NodeId) (type : String) (v : Value) :
    Except Fault Value :=
  match Ty.ofText? type with
  | none => .ok v
  | some t =>
    match v.coerce t with
    | .ok w => .ok w
    | .error (.incompatible m) =>
      .error (.ofFailure (some (f.site symbol)) (.incompatible (name ++ ": " ++ m)))
    | .error e => .error (.ofFailure none e)

/-- Looks up names from a scope, while the declarations `active` wait for their values. More
declarations than there are nodes cannot wait at once, so the first argument never runs out. -/
def lookupIn (f : Forest) (inputs : Bindings) (maxDepth : Int) :
    Nat → List NodeId → ScopeId → Lookup
  | 0, _, _ => fun site name => .error (.ofFailure site (.circular name))
  | fuel + 1, active, scope => fun site name =>
    match inputs.lookup name with
    | some v => .ok v
    | none =>
      match f.resolve [] scope (Text.splitOn '.' name) with
      | .error (.missing _ _) => .error (.ofProblem site (.unknownIdentifier name))
      | .error .endless => .error (.ofFailure none .endless)
      | .ok b =>
        match f.body? b.symbol with
        | some (.declaration d) =>
          if d.type == "struct" then .error (.ofProblem site (notAValue name .declaration))
          else
            match d.initializer.bind f.expr? with
            | none => .error (.ofProblem site (.unresolved ("No value for " ++ name)))
            | some e =>
              if active.contains b.symbol then .error (.ofFailure site (.circular name))
              else if maxDepth ≤ active.length then
                .error (.ofFailure site
                  (.eval ("declarations nested too deeply evaluating " ++ name)))
              else do
                let v ← e.evaluate (f.lookupIn inputs maxDepth fuel (b.symbol :: active) b.scope)
                f.declaredValue name b.symbol d.type v
        | some body => .error (.ofProblem site (notAValue name body.kind))
        | none => .error (.ofProblem site (.unknownIdentifier name))

/-- How names get their values in a scope. -/
def lookup (f : Forest) (inputs : Bindings) (maxDepth : Int) (scope : ScopeId) : Lookup :=
  f.lookupIn inputs maxDepth (f.nodes.size + 1) [] scope

end Forest
end Wdl
