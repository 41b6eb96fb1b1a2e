import Wdl.Document.Forest

/-!
Resolving names.

A name is looked up in a scope and then in those around it. Of a dotted name the first part is
looked up like that, and each further part in the scope that belongs to what the part before it is
bound to: the scope of a task, workflow or region, that of the task or workflow which a call calls,
or that of an imported document which is given. What a call calls is a dotted name too, to be
resolved from the outermost scope, and may lead back to the call itself: resolution need not come to
an end.
-/

namespace Wdl

/-- Why a name has no binding. -/
inductive Unresolved
  /-- some part of the name is not bound; the problem is about a node, if one is known -/
  | missing (about : Option NodeId) (problem : Problem)
  /-- the resolution would go on forever -/
  | endless

/-- A scope and a node that a name is bound to in it. -/
structure Binding where
  scope : ScopeId
  symbol : NodeId
  deriving DecidableEq, Repr

/-- Imported documents by the names of their imports. -/
abbrev Documents := List (String × NodeId)

namespace Forest

/-- The scopes from one outwards, to a given number of steps. -/
def enclosingTo (f : Forest) : Nat → ScopeId → List ScopeId
  | 0, _ => []
  | n + 1, s =>
    s :: (match (f.scope? s).bind Scope.parent with
      | some p => f.enclosingTo n p
      | none => [])

/-- The scopes from one outwards. No chain of scopes is longer than there are scopes. -/
def enclosing (f : Forest) (s : ScopeId) : List ScopeId :=
  f.enclosingTo (f.scopes.size + 1) s

/-- The outermost scope around one. -/
def root (f : Forest) (s : ScopeId) : ScopeId :=
  ((f.enclosing s).getLast?).getD s

/-- What a name is bound to in a scope itself. -/
def symbol? (f : Forest) (s : ScopeId) (name : String) : Option NodeId :=
  (f.scope? s).bind fun scope => scope.symbols.lookup name

/-- The node that introduces a scope. -/
def scopeNode? (f : Forest) (s : ScopeId) : Option NodeId :=
  (f.scope? s).bind Scope.node

/-- The nearest binding of a name. -/
def find (f : Forest) (s : ScopeId) (name : String) : Except Unresolved Binding :=
  let found := (f.enclosing s).findSome? fun t => (f.symbol? t name).map (⟨t, ·⟩)
  match found with
  | some b => .ok b
  | none => .error (.missing (f.scopeNode? s) (.notDefined name))

/-- The scope in which the next part of a dotted name is looked up. `resolve` resolves what a call
calls. -/
def memberScope (f : Forest) (documents : Documents)
    (resolve : ScopeId → List String → Except Unresolved Binding) (b : Binding) :
    Except Unresolved (Option ScopeId) :=
  match f.body? b.symbol with
  | some (.importDoc i) =>
    .ok ((documents.lookup i.namespaceName).bind fun d => (f.body? d).bind Body.scope?)
  | some (.call c) =>
    match resolve (f.root b.scope) (Text.splitOn '.' c.target) with
    | .ok callee =>
      match f.body? callee.symbol with
      | some (.task x _) => .ok (some x.scope)
      | some (.workflow x _) => .ok (some x.scope)
      | _ => .ok none
    | .error (.missing _ _) => .ok none
    | .error .endless => .error .endless
  | some body => .ok body.scope?
  | none => .ok none

/-- Looks up the further parts of a dotted name; `done` are the parts before them. -/
def descend (f : Forest) (member : Binding → Except Unresolved (Option ScopeId)) :
    List String → Binding → List String → Except Unresolved Binding
  | _, b, [] => .ok b
  | done, b, part :: parts => do
    let name := done ++ [part]
    let inner ← member b
    match inner.bind fun s => (f.symbol? s part).map (⟨s, ·⟩) with
    | some (next : Binding) => f.descend member name next parts
    | none => .error (.missing (some b.symbol) (.notDefined (".".intercalate name)))

/-- Resolves a dotted name, following at most `fuel` calls into one another. -/
def findDotted (f : Forest) (documents : Documents) :
    Nat → ScopeId → List String → Except Unresolved Binding
  | 0, _, _ => .error .endless
  | fuel + 1, s, parts =>
    match parts with
    | [] => .error (.missing (f.scopeNode? s) (.unknownIdentifier ""))
    | first :: rest =>
      if first.isEmpty then
        .error (.missing (f.scopeNode? s) (.unknownIdentifier (".".intercalate parts)))
      else do
        let b ← f.find s first
        f.descend (f.memberScope documents (f.findDotted documents fuel)) [first] b rest

/-- Resolves a dotted name. A chain of calls that is longer than there are nodes has come back to
one of them, and would go on. -/
def resolve (f : Forest) (documents : Documents) (s : ScopeId) (parts : List String) :
    Except Unresolved Binding :=
  f.findDotted documents (f.nodes.size + 1) s parts

end Forest
end Wdl
