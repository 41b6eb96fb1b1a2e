import Wdl.Document.Node
import Wdl.Expr.Eval

/-!
Forests of documents.

A forest holds the nodes and scopes of one or more documents. Nodes that no document has taken in
stay in it unattached. A scope binds names to nodes; a name can be bound once in each scope.
-/

namespace Wdl

/-- A region of a document with names of its own. -/
structure Scope where
  /-- the node that introduces the scope -/
  node : Option NodeId := none
  parent : Option ScopeId := none
  children : List ScopeId := []
  /-- the names bound here, in the order in which they were bound -/
  symbols : List (String × NodeId) := []

structure Forest where
  nodes : Array Node := #[]
  scopes : Array Scope := #[]

instance : Inhabited Forest := ⟨{}⟩

namespace Forest

def node? (f : Forest) (id : NodeId) : Option Node := f.nodes[id]?

def body? (f : Forest) (id : NodeId) : Option Body := (f.node? id).map Node.body

def kind? (f : Forest) (id : NodeId) : Option Kind := (f.node? id).map Node.kind

def span (f : Forest) (id : NodeId) : Span := ((f.node? id).map Node.span).getD ⟨0, 0⟩

def position? (f : Forest) (id : NodeId) : Option Position := (f.node? id).bind Node.position

def scope? (f : Forest) (id : ScopeId) : Option Scope := f.scopes[id]?

/-- Changes a node. -/
def modifyNode (f : Forest) (id : NodeId) (g : Node → Node) : Forest :=
  { f with nodes := f.nodes.modify id g }

/-- Changes the body of a node. -/
def modifyBody (f : Forest) (id : NodeId) (g : Body → Body) : Forest :=
  f.modifyNode id fun n => { n with body := g n.body }

def modifyScope (f : Forest) (id : ScopeId) (g : Scope → Scope) : Forest :=
  { f with scopes := f.scopes.modify id g }

/-- The number that the next node gets. -/
def nextNode (f : Forest) : NodeId := f.nodes.size

/-- The number that the next scope gets. -/
def nextScope (f : Forest) : ScopeId := f.scopes.size

/-- Adds an unattached node, under the number `f.nextNode`. -/
def addNode (f : Forest) (n : Node) : Forest :=
  { f with nodes := f.nodes.push n }

/-- Adds a scope, under the number `f.nextScope`. -/
def addScope (f : Forest) (s : Scope) : Forest :=
  { f with scopes := f.scopes.push s }

/-- Adds a node that introduces a scope, which is added with it. -/
def addScoped (f : Forest) (body : ScopeId → Body) (span : Span) (position : Option Position) :
    Forest :=
  let id := f.nextNode
  (f.addNode ⟨body f.nextScope, span, position, none⟩).addScope { node := some id }

/-- The nodes directly below a node, in the order in which they are listed. -/
def children (f : Forest) (id : NodeId) : List NodeId :=
  match f.body? id with
  | none => []
  | some b =>
    if b.sortsParts then b.parts.mergeSort fun x y => (f.span x).le (f.span y) else b.parts

/-- The compiled expression of a node that is one. -/
def expr? (f : Forest) (id : NodeId) : Option Expr :=
  match (f.node? id).bind Node.expr? with
  | some e => some { e with info := { e.info with node := some id } }
  | none => none

/-- A node as debugging output shows it. -/
def described (f : Forest) (id : NodeId) : String :=
  ((f.node? id).map Node.described).getD ""

/-- What a fault about a node is about. -/
def site (f : Forest) (id : NodeId) : Site :=
  .part (f.described id) (f.position? id)

/-- A node as documents show it. -/
def shown (f : Forest) (id : NodeId) : String :=
  match f.node? id with
  | none => ""
  | some n =>
    match n.body with
    | .document d => "document " ++ d.path
    | .importDoc i => "import " ++ i.uri
    | .declaration d =>
      let head := d.type ++ " " ++ d.name
      match d.initializer.bind f.expr? with
      | some e => head ++ " = " ++ e.text
      | none => head
    | .struct s => "struct " ++ s.name
    | .entry e => e.key ++ ": " ++ e.value
    | .block _ _ => n.described
    | .task x _ => "task " ++ x.name
    | .workflow x _ => "workflow " ++ x.name
    | .call c => "call " ++ c.target ++ (if c.nickname.isEmpty then "" else " as " ++ c.nickname)
    | .region r =>
      match r.loopVariable with
      | some v => "scatter " ++ v
      | none => "if"
    | .expression e => Item.sequence e.items

/-- A scope as debugging output shows it: what introduces it and the names that it binds. -/
def scopeDescribed (f : Forest) (id : ScopeId) : String :=
  match f.scope? id with
  | none => ""
  | some s =>
    let what := ((s.node.bind f.kind?).map Kind.label).getD "(detached)"
    let names := (s.symbols.map Prod.fst).mergeSort (· ≤ ·)
    "<Scope " ++ what ++ " " ++ Text.quotedList names ++ ">"

/-- Binds a name in a scope to a node. -/
def define (f : Forest) (scope : ScopeId) (name : String) (symbol : NodeId) :
    Except Problem Forest :=
  let s := (f.scope? scope).getD {}
  if name.isEmpty then .error .emptyName
  else if Assoc.contains name s.symbols then
    let what := ((s.node.bind f.kind?).map Kind.label).getD "scope"
    .error (.redefinition (name ++ " is already defined in this " ++ what))
  else .ok (f.modifyScope scope fun s => { s with symbols := s.symbols ++ [(name, symbol)] })

/-- Puts a scope inside another. -/
def pushScope (f : Forest) (parent child : ScopeId) : Forest :=
  (f.modifyScope child fun s => { s with parent := some parent }).modifyScope parent fun s =>
    { s with children := s.children ++ [child] }

end Forest
end Wdl
