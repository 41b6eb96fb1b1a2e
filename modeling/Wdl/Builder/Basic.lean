import Wdl.Document.Attach
import Wdl.Parse.Recovery
import Wdl.Text.Escape

/-!
Building documents.

A builder takes in the beginning and the end of every node of a parse tree and puts a document
together from them. It keeps the sections that are open, to which new nodes are attached, and the
expressions that are being compiled. A section that its parent refuses is still built, but nothing
in it is bound in a scope.
-/

namespace Wdl

/-- An open section. -/
structure Context where
  /-- the parse tree node that opened it -/
  path : Tree.Path
  node : NodeId
  scope : Option ScopeId
  /-- whether the node is attached to the document, through those above it -/
  rooted : Bool

/-- An expression that is being compiled. -/
structure Frame where
  path : Tree.Path
  node : NodeId
  /-- the nested expressions that no construct has taken yet, in order -/
  pending : List NodeId

/-- A problem of a document, and the node or the position that it is about. -/
structure DocumentProblem where
  problem : Problem
  node : Option NodeId
  position : Option Position

structure Builder where
  forest : Forest
  document : NodeId
  scope : ScopeId
  origin : Origin
  source : List Char
  keywords : List String
  /-- the open sections other than the document itself, the innermost first -/
  sections : List Context := []
  /-- the expressions that are being compiled, the innermost first -/
  frames : List Frame := []
  /-- the last expression that is not nested in another -/
  lastExpression : Option NodeId := none
  /-- the last expression that stood outside of all sections -/
  standalone : Option NodeId := none
  /-- whether the beginning of a document has been seen -/
  walked : Bool := false
  syntaxErrors : List SyntaxError := []
  problems : List DocumentProblem := []

namespace DocumentProblem

/-- A problem as a fault, with its node as the forest has it now. -/
def toFault (f : Forest) (p : DocumentProblem) : Fault :=
  let site := match p.node with
    | some id => some (.part (f.described id) p.position)
    | none => p.position.map .place
  ⟨.problem p.problem, site⟩

end DocumentProblem

namespace Builder

/-- Starts a document in a forest. -/
def start (f : Forest) (path : String) (stop : Int) (origin : Origin) (source : List Char)
    (keywords : List String) (errors : List SyntaxError) : Builder :=
  { forest := f.addScoped (fun s => .document { path, scope := s }) ⟨0, stop⟩ none
    document := f.nextNode
    scope := f.nextScope
    origin
    source
    keywords
    syntaxErrors := errors }

/-- The innermost open section, or the document. -/
def current (b : Builder) : Context :=
  b.sections.headD ⟨[], b.document, some b.scope, true⟩

def currentKind (b : Builder) : Kind :=
  (b.forest.kind? b.current.node).getD .document

/-- The innermost open scope. -/
def currentScope (b : Builder) : ScopeId :=
  (b.sections.findSome? Context.scope).getD b.scope

/-! ## Reports -/

/-- Records a problem with a node. -/
def report (b : Builder) (p : Problem) (id : NodeId) : Builder :=
  { b with problems := b.problems ++ [⟨p, some id, b.forest.position? id⟩] }

/-- Records a problem at a position. -/
def reportAt (b : Builder) (p : Problem) (position : Option Position) : Builder :=
  { b with problems := b.problems ++ [⟨p, none, position⟩] }

def syntaxError (b : Builder) (message : String) (p : Position) : Builder :=
  { b with syntaxErrors := b.syntaxErrors ++ [⟨p.line, p.column - 1, message, p⟩] }

/-- Records an error at a part of the parse tree. -/
def syntaxErrorAt (b : Builder) (t : Tree) (message : String) : Builder :=
  b.syntaxError message (t.position b.origin)

/-- Records an error if a name is a keyword. -/
def checkKeyword (b : Builder) (t : Tree) (name : String) : Builder :=
  if b.keywords.contains name then b.syntaxErrorAt t ("unexpected keyword " ++ name) else b

def badEscape (b : Builder) (t : Tree) : Builder :=
  b.syntaxErrorAt t "Bad escape sequence in string literal"

/-- The text between the quotes of a string literal, as written; none if it has a bad escape. -/
def literalText? (t : Tree) : Option String :=
  let raw := String.ofList ((t.childText 0).toList.drop 1).dropLast
  if (Text.decodeEscapes? raw).isSome then some raw else none

/-! ## Sections -/

/-- Adds an unattached node for a part of the parse tree. -/
def addNode (b : Builder) (t : Tree) (body : Body) : Builder :=
  { b with forest := b.forest.addNode ⟨body, t.span, some (t.position b.origin), none⟩ }

/-- Adds an unattached node that introduces a scope. -/
def addScoped (b : Builder) (t : Tree) (body : ScopeId → Body) : Builder :=
  { b with forest := b.forest.addScoped body t.span (some (t.position b.origin)) }

/-- Opens the section of an unattached node: attaches it to the current section, binds its name in
the current scope if it has one, and puts its own scope, if it has one, inside the current one. -/
def openSection (b : Builder) (path : Tree.Path) (id : NodeId) (name : Option String := none)
    (scope : Option ScopeId := none) : Builder :=
  let parent := b.current
  let enclosing := b.currentScope
  let binding := if parent.rooted then name.map (enclosing, ·) else none
  match b.forest.attach parent.node id binding with
  | .ok (forest, attached) =>
    let forest := match scope with
      | some s => if parent.rooted then forest.pushScope enclosing s else forest
      | none => forest
    { b with forest, sections := ⟨path, attached, scope, parent.rooted⟩ :: b.sections }
  | .error p =>
    let b := b.report p id
    { b with sections := ⟨path, id, scope, false⟩ :: b.sections }

/-- Closes the section that a parse tree node opened, and all inside it. It is a problem if it is
not the innermost one, or not open at all. -/
def closeSection (b : Builder) (path : Tree.Path) (t : Tree) (kind : Kind) : Builder :=
  let position := some (t.position b.origin)
  match b.sections.dropWhile fun c => c.path != path with
  | [] =>
    let actual := if b.sections.isEmpty then none else some b.currentKind
    b.reportAt (.mismatchContext kind actual) position
  | c :: outer =>
    let innermost := (b.sections.head?.map Context.path) == some c.path
    let b :=
      if innermost then b
      else b.reportAt (.mismatchContext kind (some b.currentKind)) position
    { b with sections := outer }

end Builder
end Wdl
