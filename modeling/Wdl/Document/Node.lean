import Wdl.Document.Kind
import Wdl.Expr.Basic

/-!
Nodes of a document.

Nodes and scopes are numbered, and a node refers to others by their numbers. A task or workflow
lists the contents of its blocks once more, by what they are, as they are added: its inputs,
outputs, and so on.
-/

namespace Wdl

/-- A scope is named by its number. -/
abbrev ScopeId := Nat

structure DocumentBody where
  path : String
  version : String := ""
  scope : ScopeId
  imports : List NodeId := []
  workflow : Option NodeId := none
  tasks : List NodeId := []
  structs : List NodeId := []

structure ImportBody where
  uri : String
  nickname : String := ""
  structAliases : List (String × String) := []

structure DeclarationBody where
  name : String
  /-- the declared type as written, without blanks -/
  type : String
  initializer : Option NodeId := none

structure StructBody where
  name : String
  members : List NodeId := []

structure EntryBody where
  key : String
  /-- the value as written -/
  value : String
  expression : Option NodeId := none

/-- What tasks and workflows have in common. -/
structure Executable where
  name : String
  scope : ScopeId
  blocks : List (BlockKind × NodeId) := []
  inputs : List NodeId := []
  privateDecls : List NodeId := []
  outputs : List NodeId := []
  metadata : List (String × String) := []
  parameterMetadata : List (String × String) := []
  /-- the text of each element of the body -/
  rawElements : List String := []

structure TaskBody where
  /-- the text of the command, split into literal parts and placeholders -/
  command : List String := []
  placeholders : List NodeId := []
  runtime : List (String × String) := []
  runtimeEntries : List NodeId := []

structure WorkflowBody where
  calls : List NodeId := []
  regions : List NodeId := []

structure CallBody where
  target : String
  nickname : String := ""
  afters : List String := []
  inputs : List NodeId := []

/-- A part of a workflow that is run for each element of a collection, or on a condition. -/
structure RegionBody where
  /-- the variable of a scatter -/
  loopVariable : Option String
  scope : ScopeId
  expression : Option NodeId := none
  privateDecls : List NodeId := []
  calls : List NodeId := []
  regions : List NodeId := []

structure ExprBody where
  items : List Item := []
  options : List (String × Value) := []
  subexpressions : List NodeId := []

inductive Body
  | document (d : DocumentBody)
  | importDoc (i : ImportBody)
  | declaration (d : DeclarationBody)
  | struct (s : StructBody)
  | entry (e : EntryBody)
  | block (kind : BlockKind) (items : List NodeId)
  | task (x : Executable) (t : TaskBody)
  | workflow (x : Executable) (w : WorkflowBody)
  | call (c : CallBody)
  | region (r : RegionBody)
  | expression (e : ExprBody)

structure Node where
  body : Body
  span : Span
  position : Option Position := none
  parent : Option NodeId := none

instance : Inhabited Node := ⟨⟨.block .input [], ⟨0, 0⟩, none, none⟩⟩

/-- The classes of nodes that a walk tells apart. -/
inductive NodeClass
  | document
  | importDoc
  | workflow
  | task
  | struct
  | block
  | call
  | scatter
  | conditional
  | declaration
  | entry
  | expression
  deriving DecidableEq, Repr

namespace NodeClass

def name : NodeClass → String
  | .document => "Document"
  | .importDoc => "Import"
  | .workflow => "Workflow"
  | .task => "Task"
  | .struct => "StructTypeDef"
  | .block => "Block"
  | .call => "Call"
  | .scatter => "Scatter"
  | .conditional => "Conditional"
  | .declaration => "Decl"
  | .entry => "KeyValue"
  | .expression => "Expression"

/-- Whether all nodes of a class belong to another: definitions of structs are declarations. -/
def refines : NodeClass → NodeClass → Bool
  | .struct, .declaration => true
  | c, d => c == d

/-- The classes in the order in which a walk tries them, each with its method. -/
def methods : List (NodeClass × String) :=
  [(.document, "document"), (.importDoc, "import_doc"), (.workflow, "workflow"), (.task, "task"),
   (.struct, "struct_typedef"), (.block, "block"), (.call, "call"), (.scatter, "scatter"),
   (.conditional, "conditional"), (.declaration, "decl"), (.entry, "key_value"),
   (.expression, "expr")]

end NodeClass

namespace ImportBody

/-- The last component of a path. -/
def lastComponent (cs : List Char) : List Char :=
  (cs.reverse.takeWhile (· != '/')).reverse

/-- The name of an imported document: the last component of its path, without the extension. -/
def name (i : ImportBody) : String :=
  let path := (i.uri.toList.takeWhile (· != '?')).takeWhile (· != '#')
  let base := lastComponent (path.reverse.dropWhile (· == '/')).reverse
  let extension := ".wdl".toList
  String.ofList
    (if extension.isSuffixOf base then base.take (base.length - extension.length) else base)

/-- The name under which an imported document is referred to. -/
def namespaceName (i : ImportBody) : String :=
  if i.nickname.isEmpty then i.name else i.nickname

end ImportBody

namespace CallBody

/-- The name of a call: its alias, or the last part of what it calls. -/
def name (c : CallBody) : String :=
  if c.nickname.isEmpty then ((Text.splitOn '.' c.target).getLast?).getD "" else c.nickname

/-- The first call that this one has to wait for. -/
def after (c : CallBody) : String :=
  c.afters.headD ""

end CallBody

namespace Body

def kind : Body → Kind
  | .document _ => .document
  | .importDoc _ => .importDoc
  | .declaration _ => .declaration
  | .struct _ => .declaration
  | .entry _ => .entry
  | .block k _ => .block k
  | .task _ _ => .task
  | .workflow _ _ => .workflow
  | .call _ => .call
  | .region r => if r.loopVariable.isSome then .scatter else .conditional
  | .expression _ => .expression

/-- The most specific class of a node. -/
def nodeClass : Body → NodeClass
  | .document _ => .document
  | .importDoc _ => .importDoc
  | .declaration _ => .declaration
  | .struct _ => .struct
  | .entry _ => .entry
  | .block _ _ => .block
  | .task _ _ => .task
  | .workflow _ _ => .workflow
  | .call _ => .call
  | .region r => if r.loopVariable.isSome then .scatter else .conditional
  | .expression _ => .expression

/-- The name of the class of nodes that a node belongs to. -/
def className (b : Body) : String :=
  b.nodeClass.name

/-- The name of the method that a walk calls on a node: that of the first class tried that the node
belongs to. -/
def methodName (b : Body) : String :=
  ((NodeClass.methods.find? fun m => b.nodeClass.refines m.1).map Prod.snd).getD ""

/-- The scope that a node introduces. -/
def scope? : Body → Option ScopeId
  | .document d => some d.scope
  | .task x _ => some x.scope
  | .workflow x _ => some x.scope
  | .region r => some r.scope
  | _ => none

def isStruct : Body → Bool
  | .struct _ => true
  | _ => false

/-- The blocks of a task or workflow in their order. -/
def blocks (x : Executable) : List NodeId :=
  BlockKind.all.filterMap fun k => x.blocks.lookup k

/-- The nodes directly below a node, in the order in which they are kept. -/
def parts : Body → List NodeId
  | .document d => d.workflow.toList ++ d.imports ++ d.structs ++ d.tasks
  | .importDoc _ => []
  | .declaration d => d.initializer.toList
  | .struct s => s.members
  | .entry e => e.expression.toList
  | .block _ items => items
  | .task x _ => blocks x ++ x.privateDecls
  | .workflow x w => blocks x ++ x.privateDecls ++ w.calls ++ w.regions
  | .call c => c.inputs
  | .region r => r.expression.toList ++ r.privateDecls ++ r.calls ++ r.regions
  | .expression e => e.subexpressions

/-- Whether the nodes below a node are listed by their places rather than as they are kept. -/
def sortsParts : Body → Bool
  | .document _ => true
  | .task _ _ => true
  | .workflow _ _ => true
  | .region _ => true
  | _ => false

/-- The kinds of node that a node may hold. -/
def accepts : Body → Kind → Bool
  | .document _, k => k == .importDoc || k == .workflow || k == .task || k == .declaration
  | .importDoc _, _ => false
  | .declaration _, k => k == .expression
  | .struct _, k => k == .declaration
  | .entry _, k => k == .expression
  | .block b _, k =>
    match b with
    | .input => k == .declaration
    | .output => k == .declaration
    | .command => k == .expression
    | _ => k == .entry
  | .task _ _, k => k == .declaration || BlockKind.all.any fun b => k == .block b
  | .workflow _ _, k =>
    k == .declaration || k == .call || k == .scatter || k == .conditional ||
      [BlockKind.input, .output, .metadata, .parameterMetadata].any fun b => k == .block b
  | .call _, k => k == .entry
  | .region _, k =>
    k == .declaration || k == .call || k == .scatter || k == .conditional || k == .expression
  | .expression _, k => k == .expression

end Body

namespace Node

def kind (n : Node) : Kind := n.body.kind

/-- The compiled expression of a node that is one. -/
def expr? (n : Node) : Option Expr :=
  match n.body with
  | .expression e => some ⟨⟨n.span, n.position, e.options, none⟩, e.items⟩
  | _ => none

/-- A node as debugging output shows it. -/
def described (n : Node) : String :=
  match n.body with
  | .expression e => "Expression(" ++ Item.sequence e.items ++ ")"
  | b => "<" ++ b.className ++ " " ++ b.kind.label ++ " " ++ n.span.text ++ ">"

end Node
end Wdl
