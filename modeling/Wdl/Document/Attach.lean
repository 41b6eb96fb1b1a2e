import Wdl.Document.Forest

/-!
Attaching nodes.

A node is attached to another that accepts nodes of its kind. A node of the kind and span of one
that is attached already counts as the same, and the one that is there is kept. What the parent or
the scope objects to stays unattached, and then nothing changes at all.
-/

namespace Wdl

namespace Executable

/-- Lists an item of a block under what the block is for. -/
def file (x : Executable) (k : BlockKind) (id : NodeId) (item : Body) : Executable :=
  match k, item with
  | .input, _ => { x with inputs := x.inputs ++ [id] }
  | .output, _ => { x with outputs := x.outputs ++ [id] }
  | .metadata, .entry e => { x with metadata := Assoc.insert e.key e.value x.metadata }
  | .parameterMetadata, .entry e =>
    { x with parameterMetadata := Assoc.insert e.key e.value x.parameterMetadata }
  | _, _ => x

end Executable

namespace TaskBody

/-- Lists an item of a block that only tasks have. -/
def file (t : TaskBody) (k : BlockKind) (id : NodeId) (item : Body) : TaskBody :=
  match k, item with
  | .runtime, .entry e =>
    { t with
      runtime := Assoc.insert e.key e.value t.runtime
      runtimeEntries := t.runtimeEntries ++ [id] }
  | .command, _ => { t with placeholders := t.placeholders ++ [id] }
  | _, _ => t

end TaskBody

namespace Body

/-- Lists an item of a block in the task or workflow that has the block. -/
def file (b : Body) (k : BlockKind) (id : NodeId) (item : Body) : Body :=
  match b with
  | .task x t => .task (x.file k id item) (t.file k id item)
  | .workflow x w => .workflow (x.file k id item) w
  | b => b

/-- The body with a new node below it. -/
def adopt (b : Body) (id : NodeId) (child : Body) : Body :=
  match b, child with
  | .document d, .importDoc _ => .document { d with imports := d.imports ++ [id] }
  | .document d, .workflow _ _ => .document { d with workflow := some id }
  | .document d, .task _ _ => .document { d with tasks := d.tasks ++ [id] }
  | .document d, .struct _ => .document { d with structs := d.structs ++ [id] }
  | .declaration d, .expression _ => .declaration { d with initializer := some id }
  | .struct s, .declaration _ => .struct { s with members := s.members ++ [id] }
  | .entry e, .expression _ => .entry { e with expression := some id }
  | .block k items, _ => .block k (items ++ [id])
  | .task x t, .block k _ => .task { x with blocks := x.blocks ++ [(k, id)] } t
  | .task x t, .declaration _ => .task { x with privateDecls := x.privateDecls ++ [id] } t
  | .workflow x w, .block k _ => .workflow { x with blocks := x.blocks ++ [(k, id)] } w
  | .workflow x w, .declaration _ =>
    .workflow { x with privateDecls := x.privateDecls ++ [id] } w
  | .workflow x w, .call _ => .workflow x { w with calls := w.calls ++ [id] }
  | .workflow x w, .region _ => .workflow x { w with regions := w.regions ++ [id] }
  | .call c, .entry _ => .call { c with inputs := c.inputs ++ [id] }
  | .region r, .expression _ => .region { r with expression := some id }
  | .region r, .declaration _ => .region { r with privateDecls := r.privateDecls ++ [id] }
  | .region r, .call _ => .region { r with calls := r.calls ++ [id] }
  | .region r, .region _ => .region { r with regions := r.regions ++ [id] }
  | .expression e, _ => .expression { e with subexpressions := e.subexpressions ++ [id] }
  | b, _ => b

end Body

namespace Forest

/-- The key of an entry. -/
def key? (f : Forest) (id : NodeId) : Option String :=
  match f.body? id with
  | some (.entry e) => some e.key
  | _ => none

/-- The name of a declaration or struct. -/
def declaredName? (f : Forest) (id : NodeId) : Option String :=
  match f.body? id with
  | some (.declaration d) => some d.name
  | some (.struct s) => some s.name
  | _ => none

/-- The name of a task or workflow. -/
def executableName (f : Forest) (id : NodeId) : String :=
  match f.body? id with
  | some (.task x _) => x.name
  | some (.workflow x _) => x.name
  | _ => ""

/-- Why a task or workflow does not take in a node. -/
def executableObjection? (what : String) (x : Executable) (child : Body) : Option Problem :=
  match child with
  | .block k _ =>
    if (x.blocks.lookup k).isSome then
      some (.redefinition ("redundant " ++ k.name ++ " section in " ++ what ++ " " ++ x.name))
    else none
  | _ => none

/-- Why a node does not take in another of a kind that it accepts. -/
def objection? (f : Forest) (parent child : Body) : Option Problem :=
  if child.isStruct && parent.kind != .document then
    some (.kindMismatch parent.kind child.kind)
  else
    match parent, child with
    | .document d, .workflow x _ =>
      d.workflow.map fun w =>
        .redefinition ("Document has multiple workflows: " ++ f.executableName w ++ " and " ++
          x.name)
    | .document _, .declaration _ => some (.kindMismatch parent.kind child.kind)
    | .declaration d, _ =>
      if d.initializer.isSome then
        some (.redefinition ("declaration of " ++ d.name ++ " already has an initializer"))
      else none
    | .struct s, .declaration d =>
      if s.members.any fun m => f.declaredName? m == some d.name then
        some (.redefinition ("struct " ++ s.name ++ " has multiple members named " ++ d.name))
      else none
    | .entry e, _ =>
      if e.expression.isSome then some (.redefinition (e.key ++ " already has a value")) else none
    | .block k items, .entry e =>
      if items.any fun i => f.key? i == some e.key then
        some (.redefinition ("duplicate key " ++ e.key ++ " in " ++ k.name ++
          " section; the first definition is kept"))
      else none
    | .task x _, child => executableObjection? "task" x child
    | .workflow x _, child => executableObjection? "workflow" x child
    | .call c, .entry e =>
      if c.inputs.any fun i => f.key? i == some e.key then
        some (.redefinition ("duplicate input " ++ e.key ++ " for call " ++ c.name))
      else none
    | .region r, .expression _ =>
      if r.expression.isSome then
        let shown := match r.loopVariable with
          | some v => "scatter " ++ v
          | none => "if"
        some (.redefinition (shown ++ " already has an expression"))
      else none
    | _, _ => none

/-- The node below `parent` that has the kind and span of `child`. -/
def twin? (f : Forest) (parent : NodeId) (child : Node) : Option NodeId :=
  (f.children parent).find? fun id =>
    match f.node? id with
    | some n => n.kind == child.kind && n.span == child.span
    | none => false

/-- Takes a node in: it goes below its parent, and what a block holds is listed by its owner too. -/
def adopt (f : Forest) (parent : NodeId) (parentNode : Node) (child : NodeId) (childNode : Node) :
    Forest :=
  let f := f.modifyBody parent fun b => b.adopt child childNode.body
  let f := match parentNode.body, childNode.body with
    | .block k _, item =>
      match parentNode.parent with
      | some owner => f.modifyBody owner fun b => b.file k child item
      | none => f
    | _, .block k items =>
      items.foldl
        (fun f id =>
          match f.body? id with
          | some item => f.modifyBody parent fun b => b.file k id item
          | none => f)
        f
    | _, _ => f
  f.modifyNode child fun n => { n with parent := some parent }

/-- Attaches a node to another, and binds it in a scope under a name if one is given. The result
names the node that is attached. -/
def attach (f : Forest) (parent child : NodeId) (binding : Option (ScopeId × String) := none) :
    Except Problem (Forest × NodeId) :=
  match f.node? parent, f.node? child with
  | some p, some c =>
    if !p.body.accepts c.kind then .error (.kindMismatch p.kind c.kind)
    else
      match f.twin? parent c with
      | some twin => .ok (f, twin)
      | none =>
        match f.objection? p.body c.body with
        | some problem => .error problem
        | none => do
          let f ← match binding with
            | some (scope, name) => f.define scope name child
            | none => .ok f
          .ok (f.adopt parent p child c, child)
  | _, _ => .ok (f, child)

end Forest
end Wdl
