import Wdl.Document.Forest

/-!
Outlines of documents.

An outline has a line for each import, struct, task, workflow, declaration, call and region,
indented by four blanks for each level.
-/

namespace Wdl
namespace Forest

/-- A line of an outline. -/
def outlineLine (level : Nat) (text : String) : String :=
  "".pushn ' ' (4 * level) ++ text

/-- The lines for a node at a level, to a given depth. Workflows list their inputs first and their
outputs last. -/
def outlineAt (f : Forest) : Nat → Nat → NodeId → List String
  | 0, _, _ => []
  | depth + 1, level, id =>
    let below (ids : List NodeId) := ids.flatMap (f.outlineAt depth (level + 1))
    match f.body? id with
    | some (.declaration d) => [outlineLine level (d.type ++ " " ++ d.name)]
    | some (.struct s) => outlineLine level ("struct " ++ s.name) :: below (f.children id)
    | some (.task x _) =>
      outlineLine level ("task " ++ x.name) :: below (x.inputs ++ x.privateDecls ++ x.outputs)
    | some (.workflow x w) =>
      outlineLine level ("workflow " ++ x.name) ::
        below (x.inputs ++ x.privateDecls ++ w.calls ++ w.regions ++ x.outputs)
    | some (.call _) => [outlineLine level (f.shown id)]
    | some (.region _) => outlineLine level (f.shown id) :: below (f.children id)
    | _ => []

/-- The outline of a document. -/
def outline (f : Forest) (id : NodeId) : List String :=
  match f.body? id with
  | some (.document d) =>
    let version := if d.version.isEmpty then [] else [outlineLine 1 ("version " ++ d.version)]
    let imports := d.imports.filterMap fun i =>
      match f.body? i with
      | some (.importDoc b) => some (outlineLine 1 ("import " ++ b.namespaceName ++ " : " ++ b.uri))
      | _ => none
    version ++ imports ++
      (d.structs ++ d.workflow.toList ++ d.tasks).flatMap (f.outlineAt (f.nodes.size + 1) 1)
  | _ => []

end Forest
end Wdl
