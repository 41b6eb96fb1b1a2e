import Wdl.Document.Ast

/-!
Syntax trees as data.
-/

namespace Wdl

/-- A map from texts to texts as data. -/
def textMap (l : List (String × String)) : Json :=
  .obj (l.map fun kv => (kv.1, .str kv.2))

namespace Body

/-- The salient attributes of a node. -/
def attributes : Body → List (String × Json)
  | .document d => [("path", .str d.path), ("version", .str d.version)]
  | .importDoc i =>
    [("uri", .str i.uri), ("name", .str i.name), ("alias", .str i.nickname),
     ("struct_aliases", textMap i.structAliases)]
  | .declaration d => [("identifier", .str d.name), ("type", .str d.type)]
  | .struct s => [("name", .str s.name)]
  | .entry e => [("key", .str e.key), ("value", .str e.value)]
  | .block _ _ => []
  | .task x t =>
    [("name", .str x.name), ("command", .ofStrings t.command), ("runtime", textMap t.runtime),
     ("meta", textMap x.metadata), ("parameter_meta", textMap x.parameterMetadata)]
  | .workflow x _ =>
    [("name", .str x.name), ("meta", textMap x.metadata),
     ("parameter_meta", textMap x.parameterMetadata)]
  | .call c =>
    [("target", .str c.target), ("alias", .str c.nickname), ("after", .ofStrings c.afters)]
  | .region r =>
    match r.loopVariable with
    | some v => [("variable", .str v)]
    | none => []
  | .expression e =>
    ("rpn", .arr (Item.jsonList e.items)) ::
      (if e.options.isEmpty then []
       else [("placeholder_options", .obj (e.options.map fun o => (o.1, o.2.json)))])

end Body

namespace Ast

mutual

/-- A tree as data: of each node its kind, its span, its attributes and what is below it. -/
def json : Ast → Json
  | .mk _ n cs =>
    .obj <|
      [("kind", .str n.kind.label), ("start", .int n.span.start), ("end", .int n.span.stop)] ++
      n.body.attributes ++
      (match jsonList cs with
       | [] => []
       | js => [("children", .arr js)])

def jsonList : List Ast → List Json
  | [] => []
  | c :: cs => json c :: jsonList cs

end

end Ast
end Wdl
