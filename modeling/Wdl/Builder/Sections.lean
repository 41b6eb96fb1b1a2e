import Wdl.Builder.Basic

/-!
The sections of a document.
-/

namespace Wdl
namespace Builder

/-- The identifiers of the language: a letter, then letters, digits and underscores. -/
def isIdentifier (s : String) : Bool :=
  match s.toList with
  | [] => false
  | c :: cs => c.isAlpha && cs.all fun d => d.isAlphanum || d == '_'

/-- Records the version of the document. -/
def setVersion (b : Builder) (t : Tree) : Builder :=
  let version := t.tokenText
  let b := { b with forest := b.forest.modifyBody b.document fun
    | .document d => .document { d with version }
    | body => body }
  if version == "1.1" then b
  else b.syntaxErrorAt t ("unknown WDL version " ++ version ++ "; choices: 1.1")

/-- The aliases for structs of an import, one for each struct, and the places where a struct is
given another alias. -/
def structAliases (ts : List Tree) : List (String × String) × List (Tree × String) :=
  ts.foldl
    (fun (aliases, again) t =>
      let name := t.childText 0
      if Assoc.contains name aliases then (aliases, again ++ [(t, name)])
      else (aliases ++ [(name, t.childText 1)], again))
    ([], [])

/-- Takes in an import. It is bound in the scope of the document if its name can be one. -/
def addImport (b : Builder) (t : Tree) : Builder :=
  match t.nodes with
  | [] => b
  | literal :: _ =>
    match literalText? literal with
    | none => b.badEscape literal
    | some uri =>
      let nickname := ((t.childrenOf .importAs).getLast?.map (·.childText 0)).getD ""
      let (aliases, again) := structAliases (t.childrenOf .importAlias)
      let body : ImportBody := { uri, nickname, structAliases := aliases }
      let name := body.namespaceName
      let valid := isIdentifier name && !b.keywords.contains name
      let b := if valid then b else b.syntaxErrorAt t "invalid or missing import namespace"
      let b := again.foldl
        (fun b (t, name) =>
          b.reportAt (.redefinition ("multiple aliases for struct " ++ name))
            (some (t.position b.origin)))
        b
      let id := b.forest.nextNode
      let b := b.addNode t (.importDoc body)
      let binding := if valid && b.current.rooted then some (b.scope, name) else none
      match b.forest.attach b.current.node id binding with
      | .ok (forest, _) => { b with forest }
      | .error p => b.report p id

def openStruct (b : Builder) (path : Tree.Path) (t : Tree) : Builder :=
  let name := t.childText 0
  let id := b.forest.nextNode
  ((b.addNode t (.struct { name })).openSection path id (some name)).checkKeyword t name

/-- Opens a task or workflow. -/
def openExecutable (b : Builder) (path : Tree.Path) (t : Tree) (body : Executable → Body) :
    Builder :=
  let name := t.childText 0
  let rawElements := t.nodes.map (·.source b.source)
  let id := b.forest.nextNode
  let scope := b.forest.nextScope
  let b := b.addScoped t fun scope => body { name, scope, rawElements }
  (b.openSection path id (some name) (some scope)).checkKeyword t name

def openBlock (b : Builder) (path : Tree.Path) (t : Tree) (kind : BlockKind) : Builder :=
  let id := b.forest.nextNode
  (b.addNode t (.block kind [])).openSection path id

/-- Takes in an entry of a metadata block, of which only the text of the value counts. -/
def addMetaEntry (b : Builder) (t : Tree) : Builder :=
  let value := ((t.children[1]?).map (·.source b.source)).getD ""
  let id := b.forest.nextNode
  let b := b.addNode t (.entry { key := t.childText 0, value })
  match b.forest.attach b.current.node id with
  | .ok (forest, _) => { b with forest }
  | .error p => b.report p id

/-- Opens an entry with an expression. The value of a call input that has none is its key. -/
def openEntry (b : Builder) (path : Tree.Path) (t : Tree) : Builder :=
  let key := t.childText 0
  let value := ((t.children[1]?).map (·.source b.source)).getD key
  let id := b.forest.nextNode
  (b.addNode t (.entry { key, value })).openSection path id

def openCall (b : Builder) (path : Tree.Path) (t : Tree) : Builder :=
  let target := match (t.childrenOf .callTarget).getLast? with
    | some c => ".".intercalate (c.children.filterMap Tree.tokenText?)
    | none => ""
  let nickname := ((t.childrenOf .callAlias).getLast?.map (·.childText 0)).getD ""
  let afters := (t.childrenOf .callAfter).map (·.childText 0)
  let body : CallBody := { target, nickname, afters }
  let id := b.forest.nextNode
  let b := (b.addNode t (.call body)).openSection path id (some body.name)
  if nickname.isEmpty then b else b.checkKeyword t nickname

/-- Opens a scatter. Its variable is bound in its own scope. -/
def openScatter (b : Builder) (path : Tree.Path) (t : Tree) : Builder :=
  let name := t.childText 0
  let id := b.forest.nextNode
  let scope := b.forest.nextScope
  let b := b.addScoped t fun scope => .region { loopVariable := some name, scope }
  let b := (b.openSection path id none (some scope)).checkKeyword t name
  let c := b.current
  if c.rooted then
    match (b.forest.body? c.node).bind Body.scope? with
    | some own =>
      match b.forest.define own name c.node with
      | .ok forest => { b with forest }
      | .error p => b.report p c.node
    | none => b
  else b

def openConditional (b : Builder) (path : Tree.Path) (t : Tree) : Builder :=
  let id := b.forest.nextNode
  let scope := b.forest.nextScope
  let b := b.addScoped t fun scope => .region { loopVariable := none, scope }
  b.openSection path id none (some scope)

/-- Opens a declaration. The members of a struct are not bound in a scope. -/
def openDeclaration (b : Builder) (path : Tree.Path) (t : Tree) : Builder :=
  let type := Text.squeeze (((t.children[0]?).map (·.source b.source)).getD "")
  let name := t.childText 1
  let inStruct := ((b.forest.body? b.current.node).map Body.isStruct).getD false
  let id := b.forest.nextNode
  let b := (b.addNode t (.declaration { name, type })).openSection path id
    (if inStruct then none else some name)
  match t.children[1]? with
  | some token => b.checkKeyword token name
  | none => b

/-- Adds to the command of the current task, if its command is open and part of the document. -/
def addCommandPart (b : Builder) (text : String) : Builder :=
  if b.currentKind == .block .command && b.current.rooted then
    match b.sections.find? fun c => b.forest.kind? c.node == some .task with
    | some c =>
      { b with forest := b.forest.modifyBody c.node fun
        | .task x t => .task x { t with command := t.command ++ [text] }
        | body => body }
    | none => b
  else b

end Builder
end Wdl
