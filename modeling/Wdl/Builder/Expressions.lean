import Wdl.Builder.Basic
import Wdl.Decimal.Reader

/-!
Compiling expressions.

Every expression in the source becomes a node of its own. A nested expression waits in the frame of
the one around it until the construct that it belongs to ends and puts it among the items.
-/

namespace Wdl
namespace Builder

/-- Begins an expression. -/
def beginExpr (b : Builder) (path : Tree.Path) (t : Tree) : Builder :=
  let id := b.forest.nextNode
  let b := b.addNode t (.expression {})
  let b := match b.frames with
    | frame :: outer =>
      let forest := match b.forest.attach frame.node id with
        | .ok (forest, _) => forest
        | .error _ => b.forest
      { b with forest, frames := { frame with pending := frame.pending ++ [id] } :: outer }
    | [] =>
      let b : Builder := { b with lastExpression := some id }
      if b.currentKind == Kind.document then { b with standalone := some id }
      else
        match b.forest.attach b.current.node id with
        | .ok (forest, _) => { b with forest }
        | .error p => b.report p id
  { b with frames := ⟨path, id, []⟩ :: b.frames }

/-- Ends an expression, and with it all that were begun inside it. It is a problem if it is not the
innermost one. -/
def endExpr (b : Builder) (path : Tree.Path) (t : Tree) : Builder :=
  match b.frames with
  | [] => b.reportAt (.mismatchContext .expression none) (some (t.position b.origin))
  | frame :: outer =>
    if frame.path == path then { b with frames := outer }
    else
      let b := b.reportAt (.mismatchContext .expression (some .expression))
        (some (t.position b.origin))
      { b with frames := (b.frames.dropWhile fun f => f.path != path).tail }

/-- Changes the items of an expression. -/
def modifyItems (b : Builder) (id : NodeId) (g : List Item → List Item) : Builder :=
  { b with forest := b.forest.modifyBody id fun
    | .expression e => .expression { e with items := g e.items }
    | body => body }

/-- Puts an item into the current expression. -/
def emit (b : Builder) (item : Item) : Builder :=
  match b.frames with
  | frame :: _ => b.modifyItems frame.node fun items => items ++ [item]
  | [] => b

/-- Puts the last `n` nested expressions that wait into the current expression. -/
def emitPending (b : Builder) (n : Nat) : Builder :=
  match b.frames with
  | frame :: outer =>
    let kept := frame.pending.length - n
    let b := { b with frames := { frame with pending := frame.pending.take kept } :: outer }
    (frame.pending.drop kept).foldl
      (fun b id =>
        match b.forest.expr? id with
        | some e => b.emit e.toItem
        | none => b)
      b
  | [] => b

/-- Puts in the nested expressions of a construct and what applies it to them. -/
def emitApply (b : Builder) (t : Tree) (function : String) : Builder :=
  let n := t.count .expr
  (b.emitPending n).emit (.apply function n)

/-- The greatest integer that can be written. -/
def maxInt : Nat := 0x7FFFFFFFFFFFFFFF

/-- Puts in an integer; one that is out of range becomes the greatest. -/
def emitInt (b : Builder) (t : Tree) : Builder :=
  let n := Text.natOfAscii (t.childText 0)
  if maxInt < n then
    (b.syntaxErrorAt t ("integer literal out of range: " ++ toString n)).emit
      (.literal (.int maxInt))
  else b.emit (.literal (.int n))

def emitName (b : Builder) (t : Tree) : Builder :=
  let name := t.childText 0
  (b.checkKeyword t name).emit (.name name)

/-- Puts in a part of a string, as written. -/
def emitStringPart (b : Builder) (t : Tree) : Builder :=
  let text := t.tokenText
  if (Text.decodeEscapes? text).isSome then b.emit (.literal (.string text)) else b.badEscape t

/-- The options that a placeholder can have. -/
def placeholderOptions : List String := ["sep", "true", "false", "default"]

/-- The value of an option; none for a string with a bad escape. -/
def optionValue? (t : Tree) : Option Value :=
  match t.children with
  | .token k :: _ =>
    if k.terminal == .int then some (.int (Text.natOfAscii k.text))
    else some (.float (Decimal.floatOfNumeral k.text))
  | literal :: _ => (literalText? literal).map .string
  | [] => some (.string "")

/-- What has been made of the options of a placeholder: the options with their values, and those
that were given again. -/
structure OptionList where
  options : List (String × Value) := []
  repeated : List (Tree × String) := []

/-- Reads the options of a placeholder in order. Unknown ones are errors at once; a string with a
bad escape ends the reading, and then there are none. -/
def readOptions (b : Builder) : List Tree → OptionList → Builder × Option OptionList
  | [], o => (b, some o)
  | t :: ts, o =>
    let name := t.childText 0
    if !placeholderOptions.contains name then
      (b.syntaxErrorAt t ("unknown placeholder option " ++ name)).readOptions ts o
    else if Assoc.contains name o.options then
      b.readOptions ts { o with repeated := o.repeated ++ [(t, name)] }
    else
      match t.children[1]? with
      | some value =>
        match optionValue? value with
        | some v => b.readOptions ts { o with options := o.options ++ [(name, v)] }
        | none => ((value.children.head?.map b.badEscape).getD b, none)
      | none => b.readOptions ts o

/-- The expression that the options of a placeholder belong to: the last that waits, or outside of
expressions the last one. -/
def placeholderTarget (b : Builder) : Option NodeId :=
  match b.frames with
  | frame :: _ => frame.pending.getLast?
  | [] => b.lastExpression

/-- Gives the options of a placeholder to its expression. -/
def endPlaceholder (b : Builder) (t : Tree) : Builder :=
  let target := b.placeholderTarget
  match b.readOptions (t.childrenOf .placeholderOption) {} with
  | (b, none) => b
  | (b, some o) =>
    let b := match target with
      | some id =>
        { b with forest := b.forest.modifyBody id fun
          | .expression e => .expression { e with options := Assoc.update e.options o.options }
          | body => body }
      | none => b
    o.repeated.foldl
      (fun b (t, name) =>
        b.reportAt (.redefinition ("repeated placeholder option " ++ name))
          (some (t.position b.origin)))
      b

/-- Begins a struct literal with the name of the struct; objects have none. -/
def beginObject (b : Builder) (t : Tree) : Builder :=
  let name := t.childText 0
  if name == "object" then b else (b.checkKeyword t name).emit (.literal (.string name))

/-- Ends a member of an object: puts in its key and its value. -/
def endObjectEntry (b : Builder) (t : Tree) : Builder :=
  match t.children with
  | .token k :: _ =>
    ((b.checkKeyword (.token k) k.text).emit (.literal (.string k.text))).emitPending 1
  | literal :: _ =>
    match literalText? literal with
    | some key => (b.emit (.literal (.string key))).emitPending 1
    | none => b.badEscape literal
  | [] => b

def endObject (b : Builder) (t : Tree) : Builder :=
  let n := t.count .objectEntry
  if t.childText 0 == "object" then b.emit (.apply "_object" (2 * n))
  else b.emit (.apply "_struct" (2 * n + 1))

/-- Whether a part of the tree is a name, possibly dotted. -/
def isName (t : Tree) : Bool :=
  t.isA .leftName || t.isA .member

/-- The last item of the current expression. -/
def lastItem? (b : Builder) : Option Item :=
  match b.frames with
  | frame :: _ => (b.forest.expr? frame.node).bind fun e => e.items.getLast?
  | [] => none

/-- Ends an access to a member: that of a name makes a dotted name. -/
def endMember (b : Builder) (t : Tree) : Builder :=
  let member := t.childText 1
  let b := if member == "left" || member == "right" then b else b.checkKeyword t member
  match b.frames, (t.children.head?.map isName).getD false, b.lastItem? with
  | frame :: _, true, some (.name n) =>
    b.modifyItems frame.node fun items => items.dropLast ++ [.name (n ++ "." ++ member)]
  | _, _, _ => (b.emit (.literal (.string member))).emit (.apply "_get" 2)

end Builder
end Wdl
