import Wdl.Builder.Expressions
import Wdl.Builder.Sections

/-!
The events of a walk over a parse tree.

`Builder.enter` and `Builder.exit` take in the beginning and the end of a parse tree node, which is
named by its path, and `Builder.walk` all events of a tree in order.
-/

namespace Wdl

/-- The kind of node that a production builds while its section is open. -/
def Production.sectionKind? : Production → Option Kind
  | .workflow => some .workflow
  | .task => some .task
  | .struct => some .declaration
  | .inputBlock => some (.block .input)
  | .outputBlock => some (.block .output)
  | .metaSection => some (.block .metadata)
  | .parameterMetaSection => some (.block .parameterMetadata)
  | .runtimeSection => some (.block .runtime)
  | .command => some (.block .command)
  | .call => some .call
  | .decl => some .declaration
  | .runtimeEntry => some .entry
  | .callInput => some .entry
  | .scatter => some .scatter
  | .conditional => some .conditional
  | _ => none

namespace Builder

/-- Takes in the beginning of a node. -/
def enter (b : Builder) (path : Tree.Path) (t : Tree) : Builder :=
  match t.production? with
  | some .document => { b with walked := true }
  | some .version => b.setVersion t
  | some .importDoc => b.addImport t
  | some .struct => b.openStruct path t
  | some .workflow => b.openExecutable path t fun x => .workflow x {}
  | some .task => b.openExecutable path t fun x => .task x {}
  | some .inputBlock => b.openBlock path t .input
  | some .outputBlock => b.openBlock path t .output
  | some .metaSection => b.openBlock path t .metadata
  | some .parameterMetaSection => b.openBlock path t .parameterMetadata
  | some .runtimeSection => b.openBlock path t .runtime
  | some .command => b.openBlock path t .command
  | some .metaEntry => b.addMetaEntry t
  | some .runtimeEntry => b.openEntry path t
  | some .callInput => b.openEntry path t
  | some .call => b.openCall path t
  | some .scatter => b.openScatter path t
  | some .conditional => b.openConditional path t
  | some .decl => b.openDeclaration path t
  | some .expr => b.beginExpr path t
  | some .exprOperand => b.beginExpr path t
  | some .object => b.beginObject t
  | _ => b

/-- Takes in the end of a node. -/
def exit (b : Builder) (path : Tree.Path) (t : Tree) : Builder :=
  match t.production? with
  | some .expr => b.endExpr path t
  | some .exprOperand => b.endExpr path t
  | some (.binary op) => b.emit (.operator (.binary op))
  | some .array => b.emitApply t "_array"
  | some .pair => b.emitApply t "_pair"
  | some .ifThenElse => b.emitApply t "_ifthenelse"
  | some .apply => b.emitApply t (t.childText 0)
  | some .booleanTrue => b.emit (.literal (.boolean true))
  | some .booleanFalse => b.emit (.literal (.boolean false))
  | some .null => b.emit (.literal .null)
  | some .int => b.emitInt t
  | some .float => b.emit (.literal (.float (Decimal.floatOfNumeral (t.childText 0))))
  | some .leftName => b.emitName t
  | some .group => b.emitPending 1
  | some .unaryPlus => b.emitPending 1
  | some .negate => (b.emitPending 1).emit (.operator .not)
  | some .unaryMinus => (b.emitPending 1).emit (.operator .neg)
  | some .stringPart => b.emitStringPart t
  | some .stringExprPart => (b.emitPending 1).emit (.operator .str)
  | some .stringExprWithPart =>
    (b.emit (.operator (.binary .add))).emit (.operator (.binary .add))
  | some .placeholder => b.endPlaceholder t
  | some .mapEntry => b.emitPending 1
  | some .map => b.emit (.apply "_map" (2 * t.count .mapEntry))
  | some .objectEntry => b.endObjectEntry t
  | some .object => b.endObject t
  | some .index => (b.emitPending 1).emit (.apply "_at" 2)
  | some .member => b.endMember t
  | some .commandPlaceholder => b.addCommandPart (t.source b.source)
  | some p =>
    match p.sectionKind? with
    | some kind => b.closeSection path t kind
    | none => b
  | none => b

/-- Takes in a token: the fragments of commands are kept. -/
def visitToken (b : Builder) (t : Token) : Builder :=
  if t.terminal == .braceFragment || t.terminal == .heredocFragment then
    b.addCommandPart t.text
  else b

mutual

/-- Takes in all events of a tree. -/
def walk (path : Tree.Path) : Tree → Builder → Builder
  | .token t, b => b.visitToken t
  | .node p e cs, b =>
    (walkList path 0 cs (b.enter path (.node p e cs))).exit path (.node p e cs)

def walkList (path : Tree.Path) (i : Nat) : List Tree → Builder → Builder
  | [], b => b
  | c :: cs, b => walkList path (i + 1) cs (walk (i :: path) c b)

end

/-- The order of syntax errors in a report: by line, then by column. -/
def errorLe (a b : SyntaxError) : Bool :=
  a.line < b.line || (a.line == b.line && a.column ≤ b.column)

/-- Concludes a walk: sections that are still open are problems, and so is a document without a
version. -/
def finish (b : Builder) : Builder :=
  let b := b.sections.foldl
    (fun b c =>
      b.reportAt (.mismatchContext ((b.forest.kind? c.node).getD .document) none)
        (b.forest.position? c.node))
    b
  let version := match b.forest.body? b.document with
    | some (.document d) => d.version
    | _ => ""
  let b := if b.walked && version.isEmpty then
      b.syntaxError "missing version statement" (b.origin.point 1 1)
    else b
  { b with sections := [], syntaxErrors := b.syntaxErrors.mergeSort errorLe }

end Builder
end Wdl
