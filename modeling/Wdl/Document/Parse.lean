import Wdl.Builder.Events
import Wdl.Language

/-!
From text to documents and compiled expressions.
-/

namespace Wdl

/-- Parses a document into a forest. A line feed is put at the end of a text that has none, but does
not belong to the document. `limit` bounds the number of syntax errors. -/
def Builder.ofText (f : Forest) (text uri abspath : String) (limit : Int) : Builder :=
  let cs := text.toList
  let source := if cs.getLast? == some '\n' then cs else cs ++ ['\n']
  let origin := Origin.ofNames uri abspath
  let (errors, tree) := Parse.parse Language.documents origin limit source
  let b := Builder.start f uri ((max cs.length 1 : Nat) - 1) origin source Language.keywords errors
  match tree with
  | some t => (Builder.walk [] t b).finish
  | none => b.finish

/-- Why a text is not accepted. -/
inductive Rejection
  | syntaxError (e : SyntaxError)
  | fault (f : Fault)

/-- A compiled expression with its node and the forest that it is in. -/
structure Compiled where
  forest : Forest
  node : NodeId
  expr : Expr

/-- Compiles a text that is an expression. The first syntax error, or else the first problem, is the
reason if it is not accepted. -/
def Compiled.ofText (text : String) : Except Rejection Compiled :=
  let cs := text.toList
  let origin := Origin.ofNames "" ""
  let (errors, tree) := Parse.parse Language.expressions origin 1 cs
  let b := Builder.start {} "" ((max cs.length 1 : Nat) - 1) origin cs Language.keywords errors
  let b := match tree with
    | some t => if errors.isEmpty then Builder.walk [] t b else b
    | none => b
  let b := b.finish
  match b.syntaxErrors, b.problems, b.standalone.bind fun id => (b.forest.expr? id).map (id, ·) with
  | e :: _, _, _ => .error (.syntaxError e)
  | [], p :: _, _ => .error (.fault (p.toFault b.forest))
  | [], [], some (id, e) => .ok ⟨b.forest, id, e⟩
  | [], [], none => .error (.fault ⟨.failure (.eval ""), none⟩)

end Wdl
