import Wdl.Grammar.Production
import Wdl.Lexer.Scanner
import Wdl.Position

/-!
Parse trees.

A node carries the production that made it and the extent of the text that it was made from,
including tokens that the tree does not keep; a node made from no text has no extent.
-/

namespace Wdl

/-- The places where a piece of text starts and stops. -/
structure Extent where
  start : Place
  stop : Place
  deriving DecidableEq, Repr

namespace Extent

def ofToken (t : Token) : Extent := ⟨t.start, t.stop⟩

/-- The extent from the first to the last of several that are present. -/
def hull (es : List (Option Extent)) : Option Extent :=
  match (es.filterMap id).head?, (es.filterMap id).getLast? with
  | some a, some b => some ⟨a.start, b.stop⟩
  | _, _ => none

/-- The offsets of the first and last characters. -/
def span (e : Extent) : Span :=
  ⟨e.start.offset, (e.stop.offset : Int) - 1⟩

/-- The extent as a position for readers. -/
def position (e : Extent) (o : Origin) : Position :=
  ⟨o.uri, o.abspath, e.start.line, e.start.column, e.stop.line, e.stop.column⟩

end Extent

inductive Tree
  | token (t : Token)
  | node (production : Production) (extent : Option Extent) (children : List Tree)

instance : Inhabited Tree := ⟨.node .document none []⟩

namespace Tree

def children : Tree → List Tree
  | .token _ => []
  | .node _ _ cs => cs

def extent? : Tree → Option Extent
  | .token t => some (.ofToken t)
  | .node _ e _ => e

def production? : Tree → Option Production
  | .token _ => none
  | .node p _ _ => some p

/-- Whether a tree is a node of a given production. -/
def isA (t : Tree) (p : Production) : Bool :=
  t.production? == some p

/-- The text of a token; a node has none of its own. -/
def tokenText? : Tree → Option String
  | .token t => some t.text
  | .node _ _ _ => none

/-- The texts of the tokens directly below a node, joined. -/
def tokenText (t : Tree) : String :=
  String.join (t.children.filterMap tokenText?)

/-- The text of the token at a given place among the children. -/
def childText (t : Tree) (i : Nat) : String :=
  ((t.children[i]?).bind tokenText?).getD ""

/-- The children that are nodes of a given production. -/
def childrenOf (t : Tree) (p : Production) : List Tree :=
  t.children.filter (·.isA p)

/-- The number of children that are nodes of a given production. -/
def count (t : Tree) (p : Production) : Nat :=
  (t.childrenOf p).length

/-- The children that are nodes. -/
def nodes (t : Tree) : List Tree :=
  t.children.filter fun c => c.production?.isSome

/-- The offsets that a node covers; a node made from no text covers the first character. -/
def span (t : Tree) : Span :=
  (t.extent?.map Extent.span).getD ⟨0, 0⟩

/-- The position of a tree; that of a node made from no text is the start of the document. -/
def position (t : Tree) (o : Origin) : Position :=
  (t.extent?.map (·.position o)).getD (o.point 1 1)

/-- The part of the source that a tree was made from. -/
def source (t : Tree) (text : List Char) : String :=
  match t with
  | .token t => t.text
  | .node _ none _ => ""
  | .node _ (some e) _ =>
    String.ofList ((text.drop e.start.offset).take (e.stop.offset - e.start.offset))

/-- A node of a tree is named by the positions of children that lead to it, the last step first. -/
abbrev Path := List Nat

mutual

/-- The nodes of a tree in the order in which they begin, each with its path. -/
def preorderAt (path : Path) : Tree → List (Path × Tree)
  | .token _ => []
  | .node p e cs => (path, .node p e cs) :: preorderList path 0 cs

def preorderList (path : Path) (i : Nat) : List Tree → List (Path × Tree)
  | [] => []
  | c :: cs => preorderAt (i :: path) c ++ preorderList path (i + 1) cs

end

def preorder (t : Tree) : List (Path × Tree) :=
  preorderAt [] t

end Tree
end Wdl
