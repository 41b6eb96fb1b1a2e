import Wdl.Document.Ast

/-!
Checking the places of nodes.

In a sound tree every node has a span that does not end before it starts, every node lies within the
one above it and links back to it, and neighbours follow each other without overlap.
-/

namespace Wdl

/-- Something wrong with the place of a node, and a text that says what. -/
structure Violation where
  node : Node
  problem : String

namespace Ast

/-- What is wrong with a node by itself. -/
def inverted (n : Node) : List Violation :=
  if n.span.stop < n.span.start then [⟨n, "span " ++ n.span.text ++ " is inverted"⟩] else []

/-- What is wrong with a child, given its parent and the child before it. -/
def misplaced (id : NodeId) (parent : Node) (previous : Option Node) (child : Node) :
    List Violation :=
  (if child.parent == some id then []
   else [⟨child, "parent of " ++ child.described ++ " isn't " ++ parent.described⟩]) ++
  (if child.span.start < parent.span.start || parent.span.stop < child.span.stop then
     [⟨child, child.described ++ " lies outside of " ++ parent.described⟩]
   else []) ++
  (match previous with
   | some p =>
     if child.span.start ≤ p.span.stop then
       [⟨child, child.described ++ " overlaps or precedes " ++ p.described⟩]
     else []
   | none => [])

/-- What is wrong with the children of a node. -/
def misplacedList (id : NodeId) (parent : Node) : Option Node → List Node → List Violation
  | _, [] => []
  | previous, c :: cs => misplaced id parent previous c ++ misplacedList id parent (some c) cs

mutual

/-- Everything that is wrong in a tree, in the order of its nodes. -/
def violations : Ast → List Violation
  | .mk id n cs =>
    inverted n ++ misplacedList id n none (cs.map Ast.node) ++ violationsList cs

def violationsList : List Ast → List Violation
  | [] => []
  | c :: cs => violations c ++ violationsList cs

end

end Ast
end Wdl
