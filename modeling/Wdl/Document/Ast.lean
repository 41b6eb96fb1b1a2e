import Wdl.Document.Forest

/-!
The tree below a node.

`Forest.ast` unfolds the references of a forest into a tree that carries the nodes themselves, so
that traversals are recursions on that tree.
-/

namespace Wdl

inductive Ast
  | mk (id : NodeId) (node : Node) (children : List Ast)

namespace Ast

def id : Ast → NodeId
  | .mk id _ _ => id

def node : Ast → Node
  | .mk _ n _ => n

def children : Ast → List Ast
  | .mk _ _ cs => cs

mutual

/-- The nodes of a tree, each before those below it. -/
def preorder : Ast → List (NodeId × Node)
  | .mk id n cs => (id, n) :: preorderList cs

def preorderList : List Ast → List (NodeId × Node)
  | [] => []
  | c :: cs => preorder c ++ preorderList cs

end

/-- How a tree is walked. Every node is given to the method for its class. Either the walk itself
goes on to the children after that, or the method does so if it asks for the descent. -/
structure Traversal where
  autoDescend : Bool
  /-- whether the method for a node asks for the descent -/
  asks : Node → Bool

/-- A method and the node that it is called on. -/
abbrev Visit := String × Node

mutual

/-- The methods called in a walk, in order, each with the place of its node: which child to go to at
each level. `asks` says of a place and the node there whether the method asks for the descent. -/
def visits (autoDescend : Bool) (asks : List Nat → Node → Bool) : Ast → List (List Nat × Visit)
  | .mk _ n cs =>
    let within := if asks [] n && !autoDescend then visitsFrom autoDescend asks 0 cs else []
    let after := if autoDescend then visitsFrom autoDescend asks 0 cs else []
    ([], n.body.methodName, n) :: (within ++ after)

/-- The same for children, the first of which is number `i`. -/
def visitsFrom (autoDescend : Bool) (asks : List Nat → Node → Bool) (i : Nat) :
    List Ast → List (List Nat × Visit)
  | [] => []
  | c :: cs =>
    (visits autoDescend (fun place => asks (i :: place)) c).map (fun v => (i :: v.1, v.2)) ++
      visitsFrom autoDescend asks (i + 1) cs

end

/-- The methods called in a walk, in order. -/
def walk (t : Traversal) (a : Ast) : List Visit :=
  (a.visits t.autoDescend fun _ => t.asks).map Prod.snd

end Ast

namespace Forest

/-- The tree below a node, to a given depth. -/
def astTo (f : Forest) : Nat → NodeId → Option Ast
  | 0, _ => none
  | depth + 1, id =>
    (f.node? id).map fun n => .mk id n ((f.children id).filterMap (f.astTo depth))

/-- The tree below a node. No branch of a tree has more nodes than there are. -/
def ast? (f : Forest) (id : NodeId) : Option Ast :=
  f.astTo (f.nodes.size + 1) id

end Forest
end Wdl
