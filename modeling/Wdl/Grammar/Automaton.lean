import Std.Data.HashMap
import Wdl.Grammar.Rules

/-!
The parsing automaton of a grammar.

`Automaton.ofRules` builds the states of the LR(0) automaton and the lookaheads under which each
rule is reduced: a rule `A → ω` is reduced before `t` if `t` can follow `A` at one of the places
from which `ω` leads to the state. Where a terminal can be both shifted and a reason to reduce, it
is shifted.

The lookaheads come from three relations between the transitions `(p, A)` of the automaton over
nonterminals. What follows `A` at `p` is what can be read next, what can be read after nonterminals
that may be empty, and, where `A` may end a rule of `B` begun at `p'`, what follows `B` at `p'`.
-/

namespace Wdl

/-- What the parser sees next: a terminal, or the end of the input. -/
inductive Lookahead
  | terminal (t : Terminal)
  | endOfInput
  deriving DecidableEq, Repr, Hashable

/-- What a state does with a lookahead. -/
inductive Action
  | shift (state : Nat)
  | reduce (rule : Rule)
  deriving DecidableEq, Repr

/-- A state: its action for each lookahead that it allows, its successor for each nonterminal. -/
structure State where
  actions : List (Lookahead × Action)
  gotos : List (Nonterminal × Nat)
  deriving Repr

instance : Inhabited State := ⟨⟨[], []⟩⟩

/-- An automaton starts in state `0` and accepts in the state `accepting`. -/
structure Automaton where
  states : Array State
  accepting : Nat

namespace Automaton

/-- The state with a given number; states that do not exist allow nothing. -/
def state (a : Automaton) (i : Nat) : State :=
  a.states[i]?.getD default

def action? (a : Automaton) (i : Nat) (l : Lookahead) : Option Action :=
  (a.state i).actions.lookup l

def goto? (a : Automaton) (i : Nat) (n : Nonterminal) : Option Nat :=
  (a.state i).gotos.lookup n

/-- The lookaheads that a state allows. -/
def allowed (a : Automaton) (i : Nat) : List Lookahead :=
  (a.state i).actions.map (·.1)

/-- The terminals that a state allows. -/
def terminals (a : Automaton) (i : Nat) : List Terminal :=
  (a.allowed i).filterMap fun
    | .terminal t => some t
    | .endOfInput => none

/-! ## Items

An item is a rule with a position in its right-hand side. -/

/-- The rules of a grammar, by number and by left-hand side. -/
structure Source where
  rules : Array Rule
  byLhs : Std.HashMap Nonterminal (List Nat)

def Source.ofRules (rules : List Rule) : Source :=
  let numbered := rules.zipIdx
  { rules := rules.toArray
    byLhs := numbered.foldl (fun m (r, i) => m.insert r.lhs (i :: m.getD r.lhs [])) ∅ }

/-- A rule, by its number, of which the first `dot` symbols have been read. -/
structure Item where
  rule : Nat
  dot : Nat
  deriving DecidableEq, Hashable

def Source.rhs (g : Source) (i : Nat) : List Symbol :=
  (g.rules[i]?.map (·.rhs)).getD []

/-- Every item of the grammar. -/
def Source.items (g : Source) : List Item :=
  g.rules.toList.zipIdx.flatMap fun x => (List.range (x.1.rhs.length + 1)).map (⟨x.2, ·⟩)

/-- The symbol after the dot. -/
def Source.next? (g : Source) (item : Item) : Option Symbol :=
  (g.rhs item.rule)[item.dot]?

/-- The nonterminals that can begin what is read next, found from `todo` on. -/
def Source.begun (g : Source) : Nat → List Nonterminal → List Nonterminal → List Nonterminal
  | 0, seen, _ => seen
  | _ + 1, seen, [] => seen
  | fuel + 1, seen, n :: todo =>
    if seen.contains n then g.begun fuel seen todo
    else
      let firsts := (g.byLhs.getD n []).filterMap fun i =>
        match g.next? ⟨i, 0⟩ with
        | some (.nonterminal m) => some m
        | _ => none
      g.begun fuel (n :: seen) (firsts ++ todo)

/-- The items of a state, given those that lead into it. -/
def Source.closure (g : Source) (kernel : List Item) : List Item :=
  let nexts := kernel.filterMap fun item =>
    match g.next? item with
    | some (.nonterminal n) => some n
    | _ => none
  let begun := g.begun (nexts.length + g.rules.size) [] nexts
  kernel ++ (begun.flatMap fun n => (g.byLhs.getD n []).map (⟨·, 0⟩)).filter
    fun item => !kernel.contains item

/-- Whether one item comes before another in the written form of a set of items. -/
def Item.le (a b : Item) : Bool :=
  a.rule < b.rule || (a.rule == b.rule && a.dot ≤ b.dot)

/-- The successors of a set of items: for each symbol, the items that have read it. -/
def Source.successors (g : Source) (items : List Item) : List (Symbol × List Item) :=
  let grouped : Array Symbol × Std.HashMap Symbol (List Item) :=
    items.foldl
      (fun (order, m) item =>
        match g.next? item with
        | none => (order, m)
        | some x =>
          match m[x]? with
          | some old => (order, m.insert x (⟨item.rule, item.dot + 1⟩ :: old))
          | none => (order.push x, m.insert x [⟨item.rule, item.dot + 1⟩]))
      (#[], ∅)
  grouped.1.toList.map fun x => (x, (grouped.2.getD x []).mergeSort Item.le)

/-! ## States -/

/-- States found so far: their items, their numbers and their successors. -/
structure Exploration where
  kernels : Array (List Item)
  numbers : Std.HashMap (List Item) Nat
  moves : Array (List (Symbol × Nat))

/-- The number of a state, which is new if its items are. -/
def Exploration.number (e : Exploration) (kernel : List Item) : Exploration × Nat :=
  match e.numbers[kernel]? with
  | some i => (e, i)
  | none =>
    let i := e.kernels.size
    ({ e with kernels := e.kernels.push kernel, numbers := e.numbers.insert kernel i }, i)

/-- Finds the successors of the states from number `i` on. -/
def Source.explore (g : Source) : Nat → Nat → Exploration → Exploration
  | 0, _, e => e
  | fuel + 1, i, e =>
    match e.kernels[i]? with
    | none => e
    | some kernel =>
      let (e, moves) := (g.successors (g.closure kernel)).foldl
        (fun (e, moves) (x, next) =>
          let (e, j) := e.number next
          (e, (x, j) :: moves))
        (e, [])
      g.explore fuel (i + 1) { e with moves := e.moves.push moves }

/-- Follows a sequence of symbols through the states. -/
def walk (moves : Array (List (Symbol × Nat))) : Nat → List Symbol → Option Nat
  | p, [] => some p
  | p, x :: xs =>
    match (moves[p]?.getD []).lookup x with
    | some q => walk moves q xs
    | none => none

/-! ## Lookaheads

A set of lookaheads is a number whose bits are the positions in `lookaheads`. -/

def lookaheads : List Lookahead :=
  .endOfInput :: Terminal.all.map .terminal

def bits : Std.HashMap Lookahead Nat :=
  lookaheads.zipIdx.foldl (fun m (l, i) => m.insert l (Nat.pow 2 i)) ∅

def bit (l : Lookahead) : Nat :=
  bits.getD l 0

def members (set : Nat) : List Lookahead :=
  lookaheads.zipIdx.filterMap fun (l, i) => if set.testBit i then some l else none

/-- Adds the nonterminals of which some rule has only symbols that may be empty. -/
def Source.nullable (g : Source) : Nat → List Nonterminal → List Nonterminal
  | 0, known => known
  | fuel + 1, known =>
    let known' := g.rules.toList.foldl
      (fun known r =>
        if !known.contains r.lhs && r.rhs.all (fun
          | .nonterminal n => known.contains n
          | .terminal _ => false)
        then r.lhs :: known else known)
      known
    if known'.length == known.length then known else g.nullable fuel known'

/-- One pass of propagation: each set takes in the sets that its entry in `edges` names. -/
def propagateOnce (edges : Array (List Nat)) (sets : Array Nat) : Array Nat :=
  (List.range sets.size).foldl
    (fun sets i =>
      let joined := (edges[i]?.getD []).foldl
        (fun s j => s ||| (sets[j]?.getD 0)) (sets[i]?.getD 0)
      sets.setIfInBounds i joined)
    sets

/-- The least sets that are closed under `edges`. -/
def propagate (edges : Array (List Nat)) : Nat → Array Nat → Array Nat
  | 0, sets => sets
  | fuel + 1, sets =>
    let sets' := propagateOnce edges sets
    if sets' == sets then sets else propagate edges fuel sets'

/-- The transitions over nonterminals, with their numbers. -/
structure Crossings where
  list : Array (Nat × Nonterminal)
  numbers : Std.HashMap (Nat × Nonterminal) Nat

def Crossings.ofMoves (moves : Array (List (Symbol × Nat))) : Crossings :=
  let list := (moves.toList.zipIdx.flatMap fun (ms, p) =>
    ms.filterMap fun
      | (.nonterminal n, _) => some (p, n)
      | (.terminal _, _) => none).toArray
  { list, numbers := list.toList.zipIdx.foldl (fun m (c, i) => m.insert c i) ∅ }

def Crossings.number? (c : Crossings) (p : Nat) (n : Nonterminal) : Option Nat :=
  c.numbers[(p, n)]?

/-- Whether a sequence of symbols may be empty. -/
def emptyable (nullable : List Nonterminal) (xs : List Symbol) : Bool :=
  xs.all fun
    | .nonterminal n => nullable.contains n
    | .terminal _ => false

/-- The transitions that may come last in the rest `xs` of a rule, read from state `p` on. -/
def lastCrossings (moves : Array (List (Symbol × Nat))) (c : Crossings)
    (nullable : List Nonterminal) : Nat → List Symbol → List Nat
  | _, [] => []
  | p, x :: xs =>
    let here : List Nat :=
      match x with
      | .nonterminal a => if emptyable nullable xs then (c.number? p a).toList else []
      | .terminal _ => []
    match (moves[p]?.getD []).lookup x with
    | some q => here ++ lastCrossings moves c nullable q xs
    | none => here

/-- For each transition, those whose followers follow it too: if `A` may come last in a rule of `B`
begun at `p`, then what follows `B` at `p` follows that `A`. -/
def Source.endings (g : Source) (moves : Array (List (Symbol × Nat))) (c : Crossings)
    (nullable : List Nonterminal) : Array (List Nat) :=
  c.list.toList.zipIdx.foldl
    (fun edges ((p, b), i) =>
      (g.byLhs.getD b []).foldl
        (fun edges r =>
          (lastCrossings moves c nullable p (g.rhs r)).foldl
            (fun edges j => edges.modify j (i :: ·)) edges)
        edges)
    (Array.replicate c.list.size [])

/-- What follows each transition over a nonterminal. -/
def Source.followers (g : Source) (start : Nonterminal) (moves : Array (List (Symbol × Nat)))
    (c : Crossings) : Array Nat :=
  let nullable := g.nullable g.rules.size []
  let after (p : Nat) (n : Nonterminal) : List (Symbol × Nat) :=
    match (moves[p]?.getD []).lookup (.nonterminal n) with
    | some q => moves[q]?.getD []
    | none => []
  let direct := c.list.map fun (p, n) =>
    (after p n).foldl
      (fun s (x, _) =>
        match x with
        | .terminal t => s ||| bit (.terminal t)
        | .nonterminal _ => s)
      (if p == 0 && n == start then bit .endOfInput else 0)
  let reads := c.list.map fun (p, n) =>
    match (moves[p]?.getD []).lookup (.nonterminal n) with
    | none => []
    | some q => (after p n).filterMap fun (x, _) =>
      match x with
      | .nonterminal m => if nullable.contains m then c.number? q m else none
      | .terminal _ => none
  let read := propagate reads c.list.size direct
  propagate (g.endings moves c nullable) c.list.size read

/-- The rules that each state reduces, with the set of lookaheads under which it does. -/
def Source.reductions (g : Source) (moves : Array (List (Symbol × Nat))) (c : Crossings)
    (followers : Array Nat) : Array (List (Nat × Nat)) :=
  let note (rs : List (Nat × Nat)) (r set : Nat) : List (Nat × Nat) :=
    match rs.lookup r with
    | some old => (r, old ||| set) :: rs.filter (·.1 != r)
    | none => (r, set) :: rs
  c.list.toList.zipIdx.foldl
    (fun table ((p, a), i) =>
      (g.byLhs.getD a []).foldl
        (fun table r =>
          match walk moves p (g.rhs r) with
          | some q => table.modify q (note · r (followers[i]?.getD 0))
          | none => table)
        table)
    (Array.replicate moves.size [])

/-- The automaton that recognises the texts of `start`. -/
def ofRules (start : Nonterminal) (rules : List Rule) : Automaton :=
  let g := Source.ofRules rules
  -- one more rule, which is never reduced, tells the start symbol from its other occurrences
  let opening : Item := ⟨g.rules.size, 0⟩
  let g := { g with rules := g.rules.push ⟨start, [.nonterminal start], none, false⟩ }
  let first : Exploration :=
    { kernels := #[[opening]], numbers := (∅ : Std.HashMap _ _).insert [opening] 0, moves := #[] }
  -- a state is a set of items
  let e := g.explore (Nat.pow 2 g.items.length) 0 first
  let c := Crossings.ofMoves e.moves
  let reductions := g.reductions e.moves c (g.followers start e.moves c)
  let states := e.moves.toList.zipIdx.map fun (ms, i) =>
    let shifts := ms.filterMap fun
      | (.terminal t, j) => some (Lookahead.terminal t, Action.shift j)
      | (.nonterminal _, _) => none
    let gotos := ms.filterMap fun
      | (.nonterminal n, j) => some (n, j)
      | (.terminal _, _) => none
    let reduces := (reductions[i]?.getD []).flatMap fun (r, set) =>
      match g.rules[r]? with
      | some rule => (members set).filterMap fun l =>
        if (shifts.lookup l).isSome then none else some (l, Action.reduce rule)
      | none => []
    State.mk (shifts ++ reduces) gotos
  { states := states.toArray
    accepting := ((e.moves[0]?.getD []).lookup (.nonterminal start)).getD 0 }

end Automaton
end Wdl
