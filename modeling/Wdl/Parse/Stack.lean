import Wdl.Grammar.Automaton
import Wdl.Parse.Tree

/-!
The stack of the parser.

An entry is a token that was shifted or a nonterminal that was reduced. A reduction takes as many
entries as its rule has symbols, and they have to be the symbols of the rule; so whatever automaton
drives the stack, a tree is only ever made from the parts that its rule names.
-/

namespace Wdl
namespace Parse

/-- A symbol that has been read. A nonterminal keeps the trees that it hands to the rule above. -/
inductive Entry
  | token (t : Token)
  | reduced (n : Nonterminal) (extent : Option Extent) (trees : List Tree)

namespace Entry

def symbol : Entry → Symbol
  | .token t => .terminal t.terminal
  | .reduced n _ _ => .nonterminal n

def extent? : Entry → Option Extent
  | .token t => some (.ofToken t)
  | .reduced _ e _ => e

/-- The trees that an entry adds to the node above it. -/
def trees (verbatim : Bool) : Entry → List Tree
  | .token t => if verbatim || !t.terminal.isSilent then [.token t] else []
  | .reduced _ _ ts => ts

end Entry

/-- An entry and the state after it. -/
structure Level where
  state : Nat
  entry : Entry

/-- The entries read so far, the last one first. -/
abbrev Stack := List Level

namespace Stack

/-- The state on top. -/
def state : Stack → Nat
  | [] => 0
  | l :: _ => l.state

/-- What a rule makes of the entries that were read for it. -/
def combine (rule : Rule) (entries : List Entry) : Entry :=
  let extent := Extent.hull (entries.map Entry.extent?)
  let trees := entries.flatMap (Entry.trees rule.verbatim)
  match rule.production with
  | some p => .reduced rule.lhs extent [.node p extent trees]
  | none => .reduced rule.lhs extent trees

/-- Reduces by a rule, if its symbols are on top and the state below knows its nonterminal. -/
def reduce? (a : Automaton) (rule : Rule) (s : Stack) : Option Stack :=
  let entries := (s.take rule.rhs.length).reverse.map Level.entry
  let below := s.drop rule.rhs.length
  if entries.map Entry.symbol == rule.rhs then
    (a.goto? (state below) rule.lhs).map fun q => ⟨q, combine rule entries⟩ :: below
  else none

/-- What becomes of the stack when it is offered a lookahead. -/
inductive Outcome
  /-- the token was shifted -/
  | shifted (s : Stack)
  /-- the input was accepted, with this entry for the start symbol -/
  | accepted (e : Entry)
  /-- the lookahead was refused; reductions made for it are kept -/
  | refused (s : Stack)

/-- Offers a lookahead, and the token if it is one: reduces while the state says so, then shifts.
The number of reductions is bounded by `fuel`. -/
def offer (a : Automaton) (l : Lookahead) (t? : Option Token) : Nat → Stack → Outcome
  | 0, s => .refused s
  | fuel + 1, s =>
    match a.action? s.state l with
    | none => .refused s
    | some (.shift q) =>
      match t? with
      | some t => .shifted (⟨q, .token t⟩ :: s)
      | none => .refused s
    | some (.reduce rule) =>
      match s.reduce? a rule with
      | none => .refused s
      | some s' =>
        match s' with
        | top :: _ =>
          if l == .endOfInput && top.state == a.accepting then .accepted top.entry
          else offer a l t? fuel s'
        | [] => .refused s'

/-- More reductions than can be due for one lookahead: between two that shorten the stack there are
at most as many as the grammar has levels. -/
def patience (s : Stack) : Nat :=
  32 * (s.length + 4)

/-- Offers a token. -/
def shift (a : Automaton) (t : Token) (s : Stack) : Outcome :=
  offer a (.terminal t.terminal) (some t) s.patience s

/-- Offers the end of the input. -/
def finish (a : Automaton) (s : Stack) : Outcome :=
  offer a .endOfInput none s.patience s

end Stack
end Parse
end Wdl
