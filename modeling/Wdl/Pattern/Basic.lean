import Wdl.Pattern.CharClass

/-!
Text patterns.

A pattern describes texts as a regular expression does. It may ask for positions, refer back to what
a group has matched, look ahead and behind, call its groups, and tolerate errors in the text.
-/

namespace Wdl

/-- A position in a text that a pattern can ask for. Words and lines are meant in the plain or in
the finer sense; in the plain sense, only ASCII words may count. -/
inductive Anchor
  | textStart
  | textEnd
  /-- the end of the text, or the place before a line feed that ends it -/
  | lastLineEnd
  | lineStart
  | lineEnd
  /-- as above, for any line separator -/
  | lastLineBreak
  | afterLineBreak
  | beforeLineBreak
  | wordBoundary (ascii : Bool)
  | noWordBoundary (ascii : Bool)
  | wordStart (ascii : Bool)
  | wordEnd (ascii : Bool)
  /-- as above, for words as a reader takes them -/
  | pieceBoundary
  | noPieceBoundary
  | pieceStart
  | pieceEnd
  /-- where the search began -/
  | searchStart
  deriving DecidableEq, Repr

/-- The order in which a repetition tries its ends. -/
inductive Greed
  | greedy
  | lazy
  /-- keeps the first end only -/
  | possessive
  deriving DecidableEq, Repr

/-- Which way a pattern is matched. -/
inductive Direction
  | forward
  | backward
  deriving DecidableEq, Repr

/-- How many errors of each kind there are. -/
structure Errors where
  substitutions : Nat := 0
  insertions : Nat := 0
  deletions : Nat := 0
  deriving DecidableEq, Repr, Hashable

namespace Errors

def total (e : Errors) : Nat := e.substitutions + e.insertions + e.deletions

def add (e f : Errors) : Errors :=
  ⟨e.substitutions + f.substitutions, e.insertions + f.insertions, e.deletions + f.deletions⟩

/-- What errors cost together, if each kind has a cost. -/
def cost (e costs : Errors) : Nat :=
  e.substitutions * costs.substitutions + e.insertions * costs.insertions +
    e.deletions * costs.deletions

end Errors

/-- How often something may happen. -/
structure Bounds where
  least : Nat := 0
  most : Option Nat := none
  deriving DecidableEq, Repr

namespace Bounds

/-- Whether a number is not above the upper bound. -/
def admits (b : Bounds) (n : Nat) : Bool :=
  b.most.all (n ≤ ·)

def contains (b : Bounds) (n : Nat) : Bool :=
  b.least ≤ n && b.admits n

end Bounds

/-- Which errors in a text are tolerated: bounds for each kind and for all, what each kind costs and
what all may cost, and the characters that may be put in. -/
structure Tolerance where
  substitutions : Bounds
  insertions : Bounds
  deletions : Bounds
  all : Bounds
  costs : Errors
  mostCost : Option Nat
  allowed : Option (CharClass × CaseRule) := none

namespace Tolerance

/-- Whether errors are within the upper bounds. -/
def admits (t : Tolerance) (e : Errors) : Bool :=
  t.substitutions.admits e.substitutions && t.insertions.admits e.insertions &&
    t.deletions.admits e.deletions && t.all.admits e.total && t.mostCost.all (e.cost t.costs ≤ ·)

/-- Whether errors reach the lower bounds. -/
def reached (t : Tolerance) (e : Errors) : Bool :=
  t.substitutions.least ≤ e.substitutions && t.insertions.least ≤ e.insertions &&
    t.deletions.least ≤ e.deletions && t.all.least ≤ e.total

/-- Whether a character may be in the text instead of another or beside the others. -/
def allows (t : Tolerance) (n : Nat) : Bool :=
  t.allowed.all fun (c, rule) => c.holds rule n

end Tolerance

inductive Pattern
  | empty
  | fail
  /-- one character of a class -/
  | one (c : CharClass) (rule : CaseRule)
  /-- a text that is given by what it folds to -/
  | folded (ns : List Nat)
  /-- what a reader takes for one character -/
  | grapheme
  | seq (p q : Pattern)
  | alt (p q : Pattern)
  | repeated (p : Pattern) (bounds : Bounds) (greed : Greed)
  | group (index : Nat) (p : Pattern)
  /-- the text that a group has matched -/
  | backref (index : Nat) (rule : CaseRule)
  /-- what a group describes; group zero is the whole pattern -/
  | call (index : Nat)
  | anchor (a : Anchor)
  /-- a condition on the text after the position, or before it -/
  | look (d : Direction) (negated : Bool) (p : Pattern)
  /-- one pattern if a group has matched, another if not -/
  | ifGroup (index : Nat) (yes no : Pattern)
  /-- one pattern under a condition on the text around the position, another otherwise -/
  | ifLook (d : Direction) (negated : Bool) (condition yes no : Pattern)
  /-- keeps the first end only -/
  | atomic (p : Pattern)
  /-- gives up all other ends, and perhaps all starts before the position -/
  | cut (skip : Bool)
  /-- lets the match begin at the position -/
  | keep
  /-- tolerates errors -/
  | fuzzy (t : Tolerance) (p : Pattern)

namespace Pattern

/-- Patterns one after another. -/
def sequence (ps : List Pattern) : Pattern :=
  match ps with
  | [] => .empty
  | p :: ps => ps.foldl .seq p

/-- Patterns of which one has to match, the earlier before the later. -/
def choice (ps : List Pattern) : Pattern :=
  match ps with
  | [] => .empty
  | p :: ps => ps.foldl .alt p

/-- Any character of a set. -/
def ofSet (s : Text.CharSet) : Pattern := .one (.ofSet s) .exact

/-- Whether a pattern describes the empty text only and asks for nothing. -/
def isEmpty : Pattern → Bool
  | .empty => true
  | .folded ns => ns.isEmpty
  | .seq p q => p.isEmpty && q.isEmpty
  | .alt p q => p.isEmpty && q.isEmpty
  | .repeated p _ _ => p.isEmpty
  | .group _ p => p.isEmpty
  | .look _ _ p => p.isEmpty
  | .atomic p => p.isEmpty
  | .fuzzy _ p => p.isEmpty
  | _ => false

/-- A bound from below for the lengths of the texts that a pattern describes, as far as it can be
told without following references. -/
def leastLength : Pattern → Nat
  | .one _ _ => 1
  | .folded ns => if ns.isEmpty then 0 else max 1 (ns.length / 3)
  | .grapheme => 1
  | .seq p q => p.leastLength + q.leastLength
  | .alt p q => min p.leastLength q.leastLength
  | .repeated p bounds _ => bounds.least * p.leastLength
  | .group _ p => p.leastLength
  | .atomic p => p.leastLength
  | .ifGroup _ yes no => min yes.leastLength no.leastLength
  | .ifLook _ _ _ yes no => min yes.leastLength no.leastLength
  | .fuzzy _ p => p.leastLength
  | _ => 0

/-- Whether a pattern tolerates errors anywhere. -/
def isFuzzy : Pattern → Bool
  | .seq p q => p.isFuzzy || q.isFuzzy
  | .alt p q => p.isFuzzy || q.isFuzzy
  | .repeated p _ _ => p.isFuzzy
  | .group _ p => p.isFuzzy
  | .look _ _ p => p.isFuzzy
  | .ifGroup _ yes no => yes.isFuzzy || no.isFuzzy
  | .ifLook _ _ c yes no => c.isFuzzy || yes.isFuzzy || no.isFuzzy
  | .atomic p => p.isFuzzy
  | .fuzzy _ _ => true
  | _ => false

/-- The groups whose matches later parts of a pattern depend on. -/
def observed : Pattern → List Nat
  | .seq p q => p.observed ++ q.observed
  | .alt p q => p.observed ++ q.observed
  | .repeated p _ _ => p.observed
  | .group _ p => p.observed
  | .backref i _ => [i]
  | .look _ _ p => p.observed
  | .ifGroup i yes no => i :: (yes.observed ++ no.observed)
  | .ifLook _ _ c yes no => c.observed ++ yes.observed ++ no.observed
  | .atomic p => p.observed
  | .fuzzy _ p => p.observed
  | _ => []

/-- The group with a given number inside a pattern. -/
def find? (index : Nat) : Pattern → Option Pattern
  | .seq p q => (p.find? index).or (q.find? index)
  | .alt p q => (p.find? index).or (q.find? index)
  | .repeated p _ _ => p.find? index
  | .group i p => if i == index then some (.group i p) else p.find? index
  | .look _ _ p => p.find? index
  | .ifGroup _ yes no => (yes.find? index).or (no.find? index)
  | .ifLook _ _ c yes no => (c.find? index).or ((yes.find? index).or (no.find? index))
  | .atomic p => p.find? index
  | .fuzzy _ p => p.find? index
  | _ => none

end Pattern
end Wdl
