import Wdl.Pattern.Match
import Wdl.Pattern.Template

/-!
Replacing what a pattern matches.

A text is searched from one end to the other. Each search goes on where the last match ended, and
after an empty match the next may not end in the same place.
-/

namespace Wdl
namespace Pattern

namespace Compiled

def direction (c : Compiled) : Direction :=
  if c.flags.contains .reverse then .backward else .forward

/-- The match at a position of a text, and whether others are given up; `advance` says that it may
not end where the search began. -/
def matchAt (c : Compiled) (s : Subject) (advance : Bool) (i : Nat) :
    Option Reached × Option Cut :=
  let depth := (s.text.size + 2) * (c.groups + 2)
  let found := s.run c.pattern depth 0 none c.direction { position := i, start := i }
  let ends := found.ends.filter fun e => !(advance && e.position == s.origin)
  (Subject.farthest c.direction ends, found.cut)

/-- The position from which to search on after nothing has been found at one. -/
def nextStart? (c : Compiled) (s : Subject) (i : Nat) (skip : Option Nat) : Option Nat :=
  match c.direction with
  | .forward =>
    if s.last ≤ i then none else some (match skip with
      | some k => if i < k then k else i + 1
      | none => i + 1)
  | .backward =>
    if i ≤ s.first then none else some (match skip with
      | some k => if k < i then k else i - 1
      | none => i - 1)

/-- The first match from a position on. -/
def search? (c : Compiled) (s : Subject) (advance : Bool) : Nat → Nat → Option Reached
  | 0, _ => none
  | fuel + 1, i =>
    match c.matchAt s advance i with
    | (some e, _) => some e
    | (none, given) =>
      match c.nextStart? s i (given.bind (·.skip)) with
      | some i => search? c s advance fuel i
      | none => none

/-- A match with fewer errors than a given one, as long as there is one. Among all matches, or
within the given one, the first is taken. -/
def improve (c : Compiled) (s : Subject) (advance within : Bool) : Nat → Reached → Reached
  | 0, e => e
  | fuel + 1, e =>
    if e.errors.total == 0 then e
    else
      let s := { s with mostErrors := some (e.errors.total - 1) }
      let s := if within then
          { s with
            first := min e.start e.position
            last := max e.start e.position
            origin := e.start }
        else s
      match c.search? s advance (s.text.size + 1) s.origin with
      | some better => improve c s advance within fuel better
      | none => e

/-- The match that a search from a position finds. -/
def find? (c : Compiled) (text : Array Nat) (advance : Bool) (i : Nat) : Option Reached :=
  let s : Subject :=
    { text, first := 0, last := text.size, origin := i, observed := c.pattern.observed.eraseDups }
  (c.search? s advance (text.size + 1) i).map fun e =>
    if c.flags.contains .best then c.improve s advance false e.errors.total e
    else if c.flags.contains .enhance then c.improve s advance true e.errors.total e
    else e

end Compiled

/-- The part of a text between two positions. -/
def slice (text : Array Nat) (i j : Nat) : List Nat :=
  (text.extract i j).toList

/-- What a match is replaced by. A group that took no part in the match has no text. -/
def expand (groups : Nat) (text : Array Nat) (e : Reached) : List Part → Except Refusal (List Nat)
  | [] => .ok []
  | .text ns :: parts => (expand groups text e parts).map (ns ++ ·)
  | .group i :: parts =>
    if groups < i then .error .malformed
    else
      let (a, b) :=
        if i == 0 then (min e.start e.position, max e.start e.position)
        else (e.group? i).getD (0, 0)
      (expand groups text e parts).map (slice text a b ++ ·)

/-- Replaces the matches from a position on, of which the last ended at `last`. -/
def replaceFrom (c : Compiled) (text : Array Nat) (parts : List Part) :
    Nat → Bool → Nat → Nat → Except Refusal (List Nat)
  | 0, _, _, _ => .ok []
  | fuel + 1, advance, i, last =>
    match c.find? text advance i with
    | some e => do
      let new ← expand c.groups text e parts
      let rest ← replaceFrom c text parts fuel (e.start == e.position) e.position e.position
      match c.direction with
      | .forward => return slice text last e.start ++ new ++ rest
      | .backward => return rest ++ new ++ slice text e.start last
    | none =>
      match c.direction with
      | .forward => return slice text last text.size
      | .backward => return slice text 0 last

/-- The refusal of a pattern that cannot be read. -/
def Trouble.refusal : Trouble → Refusal
  | .invalid message => .invalid message
  | .several count => .several count
  | _ => .malformed

/-- Replaces every match of a written pattern in a text. A text that is too short for any match is
returned before the template is read. -/
def substitute (text pattern replacement : String) : Except Refusal String := do
  let c ← (read pattern).mapError Trouble.refusal
  let ns := (text.toList.map Char.toNat).toArray
  if !c.pattern.isFuzzy && ns.size < c.pattern.leastLength then return text
  let parts ← template c (replacement.length + 1) [] replacement.toList
  let start := match c.direction with
    | .forward => 0
    | .backward => ns.size
  let out ← replaceFrom c ns parts (2 * ns.size + 3) false start start
  return String.ofList (out.map Char.ofNat)

end Pattern
end Wdl
