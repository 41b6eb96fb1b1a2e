import Std.Data.HashSet
import Wdl.Pattern.Anchored

/-!
Matching.

From a position a pattern reaches ends, and tries them in an order that depends on how its
alternatives are written and on whether its repetitions are greedy or lazy. Two ways to the same end
differ at most in what groups have matched; where nothing depends on that, the first way counts and
the other is dropped. Of all ends the farthest counts, and among equally far ones the first.
-/

namespace Wdl
namespace Pattern

/-- A position that has been reached, where the match begins, the stretches that groups have
matched, and the errors that were tolerated. -/
structure Reached where
  position : Nat
  start : Nat
  groups : List (Nat × Nat × Nat) := []
  errors : Errors := {}

namespace Reached

/-- The stretch that a group has matched. -/
def group? (r : Reached) (index : Nat) : Option (Nat × Nat) :=
  r.groups.lookup index

/-- Records the stretch of a group between two positions, in place of an earlier one. -/
def record (r : Reached) (index i j : Nat) : Reached :=
  { r with groups := (index, min i j, max i j) :: r.groups.filter fun g => g.1 != index }

end Reached

/-- What later matching can depend on. -/
structure Key where
  position : Nat
  groups : List (Option (Nat × Nat))
  errors : Errors
  deriving DecidableEq, Hashable

/-- What ends other ways to match: `skip` is the first position from which to go on. -/
structure Cut where
  skip : Option Nat

/-- The ends that are reached, in the order in which they are tried, and whether others are given up
after them. -/
structure Outcome where
  ends : List Reached
  cut : Option Cut := none

namespace Outcome

/-- Nothing is reached. -/
def nothing : Outcome := ⟨[], none⟩

def single (r : Reached) : Outcome := ⟨[r], none⟩

/-- One outcome and then another, unless others are given up after the first. -/
def append (a b : Outcome) : Outcome :=
  match a.cut with
  | some _ => a
  | none => ⟨a.ends ++ b.ends, b.cut⟩

/-- The ends that are reached from ends. -/
def andThen (f : Reached → Outcome) : List Reached → Option Cut → Outcome
  | [], cut => ⟨[], cut⟩
  | r :: rs, cut => (f r).append (andThen f rs cut)

def bind (a : Outcome) (f : Reached → Outcome) : Outcome :=
  andThen f a.ends a.cut

def map (f : Reached → Reached) (a : Outcome) : Outcome :=
  { a with ends := a.ends.map f }

/-- Ends without those that can be dropped, since an earlier one has the same key. -/
def dropSeen (key : Reached → Key) (seen : Std.HashSet Key) : List Reached → List Reached
  | [] => []
  | r :: rs =>
    if seen.contains (key r) then dropSeen key seen rs
    else r :: dropSeen key (seen.insert (key r)) rs

/-- An outcome without the ends that can be dropped. -/
def distinct (key : Reached → Key) (a : Outcome) : Outcome :=
  match a.ends with
  | [] => a
  | [_] => a
  | ends => { a with ends := dropSeen key ∅ ends }

/-- The first end, with nothing given up. -/
def first (a : Outcome) : Outcome := ⟨a.ends.take 1, none⟩

end Outcome

/-- A text that is searched: the part of it that may be matched, where the search began, the groups
that matter, and how many errors may be tolerated in all. -/
structure Subject where
  text : Array Nat
  first : Nat
  last : Nat
  origin : Nat
  observed : List Nat
  mostErrors : Option Nat := none

namespace Subject

def key (s : Subject) (r : Reached) : Key :=
  ⟨r.position, s.observed.map r.group?, r.errors⟩

/-- The next character in a direction, and the position behind it. -/
def next? (s : Subject) : Direction → Nat → Option (Nat × Nat)
  | .forward, i => if i < s.last then s.text[i]?.map fun n => (n, i + 1) else none
  | .backward, i => if s.first < i then s.text[i - 1]?.map fun n => (n, i - 1) else none

/-- Whether errors are tolerated. -/
def admits (s : Subject) (t : Tolerance) (e : Errors) : Bool :=
  t.admits e && s.mostErrors.all (e.total ≤ ·)

/-- The next position, if the character there may be put in under a tolerance. -/
def pass? (s : Subject) (t : Tolerance) (d : Direction) (r : Reached) : Option Nat :=
  (s.next? d r.position).bind fun (n, i) => if t.allows n then some i else none

/-- The ends of an item that does not match where it should: another character in its place, further
characters before it, or nothing at all. Where a search begins, no character is put in. -/
def amend (s : Subject) (t : Tolerance) (d : Direction) (item : Nat → Option Nat) :
    Nat → Reached → Outcome
  | 0, _ => .nothing
  | fuel + 1, r =>
    match item r.position with
    | some i => .single { r with position := i }
    | none =>
      let e := r.errors
      let substituted := { e with substitutions := e.substitutions + 1 }
      let inserted := { e with insertions := e.insertions + 1 }
      let deleted := { e with deletions := e.deletions + 1 }
      let instead : Outcome :=
        match s.pass? t d r with
        | some i =>
          if s.admits t substituted then
            .single { r with position := i, errors := substituted }
          else .nothing
        | none => .nothing
      let beside : Outcome :=
        match s.pass? t d r with
        | some i =>
          if s.admits t inserted && r.position != s.origin then
            amend s t d item fuel { r with position := i, errors := inserted }
          else .nothing
        | none => .nothing
      let without : Outcome :=
        if s.admits t deleted then .single { r with errors := deleted } else .nothing
      instead.append (beside.append without)

/-- The ends of an item that leads from a position to another, under a tolerance if there is one. -/
def item (s : Subject) (t : Option Tolerance) (d : Direction) (f : Nat → Option Nat)
    (r : Reached) : Outcome :=
  match t, f r.position with
  | _, some i => .single { r with position := i }
  | none, none => .nothing
  | some t, none => s.amend t d f (s.text.size + 1) r

/-- The end with further characters put in after it, fewest first. -/
def trailing (s : Subject) (t : Tolerance) (d : Direction) : Nat → Reached → List Reached
  | 0, r => [r]
  | fuel + 1, r =>
    let inserted := { r.errors with insertions := r.errors.insertions + 1 }
    match s.pass? t d r with
    | some i =>
      if s.admits t inserted then
        r :: trailing s t d fuel { r with position := i, errors := inserted }
      else [r]
    | none => [r]

/-- The position behind a text that folds to given characters. -/
def folded? (s : Subject) (rule : CaseRule) (d : Direction) : Nat → List Nat → Nat → Option Nat
  | _, [], i => some i
  | 0, _, _ => none
  | fuel + 1, ns, i =>
    match s.next? d i with
    | none => none
    | some (n, j) =>
      let fold := match d with
        | .forward => rule.fold n
        | .backward => (rule.fold n).reverse
      if fold.length ≤ ns.length && (fold.zip ns).all fun (a, b) => rule.same a b then
        folded? s rule d fuel (ns.drop fold.length) j
      else none

/-- The position behind a copy of the text between two positions. -/
def copy? (s : Subject) (rule : CaseRule) (d : Direction) (i j there : Nat) : Option Nat :=
  let ns := (s.text.extract i j).toList.flatMap rule.fold
  let ns := match d with
    | .forward => ns
    | .backward => ns.reverse
  s.folded? rule d (s.text.size + 1) ns there

/-- The position behind what a reader takes for one character. -/
def grapheme? (s : Subject) (d : Direction) : Nat → Nat → Option Nat
  | 0, _ => none
  | fuel + 1, i =>
    match s.next? d i with
    | some (_, j) => if Anchor.graphemeBoundaryAt s.text j then some j else grapheme? s d fuel j
    | none => none

/-- The positions that an item leads to when it is repeated at most `fuel` times, the nearest
first. -/
def chain (f : Nat → Option Nat) : Nat → Nat → List Nat
  | 0, i => [i]
  | fuel + 1, i =>
    match f i with
    | some j => i :: chain f fuel j
    | none => [i]

/-- The ends of a repetition of single characters. -/
def characters (s : Subject) (f : Nat → Option Nat) (bounds : Bounds) (greed : Greed)
    (r : Reached) : Outcome :=
  let most := min s.text.size (bounds.most.getD s.text.size)
  let ends := ((chain f most r.position).drop bounds.least).map fun i => { r with position := i }
  match greed with
  | .greedy => ⟨ends.reverse, none⟩
  | .lazy => ⟨ends, none⟩
  | .possessive => ⟨ends.reverse.take 1, none⟩

/-- Explores a repetition after `count` rounds. `moved` says whether the last round has changed
anything: if not, the repetition ends there. What has been explored is not explored again. -/
def rounds (s : Subject) (step : Reached → Outcome) (bounds : Bounds) (eager : Bool) :
    Nat → Nat → Bool → Reached → Std.HashSet (Nat × Key) → Outcome × Std.HashSet (Nat × Key)
  | 0, _, _, r, seen => (.single r, seen)
  | _ + 1, _, false, r, seen => (.single r, seen)
  | fuel + 1, count, true, r, seen =>
    let state := (if bounds.most.isNone then min count bounds.least else count, s.key r)
    if seen.contains state then (.nothing, seen)
    else
      let seen := seen.insert state
      let here : Outcome := if bounds.least ≤ count then .single r else .nothing
      if bounds.admits (count + 1) then
        let found := step r
        let (onward, seen) := found.ends.foldr
          (fun next rest (seen : Std.HashSet (Nat × Key)) =>
            let (a, seen) :=
              rounds s step bounds eager fuel (count + 1) (s.key r != s.key next) next seen
            if a.cut.isSome then (a, seen)
            else
              let (b, seen) := rest seen
              (a.append b, seen))
          (fun seen => (⟨[], found.cut⟩, seen)) seen
        (if eager then onward.append here else here.append onward, seen)
      else (here, seen)

/-- The ends of a repetition. -/
def repetition (s : Subject) (step : Reached → Outcome) (bounds : Bounds) (greed : Greed)
    (r : Reached) : Outcome :=
  let fuel := (s.text.size + 2) * (2 * s.observed.length + 2)
  let found := ((s.rounds step bounds (greed != .lazy) fuel 0 true r ∅).1).distinct s.key
  match greed with
  | .possessive => found.first
  | _ => found

/-- The outcome of a condition: the end that it has, with the position that it was asked at. -/
def condition (found : Outcome) (r : Reached) : Option Reached :=
  found.ends.head?.map fun e => { e with position := r.position, errors := r.errors }

/-- The position behind the next character, if a class holds it. -/
def step? (s : Subject) (c : CharClass) (rule : CaseRule) (d : Direction) (i : Nat) : Option Nat :=
  (s.next? d i).bind fun (n, j) => if c.holds rule n then some j else none

/-- The ends that a pattern reaches from a position, in the order in which they are tried. `call`
gives those of a group. -/
def ends (s : Subject) (call : Nat → Option Tolerance → Direction → Reached → Outcome) :
    Pattern → Option Tolerance → Direction → Reached → Outcome
  | .empty, _, _, r => .single r
  | .fail, _, _, _ => .nothing
  | .one c rule, t, d, r => s.item t d (s.step? c rule d) r
  | .folded ns, t, d, r =>
    let ns := match d with
      | .forward => ns
      | .backward => ns.reverse
    s.item t d (s.folded? .full d (s.text.size + 1) ns) r
  | .grapheme, t, d, r => s.item t d (s.grapheme? d (s.text.size + 1)) r
  | .seq p q, t, d, r =>
    let found := match d with
      | .forward => (ends s call p t d r).bind (ends s call q t d)
      | .backward => (ends s call q t d r).bind (ends s call p t d)
    found.distinct s.key
  | .alt p q, t, d, r =>
    ((ends s call p t d r).append (ends s call q t d r)).distinct s.key
  | .repeated (.one c rule) bounds greed, none, d, r =>
    s.characters (s.step? c rule d) bounds greed r
  | .repeated p bounds greed, t, d, r =>
    s.repetition (ends s call p t d) bounds greed r
  | .group index p, t, d, r =>
    (ends s call p t d r).map fun e => e.record index r.position e.position
  | .backref index rule, t, d, r =>
    match r.group? index with
    | some (i, j) => s.item t d (s.copy? rule d i j) r
    | none => .nothing
  | .call index, t, d, r =>
    (call index t d { r with groups := [] }).map fun e => { e with groups := r.groups }
  | .anchor a, t, d, r =>
    s.item t d (fun i => if a.holdsAt s.text s.origin i then some i else none) r
  | .look d negated p, t, _, r =>
    match condition (ends s call p t d r) r with
    | some e => if negated then .nothing else .single e
    | none => if negated then .single r else .nothing
  | .ifGroup index yes no, t, d, r =>
    if (r.group? index).isSome then ends s call yes t d r else ends s call no t d r
  | .ifLook ahead negated c yes no, t, d, r =>
    match condition (ends s call c t ahead r) r with
    | some e => if negated then ends s call no t d r else ends s call yes t d e
    | none => if negated then ends s call yes t d r else ends s call no t d r
  | .atomic p, t, d, r => (ends s call p t d r).first
  | .cut skip, _, _, r => ⟨[r], some ⟨if skip then some r.position else none⟩⟩
  | .keep, _, _, r => .single { r with start := r.position }
  | .fuzzy t p, _, d, r =>
    let found := ends s call p (some t) d { r with errors := {} }
    let amended := found.bind fun e =>
      ⟨(s.trailing t d s.text.size e).filter fun e => t.reached e.errors, none⟩
    (amended.map fun e => { e with errors := r.errors.add e.errors }).distinct s.key

/-- The ends of a group of a pattern, or of the whole pattern; calls may be nested as deep as the
fuel allows. -/
def run (s : Subject) (whole : Pattern) :
    Nat → Nat → Option Tolerance → Direction → Reached → Outcome
  | 0, _, _, _, _ => .nothing
  | fuel + 1, index, t, d, r =>
    match if index == 0 then some whole else whole.find? index with
    | some p => ends s (run s whole fuel) p t d r
    | none => .nothing

/-- Whether one position is farther than another in a direction. -/
def isFarther : Direction → Nat → Nat → Bool
  | .forward, i, j => j < i
  | .backward, i, j => i < j

/-- The farthest of several ends; of equally far ones the first. -/
def farthest (d : Direction) (ends : List Reached) : Option Reached :=
  ends.foldl
    (fun best r =>
      match best with
      | some b => if isFarther d r.position b.position then some r else best
      | none => some r)
    none

end Subject
end Pattern
end Wdl
