import Wdl.Pattern.Basic

/-!
Letters that count as several letters.

A run of letters in a pattern can match letters that stand for several others only where the run,
folded, holds what such a letter folds to. These stretches are matched by what they fold to, and the
rest letter by letter.
-/

namespace Wdl
namespace Pattern

/-- The letter that a pattern is, if it may count as several. -/
def letter? : Pattern → Option Nat
  | .one (.char n) .full => some n
  | _ => none

/-- Where a list occurs in another. -/
def occurrences (part whole : List Nat) : List Nat :=
  (List.range whole.length).filter fun i => part.isPrefixOf (whole.drop i)

/-- Ranges in order of their starts, with those that touch joined. -/
def joinRanges : List (Nat × Nat) → List (Nat × Nat)
  | (a, b) :: (c, d) :: rest =>
    if c ≤ b then joinRanges ((a, max b d) :: rest) else (a, b) :: joinRanges ((c, d) :: rest)
  | rs => rs
termination_by rs => rs.length

/-- The stretches of folded letters that a single letter may stand for. -/
def stretches (folded : List Nat) : List (Nat × Nat) :=
  let found := Text.Fold.long.flatMap fun (_, f) =>
    (occurrences f folded).map fun i => (i, i + f.length)
  joinRanges (found.mergeSort fun a b => a.1 < b.1 || (a.1 == b.1 && a.2 ≤ b.2))

/-- Letters that are matched one by one. -/
def letters (ns : List Nat) : List Pattern :=
  ns.map fun n => .one (.char n) .simple

/-- Letters that are matched by what they fold to. -/
def stretch (ns : List Nat) : List Pattern :=
  match ns with
  | [] => []
  | [n] =>
    match Text.Fold.full n with
    | [_] => letters [n]
    | fold => [.alt (.one (.char n) .simple) (.folded fold)]
  | ns => [.folded (ns.flatMap Text.Fold.full)]

/-- A run of letters, of which the stretches are given by their places. -/
def divide (ns : List Nat) : Nat → List (Nat × Nat) → List Pattern
  | i, [] => letters (ns.drop i)
  | i, (a, b) :: rest =>
    letters ((ns.drop i).take (a - i)) ++ stretch ((ns.drop a).take (b - a)) ++ divide ns b rest

/-- A run of letters. -/
def run (ns : List Nat) : List Pattern :=
  if ns.isEmpty then [] else divide ns 0 (stretches (ns.flatMap Text.Fold.full))

/-- Patterns one after another with their runs of letters resolved; `letters` are those just before,
the last first. -/
def resolveRuns : List Nat → List Pattern → List Pattern
  | letters, [] => run letters.reverse
  | letters, p :: ps =>
    match p.letter? with
    | some n => resolveRuns (n :: letters) ps
    | none => run letters.reverse ++ p :: resolveRuns [] ps

/-- The patterns that a pattern consists of, one after another, each with the runs of letters inside
it resolved. -/
def parts : Pattern → List Pattern
  | .empty => []
  | .seq p q => p.parts ++ q.parts
  | .alt p q => [.alt (sequence (resolveRuns [] p.parts)) (sequence (resolveRuns [] q.parts))]
  | .repeated p bounds greed => [.repeated (sequence (resolveRuns [] p.parts)) bounds greed]
  | .group i p => [.group i (sequence (resolveRuns [] p.parts))]
  | .look d negated p => [.look d negated (sequence (resolveRuns [] p.parts))]
  | .ifGroup i yes no =>
    [.ifGroup i (sequence (resolveRuns [] yes.parts)) (sequence (resolveRuns [] no.parts))]
  | .ifLook d negated c yes no =>
    [.ifLook d negated (sequence (resolveRuns [] c.parts)) (sequence (resolveRuns [] yes.parts))
      (sequence (resolveRuns [] no.parts))]
  | .atomic p => [.atomic (sequence (resolveRuns [] p.parts))]
  | .fuzzy t p => [.fuzzy t (sequence (resolveRuns [] p.parts))]
  | p => [p]

/-- A pattern with its runs of letters resolved. -/
def resolved (p : Pattern) : Pattern := sequence (resolveRuns [] p.parts)

end Pattern
end Wdl
