import Wdl.Pattern.ClassReader

/-!
Reading tolerances.

Which errors are tolerated stands in braces behind a part of a pattern: `e` are errors of any kind,
`i`, `d` and `s` insertions, deletions and substitutions. They may be bounded, as in `i<=2` or
`1<=e<=3`, and weighed, as in `2i+3d<=5`. A class of the characters that may be put in can follow a
colon. What does not begin like this is no tolerance but a text.
-/

namespace Wdl
namespace Pattern

open Reader

/-- What is written about errors: bounds for kinds of errors, and perhaps a weight for some kinds
with a bound for all. -/
structure Constraints where
  bounds : List (Char × Bounds) := []
  weights : Option (List (Char × Nat) × Nat) := none

namespace Constraints

/-- The bounds for a kind of errors; if none is given, another kind's being given forbids it. -/
def boundsOf (k : Constraints) (kind : Char) : Bounds :=
  let weighed := (k.weights.map (·.1)).getD []
  match k.bounds.lookup kind with
  | some b => b
  | none =>
    if (weighed.lookup kind).isSome then {}
    else if ['d', 'i', 's'].any fun c =>
        (k.bounds.lookup c).isSome || (weighed.lookup c).isSome then
      { most := some 0 }
    else {}

/-- What an error of a kind costs. -/
def costOf (k : Constraints) (kind : Char) : Nat :=
  match k.weights with
  | some (ws, _) => (ws.lookup kind).getD 0
  | none => 1

/-- The tolerance that constraints describe. -/
def tolerance (k : Constraints) (allowed : Option (CharClass × CaseRule)) : Tolerance :=
  let all := (k.bounds.lookup 'e').getD {}
  { substitutions := k.boundsOf 's'
    insertions := k.boundsOf 'i'
    deletions := k.boundsOf 'd'
    all
    costs := ⟨k.costOf 's', k.costOf 'i', k.costOf 'd'⟩
    mostCost := match k.weights with
      | some (_, most) => some most
      | none => all.most
    allowed }

end Constraints

/-- Reads a number, of which there may be no digit. -/
def count : Reader (List Char) := takeWhile Char.isDigit

/-- Reads the sign between a bound and what is bounded: whether the bound itself is meant. -/
def comparison? : Reader (Option Bool) := do
  if ← accept "<=" then return some true
  if ← accept "<" then return some false
  return none

/-- Reads a bound for errors. -/
def errorBound : Reader Nat := do
  let ds ← count
  if ds.isEmpty then reject else return natOf ds

/-- An upper bound that is meant or not meant itself. -/
def upperBound (n : Nat) (meant : Bool) : Reader Nat :=
  if meant then pure n else if n == 0 then reject else pure (n - 1)

/-- Accepts a kind of errors that has no bounds yet. -/
def newKind (k : Constraints) (c : Option Char) : Reader Char :=
  match c with
  | some c =>
    if ['d', 'e', 'i', 's'].contains c && (k.bounds.lookup c).isNone then pure c
    else throw .otherwise
  | none => throw .otherwise

/-- Reads bounds for a kind of errors. -/
def boundedKind (k : Constraints) : Reader Constraints := do
  let rest := (← get).rest
  match ← take? with
  | some c =>
    if c.isAlpha then
      let kind ← newKind k c
      match ← comparison? with
      | none => return { k with bounds := (kind, {}) :: k.bounds }
      | some meant =>
        let most ← upperBound (← errorBound) meant
        return { k with bounds := (kind, { most := some most }) :: k.bounds }
    else if c.isDigit then
      back rest
      let least ← errorBound
      let some leastMeant ← comparison? | throw .otherwise
      let kind ← newKind k (← take?)
      let some mostMeant ← comparison? | throw .otherwise
      let most ← upperBound (← errorBound) mostMeant
      let least := if leastMeant then least else least + 1
      if most < least then reject
      else return { k with bounds := (kind, { least, most := some most }) :: k.bounds }
    else throw .otherwise
  | none => throw .otherwise

/-- Reads a weighed kind of errors; one that has a weight is given none again. -/
def weighedKind (weights : List (Char × Nat)) : Reader (List (Char × Nat)) := do
  let ds ← count
  match ← take? with
  | some c =>
    if !(['d', 'i', 's'].contains c) then throw .otherwise
    else if (weights.lookup c).isSome then reject
    else return (c, if ds.isEmpty then 1 else natOf ds) :: weights
  | none => throw .otherwise

/-- Reads further weighed kinds of errors. -/
def weighedKinds : Nat → List (Char × Nat) → Reader (List (Char × Nat))
  | 0, weights => pure weights
  | fuel + 1, weights => do
    if ← accept "+" then weighedKinds fuel (← weighedKind weights) else return weights

/-- Reads weights for kinds of errors and a bound for their sum. -/
def weighedSum (k : Constraints) : Reader Constraints := do
  if k.weights.isSome then reject
  let weights ← weighedKinds 4 (← weighedKind [])
  let some meant ← comparison? | throw .otherwise
  let ds ← count
  if ds.isEmpty then
    throw (.invalid ("invalid literal for int() with base 10: " ++ "''"))
  let most ← upperBound (natOf ds) meant
  return { k with weights := some (weights, most) }

/-- Reads constraints with commas between them. -/
def constraints : Nat → Constraints → Reader Constraints
  | 0, k => pure k
  | fuel + 1, k => do
    let k ← Reader.orElse (· == .otherwise) (boundedKind k) (weighedSum k)
    if ← accept "," then constraints fuel k else return k

/-- The class of any character that a dot stands for. -/
def dotClass : Reader CharClass := do
  if ← has .dotAll then return .ofSet .all
  if ← has .wordBreaks then return .complement (.ofSet (.ofText "A-D 85 2028-2029"))
  return .complement (.char 0xA)

/-- Reads the class of the characters that may be put in. -/
def allowedClass : Reader (CharClass × CaseRule) := do
  let rule ← rule
  match ← take? with
  | some '\\' =>
    match ← takeRaw? with
    | none => reject
    | some c =>
      if let some a ← commonEscape? c then return (a, rule)
      if c.isAlphanum then reject
      return (.char c.toNat, rule)
  | some '.' => return (← dotClass, .exact)
  | some '[' => return (← charClass, rule)
  | some c =>
    if ['(', ')', '|', '?', '*', '+', '\x7b', '^', '$', '#'].contains c then reject
    else return (.char c.toNat, rule)
  | none => reject

/-- Reads a tolerance after its opening brace, if it is one. -/
def tolerance? : Reader (Option Tolerance) := do
  let r ← get
  let found ← Reader.orElse (· == .otherwise)
    (some <$> constraints (r.rest.length + 1) {})
    (do set r; return none)
  match found with
  | none => return none
  | some k =>
    let allowed ← if ← accept ":" then some <$> allowedClass else pure none
    expect "\x7d"
    return some (k.tolerance allowed)

end Pattern
end Wdl
