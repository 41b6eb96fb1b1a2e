import Wdl.Text.Digits

/-!
Sets of characters.

A property of characters is given by the code points that have it, which are many but come in
ranges. They are written in hexadecimal: `41-5A` is a range, `100-10E/2` every second code point of
a range, and `AA` a single one. A table in increasing order is searched by halving. A set is written
as an expression over tables and intervals, and a code point is looked up by following the
expression, so that sets need not be computed.
-/

namespace Wdl
namespace Text

/-! ## Ranges of code points -/

/-- The words of a text, which stand between blanks and new lines. -/
def words (s : String) : List String :=
  ((s.splitOn "\n").flatMap (·.splitOn " ")).filter (!·.isEmpty)

/-- Inclusive ranges of code points in increasing order. -/
structure Ranges where
  ranges : Array (Nat × Nat)

namespace Ranges

/-- The ranges that a written piece stands for. -/
def ofPiece (piece : String) : List (Nat × Nat) :=
  match piece.splitOn "-" with
  | [] => []
  | [one] => [(ofHex one.toList, ofHex one.toList)]
  | lo :: hi :: _ =>
    match hi.splitOn "/" with
    | [_] => [(ofHex lo.toList, ofHex hi.toList)]
    | last :: step :: _ =>
      let first := ofHex lo.toList
      let step := ofHex step.toList
      (List.range ((ofHex last.toList - first) / step + 1)).map fun k =>
        (first + step * k, first + step * k)
    | [] => []

/-- Reads ranges, with blanks and new lines between the pieces. -/
def ofText (s : String) : Ranges :=
  ⟨((words s).flatMap ofPiece).toArray⟩

/-- Looks for a range that holds `n` among the entries `lo` to `hi` of a table. -/
def search (table : Array (Nat × Nat)) (n : Nat) : Nat → Nat → Nat → Bool
  | 0, _, _ => false
  | fuel + 1, lo, hi =>
    if lo < hi then
      let mid := (lo + hi) / 2
      match table[mid]? with
      | none => false
      | some (a, b) =>
        if n < a then search table n fuel lo mid
        else if b < n then search table n fuel (mid + 1) hi
        else true
    else false

/-- Whether a code point lies in one of the ranges. -/
def contains (r : Ranges) (n : Nat) : Bool :=
  search r.ranges n r.ranges.size 0 r.ranges.size

end Ranges

/-! ## Expressions -/

/-- A set of code points. -/
inductive CharSet
  | interval (lo hi : Nat)
  | table (r : Ranges)
  | union (a b : CharSet)
  | inter (a b : CharSet)
  | diff (a b : CharSet)
  | symmDiff (a b : CharSet)
  | complement (a : CharSet)

namespace CharSet

/-- Whether a set holds a code point. -/
def contains : CharSet → Nat → Bool
  | .interval lo hi, n => lo ≤ n && n ≤ hi
  | .table r, n => r.contains n
  | .union a b, n => a.contains n || b.contains n
  | .inter a b, n => a.contains n && b.contains n
  | .diff a b, n => a.contains n && !b.contains n
  | .symmDiff a b, n => a.contains n != b.contains n
  | .complement a, n => !a.contains n

def none : CharSet := .interval 1 0

def all : CharSet := .interval 0 0x10FFFF

def ascii : CharSet := .interval 0 0x7F

/-- The set of one code point. -/
def single (n : Nat) : CharSet := .interval n n

/-- The union of several sets. -/
def unions (sets : List CharSet) : CharSet :=
  sets.foldr .union none

/-- The set that ranges of code points describe. -/
def ofText (s : String) : CharSet := .table (.ofText s)

/-- Whether a set holds a character. -/
def holds (s : CharSet) (c : Char) : Bool := s.contains c.toNat

theorem contains_none (n : Nat) : none.contains n = false := by
  simp only [none, contains]
  grind

theorem contains_single (m n : Nat) : (single m).contains n = (m == n) := by
  simp only [single, contains]
  grind

/-- A union of several sets holds what one of them holds. -/
theorem contains_unions (sets : List CharSet) (n : Nat) :
    (unions sets).contains n = sets.any (·.contains n) := by
  induction sets with
  | nil => exact contains_none n
  | cons a sets ih =>
    show (a.contains n || (unions sets).contains n) = _
    rw [ih, List.any_cons]

end CharSet
end Text
end Wdl
