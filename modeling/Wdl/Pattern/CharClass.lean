import Wdl.Text.CharSet
import Wdl.Text.Fold

/-!
Classes of characters in patterns.

A class is built from characters, ranges and properties. When case does not matter, a class holds a
character if a member of the class holds one of its variants, and a class that is a single property
holds what the property says for letters of any case.
-/

namespace Wdl

/-- Which characters count as the same. -/
inductive CaseRule
  | exact
  /-- ASCII letters in either case -/
  | ascii
  /-- letters in any case -/
  | simple
  /-- letters in any case, and those that stand for several letters as these -/
  | full
  deriving DecidableEq, Repr

namespace CaseRule

/-- The characters that count as the same as a given one, which comes first. -/
def variants : CaseRule → Nat → List Nat
  | .exact, n => [n]
  | .ascii, n => Text.Fold.asciiVariants n
  | _, n => Text.Fold.variants n

/-- Whether two characters count as the same. -/
def same (rule : CaseRule) (m n : Nat) : Bool :=
  m == n || (rule.variants n).contains m

/-- What a character counts as, if it may count as several. -/
def fold : CaseRule → Nat → List Nat
  | .full, n => Text.Fold.full n
  | _, n => [n]

end CaseRule

/-- A class of characters. -/
inductive CharClass
  | char (n : Nat)
  | range (lo hi : Nat)
  /-- a property: the characters that have it, and those that are meant when case does not matter -/
  | property (set caseless : Text.CharSet)
  | union (a b : CharClass)
  | inter (a b : CharClass)
  | diff (a b : CharClass)
  | symmDiff (a b : CharClass)
  | complement (a : CharClass)

namespace CharClass

/-- Whether a class holds a character. -/
def contains : CharClass → Nat → Bool
  | .char m, n => m == n
  | .range lo hi, n => lo ≤ n && n ≤ hi
  | .property set _, n => set.contains n
  | .union a b, n => a.contains n || b.contains n
  | .inter a b, n => a.contains n && b.contains n
  | .diff a b, n => a.contains n && !b.contains n
  | .symmDiff a b, n => a.contains n != b.contains n
  | .complement a, n => !a.contains n

/-- A set as a class. -/
def ofSet (s : Text.CharSet) : CharClass := .property s s

/-- Whether a member of a class holds one of several variants of a character. -/
def holdsOne (variants : List Nat) : CharClass → Bool
  | .complement a => !a.holdsOne variants
  | a => variants.any a.contains

/-- Whether one of the classes that are united holds a variant. -/
def unionHolds (variants : List Nat) : CharClass → Bool
  | .union a b => a.unionHolds variants || b.unionHolds variants
  | a => a.holdsOne variants

/-- Whether each of the classes that are intersected holds a variant. -/
def interHolds (variants : List Nat) : CharClass → Bool
  | .inter a b => a.interHolds variants && b.interHolds variants
  | a => a.holdsOne variants

/-- Whether an odd number of the classes whose difference is taken holds a variant. -/
def symmDiffHolds (variants : List Nat) : CharClass → Bool
  | .symmDiff a b => a.symmDiffHolds variants != b.symmDiffHolds variants
  | a => a.holdsOne variants

/-- Whether a class holds a character in one of its variants: each member is asked for itself. -/
def holdsVariant (variants : List Nat) : CharClass → Bool
  | .union a b => (CharClass.union a b).unionHolds variants
  | .inter a b => (CharClass.inter a b).interHolds variants
  | .diff a b => a.holdsOne variants && !b.holdsOne variants
  | .symmDiff a b => (CharClass.symmDiff a b).symmDiffHolds variants
  | .complement a => !a.holdsVariant variants
  | a => a.holdsOne variants

/-- Whether a class holds a character under a rule about case. -/
def holds (rule : CaseRule) : CharClass → Nat → Bool
  | a, n =>
    match rule, a with
    | .exact, a => a.contains n
    | _, .property _ caseless => caseless.contains n
    | _, .complement (.property _ caseless) => !caseless.contains n
    | rule, a => a.holdsVariant (rule.variants n)

/-- Whether a class is made of several members. -/
def isCompound : CharClass → Bool
  | .char _ => false
  | .property _ _ => false
  | .complement _ => false
  | _ => true

/-- The distinct texts that members of a class fold to, if they are longer than one character. -/
def longFolds (a : CharClass) : List (List Nat) :=
  ((Text.Fold.long.filter fun f => a.contains f.1).map (·.2)).eraseDups

theorem contains_complement (a : CharClass) (n : Nat) :
    (complement a).contains n = !a.contains n := rfl

theorem holds_exact (a : CharClass) (n : Nat) : a.holds .exact n = a.contains n := by
  cases a <;> rfl

end CharClass
end Wdl
