import Wdl.Proofs.Library.Failures

/-!
The range of integers.

Integers have 64 bits.  Arithmetic wraps to them, and what only chooses between values or takes one
for another makes no new integers.  The three functions that round a floating point number do not
keep to the range: a floating point number can be far beyond it.
-/

namespace Wdl

/-- A value that, if it is an integer, has 64 bits. -/
def Value.Fits : Value → Prop
  | .int n => -0x8000000000000000 ≤ n ∧ n < 0x8000000000000000
  | _ => True

/-- A computation that does not give an integer out of range. -/
def Ranged (x : Except Failure Value) : Prop :=
  ∀ v, x = .ok v → v.Fits

namespace Ranged

theorem ok {v : Value} (h : v.Fits) : Ranged (.ok v) := by
  rintro w ⟨⟩
  exact h

theorem error (f : Failure) : Ranged (.error f) := by
  rintro w ⟨⟩

theorem bind {α : Type} (x : Except Failure α) {g : α → Except Failure Value}
    (hg : ∀ a, x = .ok a → Ranged (g a)) : Ranged (x >>= g) := by
  cases x with
  | error f => exact error f
  | ok a => exact hg a rfl

theorem map {α : Type} (x : Except Failure α) {g : α → Value} (hg : ∀ a, (g a).Fits) :
    Ranged (x.map g) := by
  cases x with
  | error f => exact error f
  | ok a => exact ok (hg a)

end Ranged

open Ranged

theorem Value.floatOfInt_ranged (n : Int) : Ranged (Value.floatOfInt n) := by
  unfold Value.floatOfInt
  split
  · exact ok trivial
  · exact error _

/-- Taking a value for one of another type does not change an integer. -/
theorem Value.coerce_ranged {v : Value} (h : v.Fits) (t : Ty) : Ranged (v.coerce t) := by
  unfold Value.coerce
  split
  · split
    · exact ok trivial
    · exact error _
  · exact Value.floatOfInt_ranged _
  · exact ok trivial
  · exact ok trivial
  · exact ok trivial
  · exact ok trivial
  · split
    · exact ok h
    · exact error _

namespace Library

/-! ## Operators -/

theorem wrap_fits (n : Int) : (Value.int (wrap n)).Fits := by
  unfold Value.Fits wrap
  omega

theorem arithmetic_ranged (op : Arithmetic) (sign : String) (l r : Value) :
    Ranged (arithmetic op sign l r) := by
  unfold arithmetic
  split
  · exact map _ wrap_fits
  · split
    · exact .bind _ fun a _ => .bind _ fun b _ => ok trivial
    · exact error _

theorem addOrJoin_ranged (l r : Value) : Ranged (addOrJoin l r) := by
  unfold addOrJoin
  split
  case h_9 =>
    split
    · exact error _
    · exact arithmetic_ranged _ _ l r
  all_goals exact ok trivial

theorem compareTexts_ranged (op : Comparison) (l r : Value) (a b : String) :
    Ranged (compareTexts op l r a b) := by
  unfold compareTexts
  split
  · exact error _
  · exact ok trivial

theorem compare_ranged (op : Comparison) (l r : Value) : Ranged (compare op l r) := by
  unfold compare
  split
  · exact ok trivial
  · exact ok trivial
  · exact compareTexts_ranged op _ _ _ _
  · exact compareTexts_ranged op _ _ _ _
  · exact compareTexts_ranged op _ _ _ _
  · exact compareTexts_ranged op _ _ _ _
  · split
    · exact .bind _ fun a _ => .bind _ fun b _ => ok trivial
    · exact error _

theorem logical_ranged (f : Bool → Bool → Bool) (sign : String) (l r : Value) :
    Ranged (logical f sign l r) := by
  unfold logical
  split
  · exact ok trivial
  · exact error _

theorem binary_ranged (op : BinaryOp) (l r : Value) : Ranged (binary op l r) := by
  refine .bind _ fun _ _ => ?_
  cases op
  case add => exact addOrJoin_ranged l r
  case and => exact logical_ranged _ _ l r
  case or => exact logical_ranged _ _ l r
  all_goals first
    | exact arithmetic_ranged _ _ l r
    | exact compare_ranged _ l r

theorem negate_ranged (v : Value) : Ranged (negate v) := by
  refine .bind _ fun _ _ => ?_
  split
  · exact ok (wrap_fits _)
  · exact ok trivial
  · exact error _

theorem complement_ranged (v : Value) : Ranged (complement v) := by
  unfold complement
  split
  · exact ok trivial
  · exact error _

/-- No operator gives an integer out of range, whatever its operands are. -/
theorem operator_ranged (op : Operator) (args : List Value) : Ranged (operator op args) := by
  unfold operator
  split
  · exact negate_ranged _
  · exact complement_ranged _
  · exact error _
  · exact ok trivial
  · exact binary_ranged _ _ _
  · exact error _

/-! ## Functions -/

/-- The functions that round a floating point number to an integer. -/
def Static.rounds : Static → Bool
  | .floor => true
  | .ceil => true
  | .round => true
  | _ => false

theorem static_ranged {s : Static} (h : s.rounds = false) (args : List Value) :
    Ranged (s.call args) := by
  unfold Static.call
  dsimp only
  split
  · exact error _
  · refine .bind _ fun ws _ => ?_
    unfold Static.compute
    split
    case h_1 | h_2 | h_3 => exact nomatch h
    case h_4 => split <;> first | exact ok trivial | exact error _
    case h_5 | h_6 | h_7 | h_8 => exact ok trivial
    case h_9 => exact error _

theorem extreme_ranged (greatest : Bool) {args : List Value} (h : ∀ v ∈ args, v.Fits) :
    Ranged (extreme greatest args) := by
  unfold extreme
  dsimp only
  split
  · next a b =>
    have ha : (Value.int a).Fits := h _ List.mem_cons_self
    have hb : (Value.int b).Fits := h _ (List.mem_cons_of_mem _ List.mem_cons_self)
    refine ok ?_
    unfold pick
    split <;> split <;> assumption
  · split
    · exact .bind _ fun a _ => .bind _ fun b _ => ok trivial
    · exact error _
  · exact error _

theorem choose_ranged {args : List Value} (h : ∀ v ∈ args, v.Fits) : Ranged (choose args) := by
  unfold choose
  split
  · next b yes no =>
    have hyes : yes.Fits := h _ (List.mem_cons_of_mem _ List.mem_cons_self)
    have hno : no.Fits :=
      h _ (List.mem_cons_of_mem _ (List.mem_cons_of_mem _ List.mem_cons_self))
    split
    · exact Value.floatOfInt_ranged _
    · next v w _ heq =>
      refine ok ?_
      cases b with
      | true => exact (Prod.mk.inj heq).1 ▸ hyes
      | false => exact (Prod.mk.inj heq).1 ▸ hno
  · exact error _
  · exact error _

/-- Whether a function rounds. -/
def Function.rounds : Function → Bool
  | .static s => s.rounds
  | _ => false

/-- A function that does not round gives no integer out of range if it is given none. -/
theorem call_ranged {function : Function} (h : function.rounds = false) {args : List Value}
    (hargs : ∀ v ∈ args, v.Fits) : Ranged (function.call args) := by
  cases function with
  | static s => exact static_ranged h args
  | least => exact extreme_ranged false hargs
  | greatest => exact extreme_ranged true hargs
  | ifThenElse => exact choose_ranged hargs
  | compound what => exact error _

end Library
end Wdl
