import Wdl.Library.Functions

/-!
How operators and functions fail.

Two failures say that a compiled expression is not well formed: `malformed` and `operandCount`.  The
library never finds the first, and it finds the second only for an operator with a wrong number of
operands: the functions count their arguments themselves and say so in another way, and after the
arguments are coerced every function has a value for them.  Failures that are about names, and not
about operands, do not come from the library either.
-/

namespace Wdl

/-- The failures of expressions that are not well formed. -/
def Failure.isStructural : Failure → Bool
  | .malformed _ => true
  | .operandCount => true
  | _ => false

/-- The failures of operators and functions that do not have a value for their operands. -/
def Failure.isOfOperands : Failure → Bool
  | .incompatible _ => true
  | .arithmetic _ => true
  | .overflow => true
  | .unknownGroup => true
  | .severalCharacters _ => true
  | _ => false

theorem Failure.not_structural {f : Failure} (h : f.isOfOperands = true) :
    f.isStructural = false := by
  cases f <;> first | rfl | exact nomatch h

/-- A computation that does not fail but for the values of its operands. -/
def Regular {α : Type} (x : Except Failure α) : Prop :=
  ∀ f, x = .error f → f.isOfOperands = true

namespace Regular

variable {α β : Type}

theorem ok (a : α) : Regular (.ok a) := by
  intro f h
  cases h

theorem error {f : Failure} (hf : f.isOfOperands = true) :
    Regular (.error f : Except Failure α) := by
  intro g h
  cases h
  exact hf

theorem bind {x : Except Failure α} {g : α → Except Failure β} (hx : Regular x)
    (hg : ∀ a, x = .ok a → Regular (g a)) : Regular (x >>= g) := by
  cases x with
  | error f => exact error (hx f rfl)
  | ok a => exact hg a rfl

theorem map {x : Except Failure α} {g : α → β} (hx : Regular x) : Regular (x.map g) := by
  cases x with
  | error f => exact error (hx f rfl)
  | ok a => exact ok (g a)

end Regular

open Regular

/-! ## Values -/

theorem Value.floatOfInt_regular (n : Int) : Regular (Value.floatOfInt n) := by
  unfold Value.floatOfInt
  split
  · exact ok _
  · exact error rfl

theorem Value.coerce_regular (v : Value) (t : Ty) : Regular (v.coerce t) := by
  unfold Value.coerce
  split
  · split
    · exact ok _
    · exact error rfl
  · exact Value.floatOfInt_regular _
  · exact ok _
  · exact ok _
  · exact ok _
  · exact ok _
  · split
    · exact ok _
    · exact error rfl

namespace Library

/-! ## Operators -/

theorem toFloat_regular (v : Value) : Regular (toFloat v) := by
  unfold toFloat
  split
  · split
    · exact ok _
    · exact error rfl
  · exact ok _
  · exact error rfl

theorem refuseNull_regular (sign : String) (args : List Value) :
    Regular (refuseNull sign args) := by
  unfold refuseNull
  split
  · exact error rfl
  · exact ok _

theorem onInts_regular (op : Arithmetic) (l r : Int) : Regular (op.onInts l r) := by
  unfold Arithmetic.onInts
  split
  · exact ok _
  · exact ok _
  · exact ok _
  · split
    · exact error rfl
    · exact ok _
  · split
    · exact error rfl
    · exact ok _

/-- A computation on two numbers as floating point numbers. -/
theorem onFloats_regular (g : Float → Float → Value) (l r : Value) :
    Regular (do
      let a ← toFloat l
      let b ← toFloat r
      .ok (g a b)) :=
  (toFloat_regular l).bind fun _ _ => (toFloat_regular r).bind fun _ _ => ok _

theorem arithmetic_regular (op : Arithmetic) (sign : String) (l r : Value) :
    Regular (arithmetic op sign l r) := by
  unfold arithmetic
  split
  · exact (onInts_regular op _ _).map
  · split
    · exact onFloats_regular (fun a b => .float (op.onFloats a b)) l r
    · exact error rfl

theorem addOrJoin_regular (l r : Value) : Regular (addOrJoin l r) := by
  unfold addOrJoin
  split
  case h_9 =>
    split
    · exact error rfl
    · exact arithmetic_regular _ _ l r
  all_goals exact ok _

theorem compareTexts_regular (op : Comparison) (l r : Value) (a b : String) :
    Regular (compareTexts op l r a b) := by
  unfold compareTexts
  split
  · exact error rfl
  · exact ok _

theorem compare_regular (op : Comparison) (l r : Value) : Regular (compare op l r) := by
  unfold compare
  split
  · exact ok _
  · exact ok _
  · exact compareTexts_regular _ _ _ _ _
  · exact compareTexts_regular _ _ _ _ _
  · exact compareTexts_regular _ _ _ _ _
  · exact compareTexts_regular _ _ _ _ _
  · split
    · exact onFloats_regular (fun a b => .boolean (op.outcome a b)) l r
    · exact error rfl

theorem logical_regular (f : Bool → Bool → Bool) (sign : String) (l r : Value) :
    Regular (logical f sign l r) := by
  unfold logical
  split
  · exact ok _
  · exact error rfl

theorem binary_regular (op : BinaryOp) (l r : Value) : Regular (binary op l r) := by
  refine (refuseNull_regular _ _).bind fun _ _ => ?_
  cases op
  case add => exact addOrJoin_regular l r
  case and => exact logical_regular _ _ l r
  case or => exact logical_regular _ _ l r
  all_goals first
    | exact arithmetic_regular _ _ l r
    | exact compare_regular _ l r

theorem negate_regular (v : Value) : Regular (negate v) := by
  refine (refuseNull_regular _ _).bind fun _ _ => ?_
  split
  · exact ok _
  · exact ok _
  · exact error rfl

theorem complement_regular (v : Value) : Regular (complement v) := by
  unfold complement
  split
  · exact ok _
  · exact error rfl

/-- An operator with as many operands as it has does not miss any. -/
theorem operator_regular (op : Operator) {args : List Value} (h : args.length = op.arity) :
    Regular (operator op args) := by
  cases op with
  | neg =>
    obtain ⟨v, rfl⟩ := List.length_eq_one_iff.mp h
    exact negate_regular v
  | not =>
    obtain ⟨v, rfl⟩ := List.length_eq_one_iff.mp h
    exact complement_regular v
  | str =>
    obtain ⟨v, rfl⟩ := List.length_eq_one_iff.mp h
    exact ok _
  | binary op =>
    match args, h with
    | [l, r], _ => exact binary_regular op l r

/-! ## Functions -/

theorem coerce_string {v w : Value} (h : v.coerce .string = .ok w) : ∃ s, w = .string s := by
  cases v with
  | null => cases h
  | boolean b => exact ⟨_, (Except.ok.inj h).symm⟩
  | int n => exact ⟨_, (Except.ok.inj h).symm⟩
  | float x => exact ⟨_, (Except.ok.inj h).symm⟩
  | string s => exact ⟨_, (Except.ok.inj h).symm⟩
  | file s => exact ⟨_, (Except.ok.inj h).symm⟩

theorem coerce_float {v w : Value} (h : v.coerce .float = .ok w) : ∃ x, w = .float x := by
  cases v with
  | null => cases h
  | boolean b => cases h
  | int n =>
    change Value.floatOfInt n = .ok w at h
    unfold Value.floatOfInt at h
    split at h
    · exact ⟨_, (Except.ok.inj h).symm⟩
    · cases h
  | float x => exact ⟨_, (Except.ok.inj h).symm⟩
  | string s => cases h
  | file s => cases h

/-- One step of the coercion of arguments. -/
theorem coerceArguments_cons {name : String} {i : Nat} {v : Value} {vs ws : List Value} {t : Ty}
    {ts : List Ty} (h : coerceArguments name i (v :: vs) (t :: ts) = .ok ws) :
    ∃ w us, v.coerce t = .ok w ∧ coerceArguments name (i + 1) vs ts = .ok us ∧ ws = w :: us := by
  unfold coerceArguments at h
  cases hv : v.coerce t with
  | error f =>
    rw [hv] at h
    cases f <;> cases h
  | ok w =>
    rw [hv] at h
    cases hvs : coerceArguments name (i + 1) vs ts with
    | error f =>
      rw [hvs] at h
      cases h
    | ok us =>
      rw [hvs] at h
      exact ⟨w, us, rfl, rfl, (Except.ok.inj h).symm⟩

theorem coerceArguments_nil {name : String} {i : Nat} {ws : List Value} {ts : List Ty}
    (h : coerceArguments name i [] ts = .ok ws) : ws = [] := by
  unfold coerceArguments at h
  exact (Except.ok.inj h).symm

/-- The argument of a function of one floating point number. -/
theorem coerceArguments_float {name : String} {args ws : List Value} (hlen : args.length = 1)
    (h : coerceArguments name 1 args [.float] = .ok ws) : ∃ x, ws = [.float x] := by
  obtain ⟨v, rfl⟩ := List.length_eq_one_iff.mp hlen
  obtain ⟨w, us, hw, hus, rfl⟩ := coerceArguments_cons h
  obtain ⟨x, rfl⟩ := coerce_float hw
  rw [coerceArguments_nil hus]
  exact ⟨x, rfl⟩

theorem coerceArguments_regular (name : String) (i : Nat) (vs : List Value) (ts : List Ty) :
    Regular (coerceArguments name i vs ts) := by
  induction vs generalizing i ts with
  | nil => exact ok _
  | cons v vs ih =>
    cases ts with
    | nil => exact ok _
    | cons t ts =>
      have hrest (w : Value) :
          Regular (coerceArguments name (i + 1) vs ts >>= fun ws => .ok (w :: ws)) :=
        (ih (i + 1) ts).bind fun _ _ => ok _
      unfold coerceArguments
      dsimp only
      split
      · exact error rfl
      · exact (v.coerce_regular t).bind fun w _ => hrest w

theorem floorOf_regular (x : Float) : Regular (floorOf x) := by
  unfold floorOf
  split
  · exact ok _
  · exact error rfl
  · exact error rfl

theorem substitute_regular (text pattern replacement : String) :
    Regular (Static.sub.compute [.string text, .string pattern, .string replacement]) := by
  unfold Static.compute
  dsimp only
  split
  · exact ok _
  · exact error rfl
  · exact error rfl
  · exact error rfl
  · exact error rfl

/-- A function has a value for as many coerced arguments as it takes, or fails in its own way. -/
theorem compute_regular (s : Static) {args ws : List Value}
    (hmax : args.length ≤ s.argumentTypes.length) (hmin : s.leastArguments ≤ args.length)
    (h : coerceArguments s.name 1 args s.argumentTypes = .ok ws) : Regular (s.compute ws) := by
  cases s with
  | floor =>
    obtain ⟨x, rfl⟩ := coerceArguments_float (Nat.le_antisymm hmax hmin) h
    exact (floorOf_regular x).map
  | ceil =>
    obtain ⟨x, rfl⟩ := coerceArguments_float (Nat.le_antisymm hmax hmin) h
    exact (floorOf_regular (-x)).map
  | round =>
    obtain ⟨x, rfl⟩ := coerceArguments_float (Nat.le_antisymm hmax hmin) h
    exact (floorOf_regular (x + 0.5)).map
  | sub =>
    match args, Nat.le_antisymm hmax hmin with
    | [u, v, w], _ =>
      obtain ⟨a, _, ha, h₁, rfl⟩ := coerceArguments_cons h
      obtain ⟨b, _, hb, h₂, rfl⟩ := coerceArguments_cons h₁
      obtain ⟨c, _, hc, h₃, rfl⟩ := coerceArguments_cons h₂
      obtain ⟨text, rfl⟩ := coerce_string ha
      obtain ⟨pattern, rfl⟩ := coerce_string hb
      obtain ⟨replacement, rfl⟩ := coerce_string hc
      rw [coerceArguments_nil h₃]
      exact substitute_regular text pattern replacement
  | basename =>
    match args, hmin with
    | u :: us, _ =>
      obtain ⟨a, ws, ha, -, rfl⟩ := coerceArguments_cons h
      obtain ⟨path, rfl⟩ := coerce_string ha
      unfold Static.compute
      split <;> first | exact ok _ | simp_all
  | defined =>
    match args, Nat.le_antisymm hmax hmin with
    | [v], _ =>
      obtain ⟨w, _, -, h₁, rfl⟩ := coerceArguments_cons h
      rw [coerceArguments_nil h₁]
      cases w <;> exact ok _

theorem static_regular (s : Static) (args : List Value) : Regular (s.call args) := by
  unfold Static.call
  dsimp only
  split
  · exact error rfl
  · next hcount =>
    rw [Bool.or_eq_true, not_or, decide_eq_true_eq, decide_eq_true_eq] at hcount
    refine (coerceArguments_regular _ _ _ _).bind fun ws hws => ?_
    exact compute_regular s (Nat.le_of_not_lt hcount.1) (Nat.le_of_not_lt hcount.2) hws

theorem extreme_regular (greatest : Bool) (args : List Value) :
    Regular (extreme greatest args) := by
  unfold extreme
  dsimp only
  split
  · exact ok _
  · split
    · exact onFloats_regular
        (fun a b => .float (if greatest then pick (· > ·) a b else pick (· < ·) a b)) _ _
    · exact error rfl
  · exact error rfl

theorem choose_regular (args : List Value) : Regular (choose args) := by
  unfold choose
  split
  · split
    · exact Value.floatOfInt_regular _
    · exact ok _
  · exact error rfl
  · exact error rfl

/-- No function fails for its arguments not being well formed. -/
theorem call_regular (function : Function) (args : List Value) : Regular (function.call args) := by
  cases function with
  | static s => exact static_regular s args
  | least => exact extreme_regular false args
  | greatest => exact extreme_regular true args
  | ifThenElse => exact choose_regular args
  | compound what => exact error rfl

end Library
end Wdl
