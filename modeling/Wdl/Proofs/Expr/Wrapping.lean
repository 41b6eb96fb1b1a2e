import Mathlib.Data.Int.ModEq
import Mathlib.Data.Rat.Floor
import Wdl.Expr.Eval
import Wdl.Proofs.Library.Range

/-!
Integer arithmetic.

The sum, the difference, the product and the negative of integers are exact modulo `2 ^ 64`, of
whatever size the operands are, so that intermediate results may be wrapped at will.  The quotient
and the remainder of two integers of 64 bits are exact, but for the one quotient that does not fit;
even with this one the dividend is restored from the quotient and the remainder.
-/

namespace Wdl

open Library

/-- The integer of 64 bits that stands for an integer. -/
structure Wraps (n x : Int) : Prop where
  fits : (Value.int n).Fits
  congruent : n ≡ x [ZMOD 2 ^ 64]

namespace Wraps

variable {m n x y : Int}

/-- There is only one such integer. -/
theorem unique (hm : Wraps m x) (hn : Wraps n y) (h : x ≡ y [ZMOD 2 ^ 64]) : m = n := by
  have hmod : m % 2 ^ 64 = n % 2 ^ 64 := (hm.congruent.trans h).trans hn.congruent.symm
  have hm' := hm.fits
  have hn' := hn.fits
  unfold Value.Fits at hm' hn'
  omega

theorem of_fits (h : (Value.int n).Fits) : Wraps n n := ⟨h, rfl⟩

end Wraps

theorem wraps_wrap (x : Int) : Wraps (wrap x) x where
  fits := wrap_fits x
  congruent := by
    unfold wrap Int.ModEq
    omega

theorem wrap_eq {n x : Int} (hn : (Value.int n).Fits) (h : x ≡ n [ZMOD 2 ^ 64]) : wrap x = n :=
  (wraps_wrap x).unique (.of_fits hn) h

/-! ## Quotients -/

/-- A number without its fraction. -/
def truncate (x : ℚ) : Int :=
  if 0 ≤ x then ⌊x⌋ else ⌈x⌉

theorem truncate_neg (x : ℚ) : truncate (-x) = -truncate x := by
  rcases lt_trichotomy x 0 with h | rfl | h
  · rw [truncate, truncate, if_pos (neg_nonneg.mpr h.le), if_neg (not_le.mpr h), Int.floor_neg]
  · rfl
  · rw [truncate, truncate, if_neg (not_le.mpr (neg_neg_of_pos h)), if_pos h.le, Int.ceil_neg]

theorem truncate_div (a b : Nat) : truncate ((a : Int) / (b : Int)) = (a : Int).tdiv b := by
  have hfloor : ⌊((a : Int) : ℚ) / (b : ℚ)⌋ = (a : Int) / (b : Int) :=
    Rat.floor_intCast_div_natCast a b
  have hnonneg : (0 : ℚ) ≤ ((a : Int) : ℚ) / ((b : Int) : ℚ) := by positivity
  rw [truncate, if_pos hnonneg, Int.cast_natCast b, hfloor]
  exact (Int.tdiv_eq_ediv_of_nonneg (Int.natCast_nonneg a)).symm

theorem tdiv_eq_truncate (l r : Int) : l.tdiv r = truncate (l / r) := by
  obtain ⟨a, rfl | rfl⟩ := l.eq_nat_or_neg
  · obtain ⟨b, rfl | rfl⟩ := r.eq_nat_or_neg
    · exact (truncate_div a b).symm
    · rw [Int.tdiv_neg, Int.cast_neg, div_neg, truncate_neg, truncate_div]
  · obtain ⟨b, rfl | rfl⟩ := r.eq_nat_or_neg
    · rw [Int.neg_tdiv, Int.cast_neg, neg_div, truncate_neg, truncate_div]
    · rw [Int.neg_tdiv, Int.tdiv_neg, neg_neg, Int.cast_neg, Int.cast_neg, neg_div_neg_eq,
        truncate_div]

/-- The quotient of two integers of 64 bits has more in one case only. -/
theorem tdiv_fits_iff {l r : Int} (hl : (Value.int l).Fits) :
    (Value.int (l.tdiv r)).Fits ↔ ¬(l = -2 ^ 63 ∧ r = -1) := by
  constructor
  · rintro hfits ⟨rfl, rfl⟩
    exact absurd hfits.2 (by decide)
  · intro hcase
    have habs : (l.tdiv r).natAbs = l.natAbs / r.natAbs := Int.natAbs_tdiv l r
    have hle : l.natAbs / r.natAbs ≤ l.natAbs := Nat.div_le_self _ _
    unfold Value.Fits at hl ⊢
    by_cases hleast : l = -2 ^ 63
    · rcases eq_or_ne r 1 with rfl | hone
      · rwa [Int.tdiv_one]
      · rcases Nat.eq_zero_or_pos r.natAbs with hzero | hpos
        · rw [hzero, Nat.div_zero] at habs
          omega
        · have htwo : 2 ≤ r.natAbs := by omega
          have hhalf : l.natAbs / r.natAbs ≤ l.natAbs / 2 := Nat.div_le_div_left htwo Nat.two_pos
          omega
    · omega

/-- A remainder is exact, smaller than the divisor, and has the sign of the dividend. -/
theorem tmod_spec (l : Int) {r : Int} (hr : r ≠ 0) :
    (l.tmod r = 0 ∨ (l.tmod r).sign = l.sign) ∧ |l.tmod r| < |r| := by
  constructor
  · rw [Int.sign_tmod]
    by_cases h : r ∣ l
    · exact .inl (Int.tmod_eq_zero_of_dvd h)
    · exact .inr (if_neg h)
  · rw [Int.abs_eq_natAbs, Int.abs_eq_natAbs, Int.natAbs_tmod]
    exact_mod_cast Nat.mod_lt _ (Int.natAbs_pos.mpr hr)

theorem tmod_fits {l r : Int} (hr : (Value.int r).Fits) (hr0 : r ≠ 0) :
    (Value.int (l.tmod r)).Fits := by
  have hlt := (tmod_spec l hr0).2
  unfold Value.Fits at hr ⊢
  rw [abs_lt] at hlt
  rcases abs_cases r with ⟨h, -⟩ | ⟨h, -⟩ <;> omega

/-! ## Operators -/

/-- An operator gives the integer of 64 bits that stands for an exact result. -/
def GivesWrapped (op : Operator) (args : List Value) (exact : Int) : Prop :=
  ∃ n, operator op args = .ok (.int n) ∧ Wraps n exact

theorem givesWrapped_of_wrap {op : Operator} {args : List Value} {exact : Int}
    (h : operator op args = .ok (.int (wrap exact))) : GivesWrapped op args exact :=
  ⟨wrap exact, h, wraps_wrap exact⟩

/-- Operands that are congruent give the same. -/
theorem GivesWrapped.congr {op : Operator} {args args' : List Value} {x y : Int}
    (h : GivesWrapped op args x) (h' : GivesWrapped op args' y) (hxy : x ≡ y [ZMOD 2 ^ 64]) :
    operator op args = operator op args' := by
  obtain ⟨m, hm, hwraps⟩ := h
  obtain ⟨n, hn, hwraps'⟩ := h'
  rw [hm, hn, hwraps.unique hwraps' hxy]

theorem add_wraps (l r : Int) : GivesWrapped (.binary .add) [.int l, .int r] (l + r) :=
  givesWrapped_of_wrap rfl

theorem sub_wraps (l r : Int) : GivesWrapped (.binary .sub) [.int l, .int r] (l - r) :=
  givesWrapped_of_wrap rfl

theorem mul_wraps (l r : Int) : GivesWrapped (.binary .mul) [.int l, .int r] (l * r) :=
  givesWrapped_of_wrap rfl

theorem neg_wraps (n : Int) : GivesWrapped .neg [.int n] (-n) :=
  givesWrapped_of_wrap rfl

section Division

variable {l r : Int} (hr : (Value.int r).Fits) (hr0 : r ≠ 0)
include hr0

theorem operator_div :
    operator (.binary .div) [.int l, .int r] = .ok (.int (wrap (l.tdiv r))) := by
  have hdiv : Arithmetic.div.onInts l r = .ok (l.tdiv r) := if_neg (mt beq_iff_eq.mp hr0)
  show (Arithmetic.div.onInts l r).map _ = _
  rw [hdiv]
  rfl

include hr in
theorem operator_mod : operator (.binary .mod) [.int l, .int r] = .ok (.int (l.tmod r)) := by
  have hmod : Arithmetic.mod.onInts l r = .ok (l.tmod r) := by
    rw [Int.tmod_def]
    exact if_neg (mt beq_iff_eq.mp hr0)
  show (Arithmetic.mod.onInts l r).map _ = _
  rw [hmod]
  exact congrArg (fun n => Except.ok (Value.int n)) (wrap_eq (tmod_fits hr hr0) rfl)

end Division

/-! ## Runs -/

section Runs

variable {lookup : Lookup} {site : Option Site} {is : List Item} {stack : List Value}

theorem runAll_name {n : String} {v : Value} (h : lookup site n = .ok v) :
    Item.runAll lookup site (.name n :: is) stack = Item.runAll lookup site is (v :: stack) := by
  rw [Item.runAll, Item.run, h]
  rfl

theorem runAll_binary {op : BinaryOp} {l r v : Value}
    (h : operator (.binary op) [l, r] = .ok v) :
    Item.runAll lookup site (.operator (.binary op) :: is) (r :: l :: stack) =
      Item.runAll lookup site is (v :: stack) := by
  have htake : takeOperands site (Operator.binary op).name (Operator.binary op).arity
      (r :: l :: stack) = .ok ([l, r], stack) := rfl
  rw [Item.runAll, Item.run, htake]
  dsimp only [Bind.bind, Except.bind]
  rw [h]
  rfl

end Runs

/-- The items of `l / r * r + l % r`. -/
def dividendItems : List Item :=
  [.name "l", .name "r", .operator (.binary .div), .name "r", .operator (.binary .mul),
    .name "l", .name "r", .operator (.binary .mod), .operator (.binary .add)]

theorem evaluate_dividendItems {l r : Int} (hl : (Value.int l).Fits) (hr : (Value.int r).Fits)
    (hr0 : r ≠ 0) :
    Item.evaluate (.ofBindings [] [("l", .int l), ("r", .int r)]) dividendItems =
      .ok (.int l) := by
  have hproduct : wrap (wrap (l.tdiv r) * r) ≡ l.tdiv r * r [ZMOD 2 ^ 64] :=
    (wraps_wrap _).congruent.trans ((wraps_wrap _).congruent.mul_right r)
  have hsum : wrap (wrap (l.tdiv r) * r) + l.tmod r ≡ l [ZMOD 2 ^ 64] := by
    have h := hproduct.add_right (l.tmod r)
    rwa [mul_comm (l.tdiv r), Int.mul_tdiv_add_tmod] at h
  have hadd : operator (.binary .add) [.int (wrap (wrap (l.tdiv r) * r)), .int (l.tmod r)] =
      .ok (.int l) := congrArg (fun n => Except.ok (Value.int n)) (wrap_eq hl hsum)
  unfold Item.evaluate dividendItems
  rw [runAll_name rfl, runAll_name rfl, runAll_binary (operator_div hr0), runAll_name rfl,
    runAll_binary rfl, runAll_name rfl, runAll_name rfl, runAll_binary (operator_mod hr hr0),
    runAll_binary hadd]
  rfl

/-! ## Two integers -/

/-- What addition and its kin do with two integers of any size. -/
structure WrapsExactly (l r : Int) : Prop where
  add : GivesWrapped (.binary .add) [.int l, .int r] (l + r)
  sub : GivesWrapped (.binary .sub) [.int l, .int r] (l - r)
  mul : GivesWrapped (.binary .mul) [.int l, .int r] (l * r)
  neg : GivesWrapped .neg [.int l] (-l)
  congr : ∀ l' r', l ≡ l' [ZMOD 2 ^ 64] → r ≡ r' [ZMOD 2 ^ 64] →
    (∀ op ∈ [BinaryOp.add, .sub, .mul],
      operator (.binary op) [.int l, .int r] = operator (.binary op) [.int l', .int r']) ∧
    operator .neg [.int l] = operator .neg [.int l']

/-- What division does with two integers of 64 bits. -/
structure DividesExactly (l r : Int) : Prop where
  quotient : ∃ q, operator (.binary .div) [.int l, .int r] = .ok (.int q) ∧
    Wraps q (truncate (l / r)) ∧ (q ≠ truncate (l / r) ↔ l = -2 ^ 63 ∧ r = -1)
  remainder : ∃ m, operator (.binary .mod) [.int l, .int r] = .ok (.int m) ∧
    m = l - r * truncate (l / r) ∧ (m = 0 ∨ m.sign = l.sign) ∧ |m| < |r|
  restored : Item.evaluate (.ofBindings [] [("l", .int l), ("r", .int r)]) dividendItems =
    .ok (.int l)

theorem wrapsExactly (l r : Int) : WrapsExactly l r where
  add := add_wraps l r
  sub := sub_wraps l r
  mul := mul_wraps l r
  neg := neg_wraps l
  congr l' r' hl hr := by
    refine ⟨fun op hop => ?_, (neg_wraps l).congr (neg_wraps l') hl.neg⟩
    simp only [List.mem_cons, List.not_mem_nil, or_false] at hop
    obtain rfl | rfl | rfl := hop
    · exact (add_wraps l r).congr (add_wraps l' r') (hl.add hr)
    · exact (sub_wraps l r).congr (sub_wraps l' r') (hl.sub hr)
    · exact (mul_wraps l r).congr (mul_wraps l' r') (hl.mul hr)

theorem dividesExactly {l r : Int} (hl : (Value.int l).Fits) (hr : (Value.int r).Fits)
    (hr0 : r ≠ 0) : DividesExactly l r where
  quotient := by
    refine ⟨_, operator_div hr0, ?_, ?_⟩
    · rw [← tdiv_eq_truncate]
      exact wraps_wrap _
    · rw [← tdiv_eq_truncate, ← not_iff_not, not_not, ← tdiv_fits_iff hl]
      constructor
      · intro h
        exact h ▸ wrap_fits _
      · intro h
        exact wrap_eq h rfl
  remainder := by
    refine ⟨_, operator_mod hr hr0, ?_, tmod_spec l hr0⟩
    rw [← tdiv_eq_truncate, Int.tmod_def]
  restored := evaluate_dividendItems hl hr hr0

/-- Integer arithmetic is exact modulo `2 ^ 64`, and division of integers of 64 bits is exact where
the quotient has no more than these. -/
theorem integers_exact (l r : Int) :
    WrapsExactly l r ∧
      ((Value.int l).Fits → (Value.int r).Fits → r ≠ 0 → DividesExactly l r) :=
  ⟨wrapsExactly l r, dividesExactly⟩

theorem integers_exact_least : DividesExactly (-2 ^ 63) (-1) :=
  (integers_exact (-2 ^ 63) (-1)).2 ⟨by decide, by decide⟩ ⟨by decide, by decide⟩ (by decide)

end Wdl
