import Mathlib.Algebra.GroupWithZero.Nat
import Wdl.Proofs.Library.Failures

/-!
The table of operators.

Which operands an operator takes, and the type of what it gives, are matters of types alone:
`Operator.result?` is the table.  `Operator.Gives` lists the values row by row.  Numbers are
promoted, that is, computed with as floating point numbers as soon as one of them is one; `+` also
joins texts, of which one may be written from a number, and paths; Booleans are compared by their
texts, and paths only for equality.  `operator_table` says that the operators follow the table, and
how they fail where it has a row: by a division of integers by zero, or because an integer is too
large to be promoted.
-/

namespace Wdl

/-! ## Types -/

namespace Base

/-- The type in which two numbers are computed with. -/
def promoted? : Base → Base → Option Base
  | .int, .int => some .int
  | .int, .float => some .float
  | .float, .int => some .float
  | .float, .float => some .float
  | _, _ => none

/-- The type of a sum, or of two texts joined. -/
def joined? : Base → Base → Option Base
  | .string, .string => some .string
  | .string, .int => some .string
  | .string, .float => some .string
  | .int, .string => some .string
  | .float, .string => some .string
  | .string, .file => some .file
  | .file, .string => some .file
  | .file, .file => some .file
  | l, r => l.promoted? r

/-- Whether values of two types have an order. -/
def ordered : Base → Base → Bool
  | .boolean, .boolean => true
  | .string, .string => true
  | l, r => (l.promoted? r).isSome

/-- Whether values of two types can be equal. -/
def equated : Base → Base → Bool
  | .string, .file => true
  | .file, .string => true
  | .file, .file => true
  | l, r => l.ordered r

end Base

/-- The type that an operator gives for operands of two types, if it takes them. -/
def BinaryOp.result? (op : BinaryOp) (l r : Base) : Option Base :=
  match op with
  | .add => l.joined? r
  | .sub => l.promoted? r
  | .mul => l.promoted? r
  | .div => l.promoted? r
  | .mod => l.promoted? r
  | .eq => if l.equated r then some .boolean else none
  | .neq => if l.equated r then some .boolean else none
  | .lt => if l.ordered r then some .boolean else none
  | .lte => if l.ordered r then some .boolean else none
  | .gt => if l.ordered r then some .boolean else none
  | .gte => if l.ordered r then some .boolean else none
  | .and => if l = .boolean ∧ r = .boolean then some .boolean else none
  | .or => if l = .boolean ∧ r = .boolean then some .boolean else none

/-- The type that an operator gives for operands of some types, if it takes them. -/
def Operator.result? : Operator → List Base → Option Base
  | .neg, [.int] => some .int
  | .neg, [.float] => some .float
  | .not, [.boolean] => some .boolean
  | .str, [_] => some .string
  | .binary op, [l, r] => op.result? l r
  | _, _ => none

/-- The row of the table for some operands. -/
def Operator.row? (op : Operator) (args : List Value) : Option Base :=
  op.result? (args.map fun v => v.type.base)

/-! ## Values -/

namespace BinaryOp

/-- The arithmetic that an operator does on numbers. -/
def arithmetic? : BinaryOp → Option Library.Arithmetic
  | .add => some .add
  | .sub => some .sub
  | .mul => some .mul
  | .div => some .div
  | .mod => some .mod
  | _ => none

def comparison? : BinaryOp → Option Library.Comparison
  | .eq => some .eq
  | .neq => some .neq
  | .lt => some .lt
  | .lte => some .lte
  | .gt => some .gt
  | .gte => some .gte
  | _ => none

end BinaryOp

open Library

/-- The content of a string or a file. -/
def Value.path? : Value → Option String
  | .string s => some s
  | .file s => some s
  | _ => none

/-- What a binary operator gives. -/
inductive BinaryOp.Gives : BinaryOp → Value → Value → Value → Prop
  | ints {op : BinaryOp} {a : Arithmetic} {l r n : Int} (hop : op.arithmetic? = some a)
      (h : a.onInts l r = .ok n) : Gives op (.int l) (.int r) (.int (wrap n))
  | floats {op : BinaryOp} {a : Arithmetic} {l r : Value} {x y : Float}
      (hop : op.arithmetic? = some a) (htypes : l.type.base.promoted? r.type.base = some .float)
      (hl : toFloat l = .ok x) (hr : toFloat r = .ok y) : Gives op l r (.float (a.onFloats x y))
  | strings (a b : String) : Gives .add (.string a) (.string b) (.string (a ++ b))
  | numberLast (a : String) {r : Value} (h : isNumeric r = true) :
      Gives .add (.string a) r (.string (a ++ r.text))
  | numberFirst {l : Value} (h : isNumeric l = true) (b : String) :
      Gives .add l (.string b) (.string (l.text ++ b))
  | paths {l r : Value} {a b : String} (hfile : l.type = .file ∨ r.type = .file)
      (hl : l.path? = some a) (hr : r.path? = some b) : Gives .add l r (.file (a ++ b))
  | compareBooleans {op : BinaryOp} {c : Comparison} (hop : op.comparison? = some c) (a b : Bool) :
      Gives op (.boolean a) (.boolean b)
        (.boolean (c.outcome (Value.boolean a).text (Value.boolean b).text))
  | compareInts {op : BinaryOp} {c : Comparison} (hop : op.comparison? = some c) (a b : Int) :
      Gives op (.int a) (.int b) (.boolean (c.outcome a b))
  | compareFloats {op : BinaryOp} {c : Comparison} {l r : Value} {x y : Float}
      (hop : op.comparison? = some c) (htypes : l.type.base.promoted? r.type.base = some .float)
      (hl : toFloat l = .ok x) (hr : toFloat r = .ok y) : Gives op l r (.boolean (c.outcome x y))
  | compareStrings {op : BinaryOp} {c : Comparison} (hop : op.comparison? = some c)
      (a b : String) : Gives op (.string a) (.string b) (.boolean (c.outcome a b))
  | comparePaths {op : BinaryOp} {c : Comparison} {l r : Value} {a b : String}
      (hop : op.comparison? = some c) (hequality : c.isEquality = true)
      (hl : l.path? = some a) (hr : r.path? = some b) : Gives op l r (.boolean (c.outcome a b))
  | both (a b : Bool) : Gives .and (.boolean a) (.boolean b) (.boolean (a && b))
  | either (a b : Bool) : Gives .or (.boolean a) (.boolean b) (.boolean (a || b))

/-- What an operator gives. -/
inductive Operator.Gives : Operator → List Value → Value → Prop
  | negatedInt (n : Int) : Gives .neg [.int n] (.int (wrap (-n)))
  | negatedFloat (x : Float) : Gives .neg [.float x] (.float (-x))
  | opposite (b : Bool) : Gives .not [.boolean b] (.boolean !b)
  | text (v : Value) : Gives .str [v] (.string v.text)
  | binary {op : BinaryOp} {l r v : Value} (h : op.Gives l r v) : Gives (.binary op) [l, r] v

/-! ## Integers that can be promoted -/

namespace Binary64

theorem roundDiv_le (num den : Nat) : roundDiv num den ≤ num / den + 1 := by
  unfold roundDiv
  dsimp only
  split
  · exact Nat.le_refl _
  · exact Nat.le_succ _

theorem log2Ratio_one {n : Nat} (h : n ≠ 0) : log2Ratio n 1 = n.log2 := by
  have hlog : (1 : Nat).log2 = 0 := rfl
  have hle : ¬ n < 2 ^ n.log2 := Nat.not_lt.mpr (Nat.log2_self_le h)
  simp [log2Ratio, hlog, hle]

/-- A number whose binary logarithm is `k` is nearest to one with a significand of 53 bits. -/
theorem nearestMagnitude_le {n k : Nat} (hn : n ≠ 0) (hk : n.log2 = k) :
    nearestMagnitude n 1 ≤ (k + 1024) * 2 ^ 52 := by
  have hlt : n < 2 ^ (k + 1) := hk ▸ Nat.lt_log2_self
  have he : max (log2Ratio n 1 - 52) (-1074) = (k : Int) - 52 := by
    rw [log2Ratio_one hn, hk]
    omega
  have hq : (if 0 ≤ (k : Int) - 52 then roundDiv n (1 * Nat.pow 2 ((k : Int) - 52).toNat)
      else roundDiv (n * Nat.pow 2 (-((k : Int) - 52)).toNat) 1) ≤ 2 ^ 53 := by
    split
    · have hpow : 2 ^ (k + 1) = 2 ^ ((k : Int) - 52).toNat * 2 ^ 53 := by
        rw [← Nat.pow_add]
        congr 1
        omega
      rw [Nat.one_mul]
      exact Nat.le_trans (roundDiv_le _ _) (Nat.div_lt_of_lt_mul (hpow ▸ hlt))
    · have hpow : 2 ^ 53 = 2 ^ (k + 1) * 2 ^ (-((k : Int) - 52)).toNat := by
        rw [← Nat.pow_add]
        congr 1
        omega
      refine Nat.le_trans (roundDiv_le _ _) ?_
      rw [Nat.div_one, hpow]
      exact Nat.mul_lt_mul_of_pos_right hlt (Nat.two_pow_pos _)
  have hshift : ((k : Int) - 52 + 1074).toNat = k + 1022 := by omega
  unfold nearestMagnitude
  rw [if_neg (by simp [hn])]
  dsimp only
  rw [he, hshift]
  refine Nat.le_trans (Nat.min_le_left _ _) (Nat.le_trans (Nat.add_le_add_right hq _) ?_)
  change 2 ^ 53 + (k + 1022) * 2 ^ 52 ≤ (k + 1024) * 2 ^ 52
  omega

/-- An integer of at most 1023 bits has a floating point number. -/
theorem ofInt?_isSome {n : Int} (h : n.natAbs < 2 ^ 1023) : (ofInt? n).isSome = true := by
  have hmagnitude : nearestMagnitude n.natAbs 1 < 2047 * Nat.pow 2 52 := by
    by_cases hn : n.natAbs = 0
    · rw [hn]
      decide
    · refine Nat.lt_of_le_of_lt (nearestMagnitude_le hn rfl) ?_
      have hlog : ∀ k, n.natAbs < 2 ^ k → n.natAbs.log2 < k := fun _ => (Nat.log2_lt hn).mpr
      exact Nat.mul_lt_mul_of_pos_right (Nat.add_lt_add_right (hlog 1023 h) 1024) (by decide)
  unfold ofInt?
  dsimp only
  rw [if_pos hmagnitude]
  rfl

end Binary64

theorem Library.large_of_toFloat {v : Value} (h : toFloat v = .error .overflow) :
    ∃ n, v = .int n ∧ 2 ^ 1023 ≤ n.natAbs := by
  cases v <;> try cases h
  case int n =>
    refine ⟨n, rfl, Nat.le_of_not_lt fun hlt => ?_⟩
    obtain ⟨x, hx⟩ := Option.isSome_iff_exists.mp (Binary64.ofInt?_isSome hlt)
    rw [toFloat, hx] at h
    cases h

/-! ## Failures -/

/-- A division of an integer by the integer zero. -/
def Operator.DividesByZero (op : Operator) (args : List Value) : Prop :=
  (op = .binary .div ∨ op = .binary .mod) ∧ ∃ n, args = [.int n, .int 0]

/-- An integer that has to be promoted, but is larger than all floating point numbers. -/
def BinaryOp.Overflows (op : BinaryOp) (l r : Value) : Prop :=
  (op.arithmetic?.isSome ∨ op.comparison?.isSome) ∧
    l.type.base.promoted? r.type.base = some .float ∧
    (toFloat l = .error .overflow ∨ toFloat r = .error .overflow)

def Operator.Overflows : Operator → List Value → Prop
  | .binary op, [l, r] => op.Overflows l r
  | _, _ => False

/-- An outcome that follows a row of the table, which says the type of the values. -/
inductive Operator.Follows (op : Operator) (args : List Value) :
    Option Base → Except Failure Value → Prop
  | value {b : Base} {v : Value} (h : op.Gives args v) (htype : v.type = ⟨b, false⟩) :
      Follows op args (some b) (.ok v)
  | mismatch (m : String) : Follows op args none (.error (.incompatible m))
  | division {b : Base} (m : String) (h : op.DividesByZero args) :
      Follows op args (some b) (.error (.arithmetic m))
  | overflow {b : Base} (h : op.Overflows args) : Follows op args (some b) (.error .overflow)

/-- An outcome of a binary operator that follows a row of the table. -/
abbrev BinaryOp.Follows (op : BinaryOp) (l r : Value) (row : Option Base)
    (x : Except Failure Value) : Prop :=
  (Operator.binary op).Follows [l, r] row x

theorem BinaryOp.Gives.follows {op : BinaryOp} {l r v : Value} {b : Base} (h : op.Gives l r v)
    (htype : v.type = ⟨b, false⟩) : op.Follows l r (some b) (.ok v) :=
  .value (.binary h) htype

namespace Library

theorem onInts_cases (a : Arithmetic) (l r : Int) :
    (∃ n, a.onInts l r = .ok n) ∨
      ((a = .div ∨ a = .mod) ∧ r = 0 ∧ ∃ m, a.onInts l r = .error (.arithmetic m)) := by
  cases a
  case add | sub | mul => exact .inl ⟨_, rfl⟩
  case div | mod =>
    by_cases hr : r = 0
    · exact .inr ⟨by simp, hr, _, if_pos (beq_iff_eq.mpr hr)⟩
    · exact .inl ⟨_, if_neg (mt beq_iff_eq.mp hr)⟩

theorem onInts_follows {op : BinaryOp} {a : Arithmetic} (hop : op.arithmetic? = some a)
    (l r : Int) : op.Follows (.int l) (.int r) (some .int)
      ((a.onInts l r).map fun n => .int (wrap n)) := by
  obtain ⟨n, h⟩ | ⟨hdiv, rfl, m, h⟩ := onInts_cases a l r
  · rw [h]
    exact (BinaryOp.Gives.ints hop h).follows rfl
  · rw [h]
    refine .division m ⟨?_, l, rfl⟩
    cases op <;> cases hop <;> simp at hdiv ⊢

theorem promoted?_of_isNumeric {l r : Value} (h : (isNumeric l && isNumeric r) = true)
    (hints : ∀ a b, l = .int a → r = .int b → False) :
    l.type.base.promoted? r.type.base = some .float := by
  cases l <;> cases r <;> first | rfl | exact (hints _ _ rfl rfl).elim | cases h

theorem promoted?_of_not_isNumeric {l r : Value} (h : ¬(isNumeric l && isNumeric r) = true) :
    l.type.base.promoted? r.type.base = none := by
  cases l <;> cases r <;> first | rfl | exact absurd rfl h

theorem toFloat_cases {v : Value} (h : isNumeric v = true) :
    (∃ x, toFloat v = .ok x) ∨ toFloat v = .error .overflow := by
  cases v <;> try cases h
  case int n =>
    unfold toFloat
    dsimp only
    split
    · exact .inl ⟨_, rfl⟩
    · exact .inr rfl
  case float x => exact .inl ⟨x, rfl⟩

/-- Two numbers that are promoted follow the table if what is computed with them does. -/
theorem promoted_follows {op : BinaryOp} {l r : Value} {b : Base}
    (hop : op.arithmetic?.isSome ∨ op.comparison?.isSome)
    (hnumeric : (isNumeric l && isNumeric r) = true)
    (htypes : l.type.base.promoted? r.type.base = some .float) (g : Float → Float → Value)
    (hg : ∀ x y, toFloat l = .ok x → toFloat r = .ok y →
      op.Gives l r (g x y) ∧ (g x y).type = ⟨b, false⟩) :
    op.Follows l r (some b) (do
      let x ← toFloat l
      let y ← toFloat r
      .ok (g x y)) := by
  rw [Bool.and_eq_true] at hnumeric
  rcases toFloat_cases hnumeric.1 with ⟨x, hx⟩ | hx
  · rcases toFloat_cases hnumeric.2 with ⟨y, hy⟩ | hy
    · obtain ⟨hgives, htype⟩ := hg x y hx hy
      rw [hx, hy]
      exact hgives.follows htype
    · have hoverflow : op.Overflows l r := ⟨hop, htypes, .inr hy⟩
      rw [hx, hy]
      exact .overflow hoverflow
  · have hoverflow : op.Overflows l r := ⟨hop, htypes, .inl hx⟩
    rw [hx]
    exact .overflow hoverflow

theorem arithmetic_follows {op : BinaryOp} {a : Arithmetic} (hop : op.arithmetic? = some a)
    (sign : String) (l r : Value) :
    op.Follows l r (l.type.base.promoted? r.type.base) (arithmetic a sign l r) := by
  unfold arithmetic
  split
  · exact onInts_follows hop _ _
  · next hints =>
    split
    · next hnumeric =>
      have htypes := promoted?_of_isNumeric hnumeric hints
      rw [htypes]
      exact promoted_follows (.inl (by rw [hop]; rfl)) hnumeric htypes
        (fun x y => .float (a.onFloats x y)) fun x y hx hy => ⟨.floats hop htypes hx hy, rfl⟩
    · next hnumeric =>
      rw [promoted?_of_not_isNumeric hnumeric]
      exact .mismatch _

theorem addOrJoin_follows (l r : Value) :
    BinaryOp.add.Follows l r (l.type.base.joined? r.type.base) (addOrJoin l r) := by
  unfold addOrJoin
  split
  · exact (BinaryOp.Gives.strings _ _).follows rfl
  · exact (BinaryOp.Gives.paths (.inr rfl) rfl rfl).follows rfl
  · exact (BinaryOp.Gives.paths (.inl rfl) rfl rfl).follows rfl
  · exact (BinaryOp.Gives.paths (.inl rfl) rfl rfl).follows rfl
  · exact (BinaryOp.Gives.numberLast _ rfl).follows rfl
  · exact (BinaryOp.Gives.numberLast _ rfl).follows rfl
  · exact (BinaryOp.Gives.numberFirst rfl _).follows rfl
  · exact (BinaryOp.Gives.numberFirst rfl _).follows rfl
  · split
    · next htext =>
      have hnone : l.type.base.joined? r.type.base = none := by
        cases l <;> cases r <;> first | rfl | (cases htext; done) | simp_all
      rw [hnone]
      exact .mismatch _
    · next htext =>
      have hpromoted : l.type.base.joined? r.type.base = l.type.base.promoted? r.type.base := by
        cases l <;> cases r <;> first | rfl | exact absurd rfl htext
      rw [hpromoted]
      exact arithmetic_follows rfl "+" l r

end Library

theorem BinaryOp.result?_of_comparison {op : BinaryOp} {c : Comparison}
    (hop : op.comparison? = some c) (l r : Base) :
    op.result? l r =
      if (if c.isEquality then l.equated r else l.ordered r) then some .boolean else none := by
  cases op <;> cases hop <;> rfl

theorem Base.equated_of_ordered {l r : Base} (h : l.ordered r = true) : l.equated r = true := by
  revert h
  cases l <;> cases r <;> decide

theorem BinaryOp.result?_of_ordered {op : BinaryOp} {c : Comparison}
    (hop : op.comparison? = some c) {l r : Base} (h : l.ordered r = true) :
    op.result? l r = some .boolean := by
  rw [result?_of_comparison hop, h, Base.equated_of_ordered h, ite_self, if_pos rfl]

theorem BinaryOp.result?_of_not_equated {op : BinaryOp} {c : Comparison}
    (hop : op.comparison? = some c) {l r : Base} (h : l.equated r = false) :
    op.result? l r = none := by
  have hordered : l.ordered r = false := by
    rw [← Bool.not_eq_true]
    intro ho
    exact Bool.eq_false_iff.mp h (Base.equated_of_ordered ho)
  rw [result?_of_comparison hop, h, hordered, ite_self, if_neg Bool.false_ne_true]

namespace Library

theorem compareTexts_follows {op : BinaryOp} {c : Comparison} (hop : op.comparison? = some c)
    {l r : Value} {a b : String} (hl : l.path? = some a) (hr : r.path? = some b)
    (hfile : (l.type.base == .file || r.type.base == .file) = true) :
    op.Follows l r (op.result? l.type.base r.type.base) (compareTexts c l r a b) := by
  have htypes :
      l.type.base.equated r.type.base = true ∧ l.type.base.ordered r.type.base = false := by
    cases l <;> cases hl <;> cases r <;> cases hr <;> first | exact ⟨rfl, rfl⟩ | cases hfile
  rw [compareTexts, hfile, Bool.true_and, BinaryOp.result?_of_comparison hop, htypes.1, htypes.2]
  cases hc : c.isEquality with
  | true => exact (BinaryOp.Gives.comparePaths hop hc hl hr).follows rfl
  | false => exact .mismatch _

theorem compare_follows {op : BinaryOp} {c : Comparison} (hop : op.comparison? = some c)
    (l r : Value) : op.Follows l r (op.result? l.type.base r.type.base) (compare c l r) := by
  unfold compare
  split
  · next a b =>
    rw [BinaryOp.result?_of_ordered hop rfl]
    exact (BinaryOp.Gives.compareBooleans hop a b).follows rfl
  · next a b =>
    rw [BinaryOp.result?_of_ordered hop rfl]
    exact (BinaryOp.Gives.compareInts hop a b).follows rfl
  · next a b =>
    rw [BinaryOp.result?_of_ordered hop rfl]
    exact (BinaryOp.Gives.compareStrings hop a b).follows rfl
  · exact compareTexts_follows hop rfl rfl rfl
  · exact compareTexts_follows hop rfl rfl rfl
  · exact compareTexts_follows hop rfl rfl rfl
  · next hbooleans hints hstrings hstringFile hfileString hfiles =>
    split
    · next hnumeric =>
      have htypes := promoted?_of_isNumeric hnumeric hints
      have hordered : l.type.base.ordered r.type.base = true := by
        cases l <;> cases r <;> first | rfl | cases hnumeric
      rw [BinaryOp.result?_of_ordered hop hordered]
      exact promoted_follows (.inr (by rw [hop]; rfl)) hnumeric htypes
        (fun x y => .boolean (c.outcome x y))
        fun x y hx hy => ⟨.compareFloats hop htypes hx hy, rfl⟩
    · next hnumeric =>
      have hequated : l.type.base.equated r.type.base = false := by
        cases l <;> cases r <;> first | rfl | exact absurd rfl hnumeric | simp_all
      rw [BinaryOp.result?_of_not_equated hop hequated]
      exact .mismatch _

theorem eq_boolean {v : Value} (h : v.type.base = .boolean) : ∃ b, v = .boolean b := by
  cases v
  case boolean b => exact ⟨b, rfl⟩
  all_goals cases h

theorem logical_follows {op : BinaryOp} {f : Bool → Bool → Bool} (sign : String)
    (hresult : ∀ l r, op.result? l r = if l = .boolean ∧ r = .boolean then some .boolean else none)
    (hgives : ∀ a b, op.Gives (.boolean a) (.boolean b) (.boolean (f a b))) (l r : Value) :
    op.Follows l r (op.result? l.type.base r.type.base) (logical f sign l r) := by
  unfold logical
  split
  · next a b =>
    rw [hresult, if_pos ⟨rfl, rfl⟩]
    exact (hgives a b).follows rfl
  · next hbooleans =>
    rw [hresult, if_neg]
    · exact .mismatch _
    · rintro ⟨hl, hr⟩
      obtain ⟨a, rfl⟩ := eq_boolean hl
      obtain ⟨b, rfl⟩ := eq_boolean hr
      exact hbooleans a b rfl rfl

/-- The missing value has no row in the table. -/
theorem result?_of_any (op : BinaryOp) {l r : Base} (h : l = .any ∨ r = .any) :
    op.result? l r = none := by
  rcases h with rfl | rfl
  · cases op <;> cases r <;> rfl
  · cases op <;> cases l <;> rfl

theorem binary_follows (op : BinaryOp) (l r : Value) :
    op.Follows l r (op.result? l.type.base r.type.base) (binary op l r) := by
  unfold binary refuseNull
  split
  · next hnull =>
    rw [result?_of_any op (by simpa using hnull)]
    exact .mismatch _
  · cases op
    case add => exact addOrJoin_follows l r
    case sub | mul | div | mod => exact arithmetic_follows rfl _ l r
    case eq | neq | lt | lte | gt | gte => exact compare_follows rfl l r
    case and => exact logical_follows _ (fun _ _ => rfl) .both l r
    case or => exact logical_follows _ (fun _ _ => rfl) .either l r

theorem operator_follows (op : Operator) {args : List Value} (h : args.length = op.arity) :
    op.Follows args (op.row? args) (operator op args) := by
  cases op with
  | neg =>
    obtain ⟨v, rfl⟩ := List.length_eq_one_iff.mp h
    cases v
    case int n => exact .value (.negatedInt n) rfl
    case float x => exact .value (.negatedFloat x) rfl
    all_goals exact .mismatch _
  | not =>
    obtain ⟨v, rfl⟩ := List.length_eq_one_iff.mp h
    cases v
    case boolean b => exact .value (.opposite b) rfl
    all_goals exact .mismatch _
  | str =>
    obtain ⟨v, rfl⟩ := List.length_eq_one_iff.mp h
    exact .value (.text v) rfl
  | binary op =>
    match args, h with
    | [l, r], _ => exact binary_follows op l r

/-! ## Rows -/

theorem binary_ints {op : BinaryOp} {a : Arithmetic} (hop : op.arithmetic? = some a) (l r : Int) :
    binary op (.int l) (.int r) = (a.onInts l r).map fun n => .int (wrap n) := by
  cases op <;> cases hop <;> rfl

theorem promoted_cases {l r : Value} (h : l.type.base.promoted? r.type.base = some .float) :
    (∃ n y, l = .int n ∧ r = .float y) ∨ (∃ x n, l = .float x ∧ r = .int n) ∨
      ∃ x y, l = .float x ∧ r = .float y := by
  cases l <;> cases r <;> first | (cases h; done) | simp

section Promoted

variable {l r : Value} (htypes : l.type.base.promoted? r.type.base = some .float)
include htypes

theorem refuseNull_promoted (sign : String) : refuseNull sign [l, r] = .ok () := by
  obtain ⟨n, y, rfl, rfl⟩ | ⟨x, n, rfl, rfl⟩ | ⟨x, y, rfl, rfl⟩ := promoted_cases htypes <;> rfl

theorem arithmetic_promoted (a : Arithmetic) (sign : String) : arithmetic a sign l r = (do
    let x ← toFloat l
    let y ← toFloat r
    .ok (.float (a.onFloats x y))) := by
  obtain ⟨n, y, rfl, rfl⟩ | ⟨x, n, rfl, rfl⟩ | ⟨x, y, rfl, rfl⟩ := promoted_cases htypes <;> rfl

theorem addOrJoin_promoted : addOrJoin l r = arithmetic .add "+" l r := by
  obtain ⟨n, y, rfl, rfl⟩ | ⟨x, n, rfl, rfl⟩ | ⟨x, y, rfl, rfl⟩ := promoted_cases htypes <;> rfl

theorem binary_promoted {op : BinaryOp} {a : Arithmetic} (hop : op.arithmetic? = some a) :
    binary op l r = (do
      let x ← toFloat l
      let y ← toFloat r
      .ok (.float (a.onFloats x y))) := by
  unfold binary
  rw [refuseNull_promoted htypes]
  cases op <;> cases hop
  case add => exact (addOrJoin_promoted htypes).trans (arithmetic_promoted htypes _ _)
  all_goals exact arithmetic_promoted htypes _ _

theorem compare_promoted (c : Comparison) : compare c l r = (do
    let x ← toFloat l
    let y ← toFloat r
    .ok (.boolean (c.outcome x y))) := by
  obtain ⟨n, y, rfl, rfl⟩ | ⟨x, n, rfl, rfl⟩ | ⟨x, y, rfl, rfl⟩ := promoted_cases htypes <;> rfl

theorem binary_compared {op : BinaryOp} {c : Comparison} (hop : op.comparison? = some c) :
    binary op l r = (do
      let x ← toFloat l
      let y ← toFloat r
      .ok (.boolean (c.outcome x y))) := by
  unfold binary
  rw [refuseNull_promoted htypes]
  cases op <;> cases hop <;> exact compare_promoted htypes _

end Promoted

theorem binary_of_gives {op : BinaryOp} {l r v : Value} (h : op.Gives l r v) :
    binary op l r = .ok v := by
  cases h with
  | ints hop h => rw [binary_ints hop, h]; rfl
  | floats hop htypes hl hr => rw [binary_promoted htypes hop, hl, hr]; rfl
  | strings | both | either => rfl
  | numberLast a h => cases r <;> first | rfl | cases h
  | numberFirst h b => cases l <;> first | rfl | cases h
  | paths hfile hl hr =>
    cases l <;> cases hl <;> cases r <;> cases hr <;>
      first | rfl | rcases hfile with h | h <;> cases h
  | compareBooleans hop | compareInts hop | compareStrings hop =>
    cases op <;> cases hop <;> rfl
  | compareFloats hop htypes hl hr => rw [binary_compared htypes hop, hl, hr]; rfl
  | comparePaths hop hequality hl hr =>
    cases op <;> cases hop <;> first
      | (cases hequality; done)
      | (cases l <;> cases hl <;> cases r <;> cases hr <;> rfl)

theorem operator_of_gives {op : Operator} {args : List Value} {v : Value} (h : op.Gives args v) :
    operator op args = .ok v := by
  cases h with
  | binary h => exact binary_of_gives h
  | _ => rfl

theorem operator_of_dividesByZero {op : Operator} {args : List Value}
    (h : op.DividesByZero args) : ∃ m, operator op args = .error (.arithmetic m) := by
  obtain ⟨rfl | rfl, n, rfl⟩ := h
  · exact ⟨_, rfl⟩
  · exact ⟨_, rfl⟩

theorem bind_overflow {l r : Value} (hl : isNumeric l = true) (g : Float → Float → Value)
    (h : toFloat l = .error .overflow ∨ toFloat r = .error .overflow) :
    (do
      let x ← toFloat l
      let y ← toFloat r
      .ok (g x y) : Except Failure Value) = .error .overflow := by
  rcases h with h | h
  · rw [h]
    rfl
  · rcases toFloat_cases hl with ⟨x, hx⟩ | hx
    · rw [hx, h]
      rfl
    · rw [hx]
      rfl

theorem operator_of_overflows {op : Operator} {args : List Value} (h : op.Overflows args) :
    operator op args = .error .overflow := by
  match op, args, h with
  | .binary op, [l, r], ⟨hop, htypes, h⟩ =>
    have hl : isNumeric l = true := by
      obtain ⟨n, y, rfl, rfl⟩ | ⟨x, n, rfl, rfl⟩ | ⟨x, y, rfl, rfl⟩ := promoted_cases htypes <;> rfl
    rcases hop with hop | hop
    · obtain ⟨a, hop⟩ := Option.isSome_iff_exists.mp hop
      exact (binary_promoted htypes hop).trans (bind_overflow hl _ h)
    · obtain ⟨c, hop⟩ := Option.isSome_iff_exists.mp hop
      exact (binary_compared htypes hop).trans (bind_overflow hl _ h)

end Library

/-- What the table says of the outcome of an operator. -/
structure Operator.MeetsTable (op : Operator) (args : List Value) (x : Except Failure Value) :
    Prop where
  succeeds : (∃ v, x = .ok v) ↔
    (op.row? args).isSome ∧ ¬ op.DividesByZero args ∧ ¬ op.Overflows args
  gives : ∀ v, x = .ok v ↔ op.Gives args v
  type : ∀ v, x = .ok v → ∃ b, op.row? args = some b ∧ v.type = ⟨b, false⟩
  mismatch : (∃ m, x = .error (.incompatible m)) ↔ op.row? args = none
  division : (∃ m, x = .error (.arithmetic m)) ↔ op.DividesByZero args
  overflow : x = .error .overflow ↔ op.Overflows args
  large : op.Overflows args → ∃ n, .int n ∈ args ∧ 2 ^ 1023 ≤ n.natAbs

theorem Operator.Overflows.large {op : Operator} {args : List Value} (h : op.Overflows args) :
    ∃ n, .int n ∈ args ∧ 2 ^ 1023 ≤ n.natAbs := by
  match op, args, h with
  | .binary op, [l, r], ⟨_, _, h⟩ =>
    rcases h with h | h
    · obtain ⟨n, rfl, hn⟩ := Library.large_of_toFloat h
      exact ⟨n, by simp, hn⟩
    · obtain ⟨n, rfl, hn⟩ := Library.large_of_toFloat h
      exact ⟨n, by simp, hn⟩

theorem Operator.Follows.meetsTable {op : Operator} {args : List Value}
    {x : Except Failure Value} (h : op.Follows args (op.row? args) x)
    (hgives : ∀ v, op.Gives args v → x = .ok v)
    (hdivision : op.DividesByZero args → ∃ m, x = .error (.arithmetic m))
    (hoverflow : op.Overflows args → x = .error .overflow) : op.MeetsTable args x := by
  generalize hrow : op.row? args = row at h
  have hdivides : (∃ m, x = .error (.arithmetic m)) ↔ op.DividesByZero args := by
    refine ⟨?_, hdivision⟩
    rintro ⟨m, rfl⟩
    cases h with
    | division _ h => exact h
  have hoverflows : x = .error .overflow ↔ op.Overflows args := by
    refine ⟨?_, hoverflow⟩
    rintro rfl
    cases h with
    | overflow h => exact h
  refine ⟨?_, fun v => ⟨?_, hgives v⟩, ?_, ?_, hdivides, hoverflows, Operator.Overflows.large⟩
  · rw [hrow, ← hdivides, ← hoverflows]
    cases h <;> simp
  · rintro rfl
    cases h with
    | value h _ => exact h
  · rintro v rfl
    cases h with
    | value _ htype => exact ⟨_, hrow, htype⟩
  · rw [hrow]
    cases h <;> simp

open Library in
/-- An operator on as many operands as it has succeeds on the types of the table, with the value
that it says, and fails on all others as on a mismatch of types. -/
theorem operator_table (op : Operator) (args : List Value) (h : args.length = op.arity) :
    op.MeetsTable args (operator op args) :=
  (operator_follows op h).meetsTable (fun _ => operator_of_gives) operator_of_dividesByZero
    operator_of_overflows

theorem operator_table_files : ∃ m,
    Library.operator (.binary .lt) [.file "a", .file "b"] = .error (.incompatible m) :=
  (operator_table (.binary .lt) [.file "a", .file "b"] rfl).mismatch.mpr rfl

end Wdl
