import Mathlib.Algebra.Order.Field.Power
import Mathlib.Algebra.Order.Field.Rat
import Mathlib.Data.List.Induction
import Mathlib.Data.List.TakeWhile
import Mathlib.Data.Nat.Digits.Defs
import Mathlib.Tactic.Ring
import Wdl.Decimal.Reader
import Wdl.Value

/-!
The text of a floating point number.

A finite number is written by its sign and its decimal, whose digits have no zeros at the end.  Read
back as a numeral the text gives the same sign and the same number, whether it is written
positionally or with an exponent; so it tells numbers apart, and from the names of those that are
not finite.
-/

namespace Wdl
namespace Text

theorem ofDigits_concat (ds : List Nat) (d : Nat) :
    ofDigits (ds ++ [d]) = 10 * ofDigits ds + d := by
  rw [ofDigits, ofDigits, List.foldl_append]
  rfl

theorem ofDigits_append (ds es : List Nat) :
    ofDigits (ds ++ es) = ofDigits ds * 10 ^ es.length + ofDigits es := by
  induction es using List.reverseRecOn with
  | nil =>
    rw [List.append_nil, List.length_nil, Nat.pow_zero, Nat.mul_one]
    rfl
  | append_singleton es e ih =>
    rw [← List.append_assoc, ofDigits_concat, ih, ofDigits_concat, List.length_append,
      List.length_singleton, Nat.pow_succ]
    ring

theorem ofDigits_zeros (k : Nat) : ofDigits (List.replicate k 0) = 0 := by
  induction k with
  | zero => rfl
  | succ k ih => rw [List.replicate_succ', ofDigits_concat, ih]

theorem ofDigits_lt {ds : List Nat} (h : ∀ d ∈ ds, d < 10) : ofDigits ds < 10 ^ ds.length := by
  induction ds using List.reverseRecOn with
  | nil => decide
  | append_singleton ds d ih =>
    have hd := h d (by simp)
    have hds := ih fun x hx => h x (List.mem_append_left _ hx)
    rw [ofDigits_concat, List.length_append, List.length_singleton, Nat.pow_succ]
    omega

/-- A number without zeros in front has as many digits as it needs. -/
theorem le_ofDigits_cons {d : Nat} (hd : d ≠ 0) (ds : List Nat) :
    10 ^ ds.length ≤ ofDigits (d :: ds) := by
  have hcons : ofDigits (d :: ds) = d * 10 ^ ds.length + ofDigits ds := by
    have h := ofDigits_append [d] ds
    rwa [show ofDigits [d] = d by simp [ofDigits]] at h
  have hpos : 1 * 10 ^ ds.length ≤ d * 10 ^ ds.length :=
    Nat.mul_le_mul_right _ (Nat.one_le_iff_ne_zero.mpr hd)
  omega

/-- The character of a digit is read as that digit. -/
theorem asciiDigit?_ofNat {d : Nat} (hd : d < 10) : asciiDigit? (Char.ofNat (48 + d)) = some d := by
  have hall : ∀ d : Fin 10, asciiDigit? (Char.ofNat (48 + d)) = some d.val := by decide
  exact hall ⟨d, hd⟩

end Text

namespace Decimal

open Text

/-! ## Digits of a number -/

theorem digitsOf_of_lt {n : Nat} (hn : n < 10) : digitsOf n = [n] := by
  rw [digitsOf, Nat.toDigits_of_lt_base hn, List.map_singleton, Nat.toNat_digitChar_of_lt_ten hn]
  simp

theorem digitsOf_of_le {n : Nat} (hn : 10 ≤ n) : digitsOf n = digitsOf (n / 10) ++ [n % 10] := by
  have hmod : n % 10 < 10 := Nat.mod_lt n (by decide)
  rw [digitsOf, Nat.toDigits_of_base_le (by decide) hn, List.map_append, List.map_singleton,
    Nat.toNat_digitChar_of_lt_ten hmod, ← digitsOf]
  simp

/-- The digits of a number are below ten, do not begin with zero unless it is zero, and spell it. -/
theorem digitsOf_spec (n : Nat) :
    (∀ d ∈ digitsOf n, d < 10) ∧ ofDigits (digitsOf n) = n ∧
      ∃ d ds, digitsOf n = d :: ds ∧ (d = 0 → n = 0) := by
  induction n using Nat.strongRecOn with
  | ind n ih =>
    by_cases hn : n < 10
    · rw [digitsOf_of_lt hn]
      refine ⟨List.forall_mem_singleton.mpr hn, by simp [ofDigits], n, [], rfl, id⟩
    · have hle : 10 ≤ n := by omega
      obtain ⟨hlt, hvalue, d, ds, hcons, hzero⟩ := ih (n / 10) (by omega)
      rw [digitsOf_of_le hle]
      refine ⟨fun x hx => ?_, ?_, d, ds ++ [n % 10], ?_, fun h => ?_⟩
      · obtain hx | hx := List.mem_append.mp hx
        · exact hlt x hx
        · have := List.mem_singleton.mp hx
          omega
      · rw [ofDigits_concat, hvalue]
        omega
      · rw [hcons, List.cons_append]
      · have := hzero h
        omega

/-- A factor of ten is a zero at the end. -/
theorem digitsOf_ten_mul {n : Nat} (hn : n ≠ 0) : digitsOf (10 * n) = digitsOf n ++ [0] := by
  rw [digitsOf_of_le (by omega), Nat.mul_div_cancel_left n (by decide), Nat.mul_mod_right]

/-! ## Decimals without zeros at the end -/

/-- The number that a decimal stands for. -/
def value (d : Decimal) : ℚ :=
  ofDigits d.digits * 10 ^ (d.exponent + 1 - d.digits.length)

/-- The digits of a decimal are below ten, the first is not zero and neither is the last; or it is
the decimal for zero. -/
structure Normal (d : Decimal) : Prop where
  lt : ∀ x ∈ d.digits, x < 10
  ends : d = ⟨[0], 0⟩ ∨ (∃ x xs, d.digits = x :: xs ∧ x ≠ 0) ∧ d.digits.getLast? ≠ some 0

/-- Digits with the zeros at their end apart. -/
theorem exists_zeros (ds : List Nat) :
    ∃ k, ds = (ds.reverse.dropWhile (· == 0)).reverse ++ List.replicate k 0 := by
  refine ⟨(ds.reverse.takeWhile (· == 0)).length, ?_⟩
  have hzeros : ds.reverse.takeWhile (· == 0) =
      List.replicate (ds.reverse.takeWhile (· == 0)).length 0 :=
    List.eq_replicate_of_mem fun x hx => by simpa using List.mem_takeWhile_imp hx
  rw [← List.reverse_replicate, ← hzeros, ← List.reverse_append, List.takeWhile_append_dropWhile,
    List.reverse_reverse]

theorem ofScaled_zero (scale : Int) : ofScaled 0 scale = ⟨[0], 0⟩ := rfl

/-- What is left of the digits of a number other than zero. -/
theorem ofScaled_of_ne_zero {n : Nat} (hn : n ≠ 0) (scale : Int) :
    ∃ ds k, digitsOf n = ds ++ List.replicate k 0 ∧ ds ≠ [] ∧ ds.getLast? ≠ some 0 ∧
      ofScaled n scale = ⟨ds, scale + (ds.length + k : Nat) - 1⟩ := by
  obtain ⟨k, hk⟩ := exists_zeros (digitsOf n)
  obtain ⟨-, hvalue, -⟩ := digitsOf_spec n
  generalize hds : ((digitsOf n).reverse.dropWhile (· == 0)).reverse = ds at hk
  have hne : ds ≠ [] := by
    rintro rfl
    rw [hk, List.nil_append, ofDigits_zeros] at hvalue
    exact hn hvalue.symm
  refine ⟨ds, k, hk, hne, ?_, ?_⟩
  · intro hlast
    rw [← hds, List.getLast?_reverse] at hlast
    have h := List.head?_dropWhile_not (· == 0) (digitsOf n).reverse
    rw [hlast] at h
    exact nomatch h
  · have hlength : (digitsOf n).length = ds.length + k := by
      rw [hk, List.length_append, List.length_replicate]
    unfold ofScaled
    dsimp only
    rw [hds, if_neg (by simpa using hne), hlength]

theorem ofScaled_normal (n : Nat) (scale : Int) : (ofScaled n scale).Normal := by
  by_cases hn : n = 0
  · subst hn
    rw [ofScaled_zero]
    exact ⟨by decide, .inl rfl⟩
  · obtain ⟨ds, k, hk, hne, hlast, heq⟩ := ofScaled_of_ne_zero hn scale
    obtain ⟨hlt, -, d, rest, hcons, hzero⟩ := digitsOf_spec n
    rw [heq]
    refine ⟨fun x hx => hlt x (hk ▸ List.mem_append_left _ hx), .inr ⟨?_, hlast⟩⟩
    cases ds with
    | nil => exact absurd rfl hne
    | cons x xs =>
      rw [hk, List.cons_append] at hcons
      obtain ⟨rfl, -⟩ := List.cons.inj hcons
      exact ⟨x, xs, rfl, fun h => hn (hzero h)⟩

theorem ofScaled_value (n : Nat) (scale : Int) : (ofScaled n scale).value = n * 10 ^ scale := by
  by_cases hn : n = 0
  · subst hn
    simp [ofScaled_zero, value, ofDigits]
  · obtain ⟨ds, k, hk, -, -, heq⟩ := ofScaled_of_ne_zero hn scale
    obtain ⟨-, hvalue, -⟩ := digitsOf_spec n
    have hdigits : n = ofDigits ds * 10 ^ k := by
      rw [← hvalue, hk, ofDigits_append, ofDigits_zeros, List.length_replicate, Nat.add_zero]
    have hexponent : scale + (ds.length + k : Nat) - 1 + 1 - (ds.length : Int) = k + scale := by
      omega
    rw [heq, value, hexponent, zpow_add₀ (by norm_num), zpow_natCast, ← mul_assoc]
    conv_rhs => rw [hdigits]
    push_cast
    rfl

/-- A factor of ten in the number or in the scale. -/
theorem ofScaled_ten_mul (n : Nat) (scale : Int) :
    ofScaled (10 * n) scale = ofScaled n (scale + 1) := by
  by_cases hn : n = 0
  · subst hn
    rfl
  · unfold ofScaled
    dsimp only
    rw [digitsOf_ten_mul hn, List.reverse_append, List.reverse_singleton, List.singleton_append,
      List.dropWhile_cons_of_pos (by rfl), List.length_append, List.length_singleton]
    congr 2
    push_cast
    omega

theorem ofScaled_pow_mul (k n : Nat) (scale : Int) :
    ofScaled (10 ^ k * n) scale = ofScaled n (scale + k) := by
  induction k generalizing scale with
  | zero => simp
  | succ k ih =>
    rw [Nat.pow_succ, Nat.mul_comm (10 ^ k) 10, Nat.mul_assoc, ofScaled_ten_mul, ih]
    congr 1
    push_cast
    omega

/-- The decimal depends on the number alone. -/
theorem ofScaled_eq {n n' : Nat} {scale scale' : Int}
    (h : (n : ℚ) * 10 ^ scale = n' * 10 ^ scale') : ofScaled n scale = ofScaled n' scale' := by
  -- with the smaller scale the number has further zeros at its end
  have hle {n n' : Nat} {scale scale' : Int} (hscale : scale ≤ scale')
      (h : (n : ℚ) * 10 ^ scale = n' * 10 ^ scale') : ofScaled n scale = ofScaled n' scale' := by
    obtain ⟨k, rfl⟩ := Int.le.dest hscale
    have hpos : (10 : ℚ) ^ scale ≠ 0 := zpow_ne_zero _ (by norm_num)
    have hn : n = 10 ^ k * n' := by
      rw [zpow_add₀ (by norm_num), zpow_natCast, mul_comm ((10 : ℚ) ^ scale), ← mul_assoc] at h
      have hcancel := mul_right_cancel₀ hpos h
      rw [mul_comm] at hcancel
      exact_mod_cast hcancel
    rw [hn, ofScaled_pow_mul]
  rcases Int.le_total scale scale' with hscale | hscale
  · exact hle hscale h
  · exact (hle hscale h.symm).symm

/-- A decimal other than zero lies between the power of ten of its exponent and the next one. -/
theorem Normal.bounds {d : Decimal} (h : d.Normal) (hzero : d ≠ ⟨[0], 0⟩) :
    10 ^ d.exponent ≤ d.value ∧ d.value < 10 ^ (d.exponent + 1) := by
  obtain ⟨⟨x, xs, hx, hne⟩, -⟩ := h.ends.resolve_left hzero
  have hlow : 10 ^ xs.length ≤ ofDigits d.digits := hx ▸ le_ofDigits_cons hne xs
  have hhigh : ofDigits d.digits < 10 ^ (xs.length + 1) := by
    have := ofDigits_lt h.lt
    rwa [hx, List.length_cons, ← hx] at this
  have hscale : (0 : ℚ) < 10 ^ (d.exponent + 1 - d.digits.length) := zpow_pos (by norm_num) _
  have hlength : (d.digits.length : Int) = xs.length + 1 := by
    rw [hx, List.length_cons]
    rfl
  constructor
  · calc (10 : ℚ) ^ d.exponent
        = 10 ^ xs.length * 10 ^ (d.exponent + 1 - d.digits.length) := by
          rw [← zpow_natCast, ← zpow_add₀ (by norm_num), hlength]
          congr 1
          omega
      _ ≤ d.value := mul_le_mul_of_nonneg_right (by exact_mod_cast hlow) hscale.le
  · calc d.value
        < 10 ^ (xs.length + 1) * 10 ^ (d.exponent + 1 - d.digits.length) :=
          mul_lt_mul_of_pos_right (by exact_mod_cast hhigh) hscale
      _ = 10 ^ (d.exponent + 1) := by
          rw [← zpow_natCast, ← zpow_add₀ (by norm_num), hlength]
          congr 1
          push_cast
          omega

/-! ## Written numerals -/

/-- Whether a decimal is written with an exponent. -/
def marked (d : Decimal) : Bool :=
  d.exponent < text.lowest || text.highest ≤ d.exponent

/-- The number that a numeral stands for. -/
def Numeral.value (num : Numeral) : ℚ :=
  ofDigits (num.whole ++ num.fraction) * 10 ^ (num.exponent - num.fraction.length)

/-- A numeral as it is written: its digits, a point if digits come after it, and if it is marked its
exponent. -/
def Numeral.spelled (num : Numeral) (marked : Bool) : String :=
  digitChars num.whole ++ (if num.fraction.isEmpty then "" else "." ++ digitChars num.fraction) ++
    (if marked then "E" ++ exponentText num.exponent else "")

/-- A minus at the front of a text, and the rest. -/
def takeSign : List Char → Bool × List Char
  | '-' :: cs => (true, cs)
  | cs => (false, cs)

/-- Reads a numeral that fills the whole text, with a minus before it if it is negative. -/
def readSigned? (s : String) : Option (Bool × Numeral) :=
  match readNumeral? (takeSign s.toList).2 with
  | some (num, []) => some ((takeSign s.toList).1, num)
  | _ => none

theorem takeSign_of_ne {c : Char} (hc : c ≠ '-') (cs : List Char) :
    takeSign (c :: cs) = (false, c :: cs) := by
  unfold takeSign
  split
  · next heq => exact absurd (List.cons.inj heq).1 hc
  · rfl

theorem toList_digitChars (ds : List Nat) :
    (digitChars ds).toList = ds.map fun d => Char.ofNat (48 + d) :=
  String.toList_ofList

theorem digitChars_append (ds es : List Nat) :
    digitChars (ds ++ es) = digitChars ds ++ digitChars es := by
  rw [digitChars, List.map_append, String.ofList_append]
  rfl

/-- Digits are read up to what is no digit. -/
theorem takeDigits_append {ds : List Nat} (hds : ∀ d ∈ ds, d < 10) (rest : List Char)
    (hrest : ∀ c ∈ rest.head?, asciiDigit? c = none) :
    takeDigits ((digitChars ds).toList ++ rest) = (ds, rest) := by
  rw [toList_digitChars]
  induction ds with
  | nil =>
    cases rest with
    | nil => rfl
    | cons c rest => rw [List.map_nil, List.nil_append, takeDigits, hrest c rfl]
  | cons d ds ih =>
    obtain ⟨hd, hds⟩ := List.forall_mem_cons.mp hds
    rw [List.map_cons, List.cons_append, takeDigits, asciiDigit?_ofNat hd]
    dsimp only
    rw [ih hds]

/-- A number is printed by its digits. -/
theorem toString_eq_digitChars (n : Nat) : toString n = digitChars (digitsOf n) := by
  have hchars : (Nat.toDigits 10 n).map (fun c => Char.ofNat (48 + (c.toNat - 48))) =
      Nat.toDigits 10 n := by
    conv_rhs => rw [← List.map_id (Nat.toDigits 10 n)]
    refine List.map_congr_left fun c hc => ?_
    have hdigit := Nat.isDigit_of_mem_toDigits (by decide) (by decide) hc
    have hle : 48 ≤ c.toNat := (Char.isDigit_iff_toNat.mp hdigit).1
    rw [show 48 + (c.toNat - 48) = c.toNat by omega, Char.ofNat_toNat]
    rfl
  rw [digitChars, digitsOf, List.map_map]
  exact congrArg String.ofList hchars.symm

/-- A written exponent has a sign and digits that spell its magnitude. -/
theorem exists_exponentText (e : Int) :
    ∃ ds : List Nat, exponentText e = (if e < 0 then "-" else "+") ++ digitChars ds ∧
      (∀ d ∈ ds, d < 10) ∧ ofDigits ds = e.natAbs ∧ ds ≠ [] := by
  obtain ⟨hlt, hvalue, x, xs, hcons, -⟩ := digitsOf_spec e.natAbs
  unfold exponentText
  dsimp only
  rw [toString_eq_digitChars]
  by_cases hshort : (digitChars (digitsOf e.natAbs)).length < 2
  · rw [if_pos hshort]
    refine ⟨0 :: digitsOf e.natAbs, ?_, ?_, ?_, List.cons_ne_nil _ _⟩
    · exact congrArg _ (digitChars_append [0] _).symm
    · exact List.forall_mem_cons.mpr ⟨by decide, hlt⟩
    · have := ofDigits_append [0] (digitsOf e.natAbs)
      rwa [show ofDigits [0] = 0 from rfl, Nat.zero_mul, Nat.zero_add, hvalue] at this
  · rw [if_neg hshort]
    exact ⟨digitsOf e.natAbs, rfl, hlt, hvalue, hcons ▸ List.cons_ne_nil x xs⟩

theorem takeExponent_exponentText (e : Int) :
    takeExponent ('E' :: (exponentText e).toList) = (e, []) := by
  obtain ⟨ds, htext, hlt, hvalue, hne⟩ := exists_exponentText e
  have hread : takeDigits (digitChars ds).toList = (ds, []) := by
    have := takeDigits_append hlt [] (by simp)
    rwa [List.append_nil] at this
  obtain ⟨x, xs, rfl⟩ := List.exists_cons_of_ne_nil hne
  rw [htext, String.toList_append]
  by_cases hneg : e < 0
  · have habs : (e.natAbs : Int) = -e := by omega
    rw [if_pos hneg]
    simp only [takeExponent, String.reduceToList, List.cons_append, List.nil_append, hread, hvalue,
      habs, Int.neg_neg]
    simp
  · have habs : (e.natAbs : Int) = e := by omega
    rw [if_neg hneg]
    simp only [takeExponent, String.reduceToList, List.cons_append, List.nil_append, hread, hvalue,
      habs]
    simp

/-- What is written after the digits: nothing, or an exponent. -/
theorem marked_cases (e : Int) {marked : Bool} (hmarked : marked = false → e = 0) :
    ∃ tail : List Char, (if marked then "E" ++ exponentText e else "").toList = tail ∧
      takeExponent tail = (e, []) ∧ (tail = [] ∨ ∃ cs, tail = 'E' :: cs) := by
  cases marked with
  | false =>
    refine ⟨[], rfl, ?_, .inl rfl⟩
    rw [hmarked rfl]
    rfl
  | true =>
    refine ⟨'E' :: (exponentText e).toList, ?_, takeExponent_exponentText e, .inr ⟨_, rfl⟩⟩
    rw [if_pos rfl, String.toList_append]
    rfl

/-- A written numeral is read back. -/
theorem readNumeral?_spelled {num : Numeral} {marked : Bool} (hwhole : ∀ d ∈ num.whole, d < 10)
    (hfraction : ∀ d ∈ num.fraction, d < 10) (hne : num.whole ≠ [])
    (hmarked : marked = false → num.exponent = 0) :
    readNumeral? (num.spelled marked).toList = some (num, []) := by
  obtain ⟨whole, fraction, exponent⟩ := num
  obtain ⟨tail, htail, hexponent, hcases⟩ := marked_cases exponent hmarked
  have hend : ∀ c ∈ tail.head?, asciiDigit? c = none := by
    obtain rfl | ⟨cs, rfl⟩ := hcases
    · exact fun c hc => nomatch hc
    · intro c hc
      obtain rfl := Option.some.inj hc
      decide
  have hempty : whole.isEmpty = false := by simpa using hne
  unfold readNumeral? Numeral.spelled
  dsimp only
  rw [String.toList_append, String.toList_append, htail, List.append_assoc]
  cases fraction with
  | nil =>
    have hread := takeDigits_append hwhole _ hend
    rw [show (if ([] : List Nat).isEmpty = true then "" else "." ++ digitChars []).toList = [] from
      rfl, List.nil_append, hread]
    obtain rfl | ⟨cs, rfl⟩ := hcases
    · simp [hexponent, hempty]
    · simp [hexponent, hempty]
  | cons d ds =>
    have hpoint : (if (d :: ds).isEmpty = true then "" else "." ++ digitChars (d :: ds)).toList =
        '.' :: (digitChars (d :: ds)).toList := by
      rw [if_neg (by simp), String.toList_append]
      rfl
    have hread := takeDigits_append hwhole ('.' :: ((digitChars (d :: ds)).toList ++ tail))
      (by simp [asciiDigit?])
    have hrest := takeDigits_append hfraction _ hend
    rw [hpoint, List.cons_append, hread]
    simp [hrest, hexponent, hempty]

/-! ## The layout of texts -/

/-- The numeral that is written for a decimal. -/
def numeral (d : Decimal) : Numeral :=
  if d.marked then ⟨d.digits.take 1, d.digits.drop 1, d.exponent⟩
  else if d.exponent < 0 then ⟨[0], List.replicate ((-d.exponent).toNat - 1) 0 ++ d.digits, 0⟩
  else
    let whole := d.exponent.toNat + 1
    ⟨d.digits.take whole ++ List.replicate (whole - d.digits.length) 0, d.digits.drop whole, 0⟩

theorem magnitude_eq {d : Decimal} (hdigits : d.digits ≠ []) :
    text.magnitude d = d.numeral.spelled d.marked := by
  unfold Layout.magnitude numeral
  rw [show (d.exponent < text.lowest || text.highest ≤ d.exponent) = d.marked from rfl]
  by_cases hmarked : d.marked = true
  · rw [hmarked, if_pos rfl, if_pos rfl]
    unfold scientific Numeral.spelled
    dsimp only
    rw [if_pos rfl, String.append_assoc]
    rfl
  · rw [Bool.not_eq_true] at hmarked
    rw [hmarked, if_neg Bool.false_ne_true, if_neg Bool.false_ne_true]
    unfold positional Numeral.spelled
    by_cases hneg : d.exponent < 0
    · have hne : (List.replicate ((-d.exponent).toNat - 1) 0 ++ d.digits).isEmpty = false := by
        simp [hdigits]
      rw [if_pos hneg, if_pos hneg]
      dsimp only
      rw [hne, if_neg Bool.false_ne_true, if_neg Bool.false_ne_true, String.append_empty,
        ← String.append_assoc]
      rfl
    · rw [if_neg hneg, if_neg hneg]
      dsimp only
      split
      · rw [if_neg Bool.false_ne_true, String.append_empty, String.append_empty]
        exact String.append_empty
      · rw [if_neg Bool.false_ne_true, String.append_empty, String.append_assoc]

/-- The parts of the numeral that is written for a decimal. -/
structure Numeral.Laid (num : Numeral) (d : Decimal) : Prop where
  lt : (∀ x ∈ num.whole, x < 10) ∧ ∀ x ∈ num.fraction, x < 10
  whole : num.whole ≠ []
  first : d.marked = true → num.whole.length = 1 ∧ num.whole ≠ [0]
  exponent : d.marked = false → num.exponent = 0
  last : num.fraction.getLast? ≠ some 0
  value : num.value = d.value

theorem laid_of_marked {x : Nat} {xs : List Nat} {e : Int} (hlt : ∀ y ∈ x :: xs, y < 10)
    (hx : x ≠ 0) (hlast : (x :: xs).getLast? ≠ some 0) (hmarked : marked ⟨x :: xs, e⟩ = true) :
    (numeral ⟨x :: xs, e⟩).Laid ⟨x :: xs, e⟩ := by
  have hnumeral : numeral ⟨x :: xs, e⟩ = ⟨[x], xs, e⟩ := by
    rw [numeral, if_pos hmarked]
    rfl
  obtain ⟨hfirst, hrest⟩ := List.forall_mem_cons.mp hlt
  rw [hnumeral]
  refine ⟨⟨List.forall_mem_singleton.mpr hfirst, hrest⟩, List.cons_ne_nil _ _, fun _ => ⟨rfl, ?_⟩,
    fun h => absurd (hmarked.symm.trans h) (by decide), ?_, ?_⟩
  · intro heq
    exact hx (List.cons.inj heq).1
  · cases xs with
    | nil => exact fun h => nomatch h
    | cons y ys => rwa [List.getLast?_cons_cons] at hlast
  · show (ofDigits (x :: xs) : ℚ) * 10 ^ (e - xs.length) =
      ofDigits (x :: xs) * 10 ^ (e + 1 - (x :: xs).length)
    congr 2
    rw [List.length_cons]
    push_cast
    omega

theorem laid_of_small {x : Nat} {xs : List Nat} {e : Int} (hlt : ∀ y ∈ x :: xs, y < 10)
    (hlast : (x :: xs).getLast? ≠ some 0) (hmarked : marked ⟨x :: xs, e⟩ = false) (hneg : e < 0) :
    (numeral ⟨x :: xs, e⟩).Laid ⟨x :: xs, e⟩ := by
  have hnumeral : numeral ⟨x :: xs, e⟩ =
      ⟨[0], List.replicate ((-e).toNat - 1) 0 ++ x :: xs, 0⟩ := by
    rw [numeral, hmarked, if_neg Bool.false_ne_true, if_pos hneg]
  rw [hnumeral]
  refine ⟨⟨List.forall_mem_singleton.mpr (by decide), fun y hy => ?_⟩, List.cons_ne_nil _ _,
    fun h => absurd (hmarked.symm.trans h) (by decide), fun _ => rfl, ?_, ?_⟩
  · obtain hy | hy := List.mem_append.mp hy
    · rw [List.eq_of_mem_replicate hy]
      decide
    · exact hlt y hy
  · rwa [List.getLast?_append, Option.or_of_isSome (by simp)]
  · show (ofDigits ([0] ++ (List.replicate ((-e).toNat - 1) 0 ++ x :: xs)) : ℚ) *
        10 ^ ((0 : Int) - (List.replicate ((-e).toNat - 1) 0 ++ x :: xs).length) =
      ofDigits (x :: xs) * 10 ^ (e + 1 - (x :: xs).length)
    rw [ofDigits_append, ofDigits_append, ofDigits_zeros, show ofDigits [0] = 0 from rfl,
      Nat.zero_mul, Nat.zero_mul, Nat.zero_add, Nat.zero_add]
    congr 2
    rw [List.length_append, List.length_replicate]
    push_cast
    omega

theorem laid_of_large {x : Nat} {xs : List Nat} {e : Int} (hlt : ∀ y ∈ x :: xs, y < 10)
    (hlast : (x :: xs).getLast? ≠ some 0) (hmarked : marked ⟨x :: xs, e⟩ = false) (hneg : ¬e < 0) :
    (numeral ⟨x :: xs, e⟩).Laid ⟨x :: xs, e⟩ := by
  generalize hds : x :: xs = ds at hlt hlast hmarked ⊢
  have hnumeral : numeral ⟨ds, e⟩ = ⟨ds.take (e.toNat + 1) ++
      List.replicate (e.toNat + 1 - ds.length) 0, ds.drop (e.toNat + 1), 0⟩ := by
    rw [numeral, hmarked, if_neg Bool.false_ne_true, if_neg hneg]
  rw [hnumeral]
  refine ⟨⟨fun y hy => ?_, fun y hy => hlt y (List.mem_of_mem_drop hy)⟩, ?_,
    fun h => absurd (hmarked.symm.trans h) (by decide), fun _ => rfl, ?_, ?_⟩
  · obtain hy | hy := List.mem_append.mp hy
    · exact hlt y (List.mem_of_mem_take hy)
    · rw [List.eq_of_mem_replicate hy]
      decide
  · rw [← hds]
    exact List.cons_ne_nil _ _
  · by_cases hlength : ds.length ≤ e.toNat + 1
    · rw [List.drop_eq_nil_of_le hlength]
      exact fun h => nomatch h
    · rwa [List.getLast?_drop, if_neg hlength]
  · unfold Numeral.value Decimal.value
    dsimp only
    by_cases hlength : ds.length ≤ e.toNat + 1
    · -- the whole number ends in zeros that the decimal does not have
      have hexponent : e + 1 - (ds.length : Int) = (e.toNat + 1 - ds.length : Nat) := by omega
      rw [List.drop_eq_nil_of_le hlength, List.take_of_length_le hlength, List.append_nil,
        ofDigits_append, ofDigits_zeros, List.length_replicate, hexponent, zpow_natCast]
      simp
    · have hexponent : (0 : Int) - (ds.drop (e.toNat + 1)).length = e + 1 - ds.length := by
        rw [List.length_drop]
        omega
      rw [Nat.sub_eq_zero_of_le (Nat.le_of_not_le hlength), List.replicate_zero, List.append_nil,
        List.take_append_drop, hexponent]

theorem Normal.laid {d : Decimal} (h : d.Normal) : d.numeral.Laid d := by
  obtain rfl | ⟨⟨x, xs, hdigits, hx⟩, hlast⟩ := h.ends
  · refine ⟨by decide, by decide, by decide, by decide, by decide, rfl⟩
  · obtain ⟨ds, e⟩ := d
    obtain rfl : ds = x :: xs := hdigits
    cases hmarked : marked ⟨x :: xs, e⟩ with
    | true => exact laid_of_marked h.lt hx hlast hmarked
    | false =>
      by_cases hneg : e < 0
      · exact laid_of_small h.lt hlast hmarked hneg
      · exact laid_of_large h.lt hlast hmarked hneg

theorem Normal.ne_nil {d : Decimal} (h : d.Normal) : d.digits ≠ [] := by
  obtain rfl | ⟨⟨x, xs, hdigits, -⟩, -⟩ := h.ends
  · exact List.cons_ne_nil _ _
  · exact hdigits ▸ List.cons_ne_nil x xs

/-- The text of a decimal begins with a digit. -/
theorem Normal.magnitude_cons {d : Decimal} (h : d.Normal) :
    ∃ c cs, (text.magnitude d).toList = c :: cs ∧ c ≠ '-' := by
  have hlaid := h.laid
  obtain ⟨x, xs, hwhole⟩ := List.exists_cons_of_ne_nil hlaid.whole
  have hx : x < 10 := hlaid.lt.1 x (hwhole ▸ List.mem_cons_self)
  have hdigit : Char.ofNat (48 + x) ≠ '-' := by
    intro heq
    have := asciiDigit?_ofNat hx
    rw [heq] at this
    exact nomatch this
  rw [magnitude_eq h.ne_nil, Numeral.spelled, String.toList_append, String.toList_append,
    toList_digitChars, hwhole]
  exact ⟨_, _, rfl, hdigit⟩

/-- The text of a decimal with its sign is read back. -/
theorem Normal.readSigned {d : Decimal} (h : d.Normal) (neg : Bool) :
    readSigned? (text.signed neg d) = some (neg, d.numeral) := by
  have hread : readNumeral? (text.magnitude d).toList = some (d.numeral, []) := by
    have hlaid := h.laid
    rw [magnitude_eq h.ne_nil]
    exact readNumeral?_spelled hlaid.lt.1 hlaid.lt.2 hlaid.whole hlaid.exponent
  obtain ⟨c, cs, hcons, hne⟩ := h.magnitude_cons
  have hsign : takeSign (text.signed neg d).toList = (neg, (text.magnitude d).toList) := by
    rw [Layout.signed, String.toList_append]
    cases neg with
    | false =>
      rw [hcons]
      exact takeSign_of_ne hne cs
    | true => rfl
  unfold readSigned?
  rw [hsign]
  dsimp only
  rw [hread]

/-- A decimal is written with an exponent if it is small or large, but zero is not. -/
theorem Normal.marked_iff {d : Decimal} (h : d.Normal) :
    d.marked = true ↔ d.value ≠ 0 ∧ (d.value < 10 ^ (-4 : Int) ∨ 10 ^ (6 : Int) ≤ d.value) := by
  have hmarked : d.marked = true ↔ d.exponent < -4 ∨ 6 ≤ d.exponent := by
    unfold marked
    rw [Bool.or_eq_true, decide_eq_true_iff, decide_eq_true_iff]
    rfl
  by_cases hzero : d = ⟨[0], 0⟩
  · subst hzero
    simp [hmarked, value, ofDigits]
  · have hten : (1 : ℚ) < 10 := by norm_num
    obtain ⟨hlow, hhigh⟩ := h.bounds hzero
    have hpos : d.value ≠ 0 := ((zpow_pos (by norm_num) _).trans_le hlow).ne'
    rw [hmarked, and_iff_right hpos]
    refine or_congr ⟨fun he => ?_, fun hv => ?_⟩ ⟨fun he => ?_, fun hv => ?_⟩
    · exact hhigh.trans_le (zpow_le_zpow_right₀ hten.le (by omega))
    · exact (zpow_lt_zpow_iff_right₀ hten).mp (hlow.trans_lt hv)
    · exact (zpow_le_zpow_right₀ hten.le he).trans hlow
    · have := (zpow_lt_zpow_iff_right₀ hten).mp (hv.trans_lt hhigh)
      omega

/-! ## Floating point numbers -/

/-- The shortest decimal of a number has no zeros at its end. -/
theorem exists_shortest_eq (m : Nat) (e : Int) : ∃ n scale, shortest m e = ofScaled n scale := by
  have hfrom (i : Interval) (top : Int) (fuel k : Nat) :
      ∃ n scale, shortestFrom i top fuel k = ofScaled n scale := by
    induction fuel generalizing k with
    | zero => exact ⟨_, _, rfl⟩
    | succ fuel ih =>
      rw [shortestFrom]
      split
      · exact ⟨_, _, rfl⟩
      · exact ih (k + 1)
  unfold shortest
  split
  · exact ⟨0, 0, rfl⟩
  · exact hfrom _ _ _ _

/-- Take a sign and a decimal `n * 10 ^ scale`, such as a finite floating point number has.  Its
text is a numeral that reads back as the same sign and the same number, in positional notation or
with one digit before the point and an exponent.  It has an exponent just if the number is less than
`0.0001`, but not zero, or at least a million, and there are no zeros at the end of its fraction.
The text determines the sign and the number and is determined by them, and it is none of the names
of numbers that are not finite. -/
theorem text_denotes (neg : Bool) (n : Nat) (scale : Int) :
    (∃ num marked,
      text.signed neg (ofScaled n scale) = (if neg then "-" else "") ++ num.spelled marked ∧
      readSigned? (text.signed neg (ofScaled n scale)) = some (neg, num) ∧
      num.value = n * 10 ^ scale ∧
      (marked = true ↔ n ≠ 0 ∧
        ((n : ℚ) * 10 ^ scale < 10 ^ (-4 : Int) ∨ 10 ^ (6 : Int) ≤ (n : ℚ) * 10 ^ scale)) ∧
      (marked = true → num.whole.length = 1 ∧ num.whole ≠ [0]) ∧
      (marked = false → num.exponent = 0) ∧
      num.whole ≠ [] ∧ num.fraction.getLast? ≠ some 0) ∧
    (∀ neg' n' scale', text.signed neg' (ofScaled n' scale') = text.signed neg (ofScaled n scale) ↔
      neg' = neg ∧ (n' : ℚ) * 10 ^ scale' = n * 10 ^ scale) ∧
    text.signed neg (ofScaled n scale) ∉ ["NaN", "+Inf", "-Inf"] ∧
    ∀ x m e, Binary64.decode x = .finite neg m e →
      ∃ n' scale', (Value.float x).text = text.signed neg (ofScaled n' scale') := by
  have hread (neg : Bool) (n : Nat) (scale : Int) := (ofScaled_normal n scale).readSigned neg
  have hvalue (n : Nat) (scale : Int) : (ofScaled n scale).numeral.value = n * 10 ^ scale :=
    (ofScaled_normal n scale).laid.value.trans (ofScaled_value n scale)
  refine ⟨?_, fun neg' n' scale' => ⟨fun h => ?_, ?_⟩, fun h => ?_, fun x m e hx => ?_⟩
  · have hnormal := ofScaled_normal n scale
    have hlaid := hnormal.laid
    refine ⟨(ofScaled n scale).numeral, (ofScaled n scale).marked, ?_, hread neg n scale,
      hvalue n scale, ?_, hlaid.first, hlaid.exponent, hlaid.whole, hlaid.last⟩
    · rw [← magnitude_eq hnormal.ne_nil]
      rfl
    · have hzero : (n : ℚ) * 10 ^ scale ≠ 0 ↔ n ≠ 0 := by
        rw [mul_ne_zero_iff, Nat.cast_ne_zero, and_iff_left (zpow_ne_zero _ (by norm_num))]
      rw [hnormal.marked_iff, ofScaled_value, hzero]
  · have heq := (hread neg' n' scale').symm.trans
      ((congrArg readSigned? h).trans (hread neg n scale))
    obtain ⟨rfl, hnum⟩ := Prod.mk.inj (Option.some.inj heq)
    refine ⟨rfl, ?_⟩
    rw [← hvalue, hnum, hvalue]
  · rintro ⟨rfl, heq⟩
    rw [ofScaled_eq heq]
  · -- a name is not read as a number
    have hnone : ∀ s ∈ ["NaN", "+Inf", "-Inf"], readSigned? s = none := by decide
    have := hnone _ h
    rw [hread] at this
    exact nomatch this
  · obtain ⟨n', scale', hshortest⟩ := exists_shortest_eq m e
    refine ⟨n', scale', ?_⟩
    show text.render x = _
    unfold Layout.render
    rw [hx, ← hshortest]

example : text.signed true (ofScaled 1500 (-10)) = "-1.5E-07" := by decide +kernel

end Decimal
end Wdl
