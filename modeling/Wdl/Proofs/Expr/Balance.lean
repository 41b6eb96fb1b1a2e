import Wdl.Proofs.Expr.Parts

/-!
The arity scan.

`Item.scan` runs items with the height of the stack in place of the stack.  An expression is
balanced if the scan of its items never needs more than there is and ends with one value, and the
same holds of the expressions nested in it.  Evaluation of a balanced expression, whatever names
stand for, never finds it malformed and never gives an operator the wrong number of operands.  Only
a balanced expression has a value: whatever goes wrong in an evaluation ends it, so one that comes
to its end has met everything that the scan asks for.
-/

namespace Wdl
namespace Item

/-- The height of the stack after items are run; none if an operand is missing. -/
def scan : Nat → List Item → Option Nat
  | n, [] => some n
  | n, .literal _ :: is => scan (n + 1) is
  | n, .name _ :: is => scan (n + 1) is
  | n, .nested _ _ :: is => scan (n + 1) is
  | n, .operator op :: is => if op.arity ≤ n then scan (n - op.arity + 1) is else none
  | n, .apply _ arity :: is => if arity ≤ n then scan (n - arity + 1) is else none
  | _, .invalid _ :: _ => none

mutual

/-- Whether an item, if it is an expression, leaves one value, as do those nested in it. -/
def isBalanced : Item → Bool
  | .nested _ items => scan 0 items == some 1 && allBalanced items
  | _ => true

def allBalanced : List Item → Bool
  | [] => true
  | i :: is => isBalanced i && allBalanced is

end

theorem scan_append (n : Nat) (is js : List Item) :
    scan n (is ++ js) = (scan n is).bind fun m => scan m js := by
  induction is generalizing n with
  | nil => rfl
  | cons i is ih =>
    cases i with
    | literal v => exact ih (n + 1)
    | name s => exact ih (n + 1)
    | nested info items => exact ih (n + 1)
    | operator op =>
      rw [List.cons_append, scan, scan]
      split
      · exact ih _
      · rfl
    | apply f arity =>
      rw [List.cons_append, scan, scan]
      split
      · exact ih _
      · rfl
    | invalid s => rfl

theorem allBalanced_append (is js : List Item) :
    allBalanced (is ++ js) = (allBalanced is && allBalanced js) := by
  induction is with
  | nil => rfl
  | cons i is ih => rw [List.cons_append, allBalanced, allBalanced, ih, Bool.and_assoc]

end Item

/-- The items take `m` values from the stack and put `n` on it. -/
structure Moves (m n : Nat) (items : List Item) : Prop where
  scan : ∀ k, Item.scan (k + m) items = some (k + n)
  balanced : Item.allBalanced items = true

namespace Moves

variable {l m n : Nat} {is js : List Item}

theorem nil (n : Nat) : Moves n n [] := ⟨fun _ => rfl, rfl⟩

theorem append (his : Moves l m is) (hjs : Moves m n js) : Moves l n (is ++ js) where
  scan k := by rw [Item.scan_append, his.scan k, Option.bind_some, hjs.scan k]
  balanced := by rw [Item.allBalanced_append, his.balanced, hjs.balanced]; rfl

/-- What is below on the stack does not matter. -/
theorem above (h : Moves m n is) (d : Nat) : Moves (d + m) (d + n) is where
  scan k := by rw [← Nat.add_assoc, h.scan, Nat.add_assoc]
  balanced := h.balanced

/-- Items that put values on the stack, one after another. -/
theorem add (his : Moves 0 m is) (hjs : Moves 0 n js) : Moves 0 (m + n) (is ++ js) :=
  his.append (hjs.above m)

theorem literal (v : Value) : Moves 0 1 [.literal v] := ⟨fun _ => rfl, rfl⟩

theorem name (s : String) : Moves 0 1 [.name s] := ⟨fun _ => rfl, rfl⟩

theorem operator (op : Operator) : Moves op.arity 1 [.operator op] where
  scan k := by simp [Item.scan]
  balanced := rfl

theorem apply (function : String) (arity : Nat) : Moves arity 1 [.apply function arity] where
  scan k := by simp [Item.scan]
  balanced := rfl

end Moves

/-- Whether an expression and those nested in it leave one value each. -/
def Expr.isBalanced (e : Expr) : Bool :=
  e.toItem.isBalanced

theorem Expr.isBalanced_iff {e : Expr} :
    e.isBalanced = true ↔ Item.scan 0 e.items = some 1 ∧ Item.allBalanced e.items = true := by
  simp [Expr.isBalanced, Expr.toItem, Item.isBalanced]

theorem Moves.isBalanced {items : List Item} (h : Moves 0 1 items) (info : ExprInfo) :
    Expr.isBalanced ⟨info, items⟩ = true :=
  Expr.isBalanced_iff.mpr ⟨h.scan 0, h.balanced⟩

theorem Moves.nested {e : Expr} (h : e.isBalanced = true) : Moves 0 1 [e.toItem] where
  scan _ := rfl
  balanced := by rw [Item.allBalanced, Item.allBalanced, Bool.and_true]; exact h

/-! ## Evaluation -/

/-- The causes of expressions that are not well formed. -/
def Cause.isStructural : Cause → Bool
  | .failure f => f.isStructural
  | .problem _ => false

/-- A computation that does not find an expression malformed. -/
def Sound {α : Type} (P : α → Prop) : Except Fault α → Prop
  | .ok a => P a
  | .error fault => fault.cause.isStructural = false

namespace Sound

variable {α β : Type} {P : α → Prop} {Q : β → Prop}

theorem bind {x : Except Fault α} {g : α → Except Fault β} (hx : Sound P x)
    (hg : ∀ a, P a → Sound Q (g a)) : Sound Q (x >>= g) := by
  cases x with
  | error fault => exact hx
  | ok a => exact hg a hx

theorem of_regular {x : Except Failure α} (hx : Regular x) (site : Option Site) :
    Sound (fun _ => True) (x.mapError (Fault.ofFailure site)) := by
  cases x with
  | error f => exact Failure.not_structural (hx f rfl)
  | ok a => trivial

end Sound

/-- A lookup that does not find an expression malformed. -/
def Lookup.IsSound (lookup : Lookup) : Prop :=
  ∀ site name, Sound (fun _ => True) (lookup site name)

theorem Lookup.ofBindings_isSound (inputs env : Bindings) :
    (Lookup.ofBindings inputs env).IsSound := by
  intro site name
  unfold Lookup.ofBindings
  split
  · trivial
  · split
    · trivial
    · rfl

theorem takeOperands_sound (site : Option Site) (what : String) {n : Nat} {stack : List Value}
    (h : n ≤ stack.length) :
    Sound (fun x => x.1.length = n ∧ x.2.length = stack.length - n)
      (takeOperands site what n stack) := by
  unfold takeOperands
  rw [if_neg (Nat.not_lt.mpr h)]
  exact ⟨by simp [h], List.length_drop⟩

/-- An expression whose items leave one value has one. -/
theorem conclude_sound (e : Expr) {x : Except Fault (List Value)}
    (h : Sound (fun s => s.length = 1) x) : Sound (fun _ => True) (conclude e x) := by
  cases x with
  | error fault =>
    change (fault.orAt (.expression e)).cause.isStructural = false
    unfold Fault.orAt
    split <;> exact h
  | ok stack =>
    obtain ⟨v, rfl⟩ := List.length_eq_one_iff.mp h
    exact .of_regular (applyOptions_regular e.info.options v) none

section Evaluation

variable {lookup : Lookup}

mutual

/-- An item has the effect on the stack that the scan says. -/
theorem run_sound (hl : lookup.IsSound) (site : Option Site) : (i : Item) → (stack : List Value) →
    {n : Nat} → i.isBalanced = true → Item.scan stack.length [i] = some n →
      Sound (fun s => s.length = n) (Item.run lookup site i stack)
  | .literal v, stack, n, _, hs => Option.some.inj hs
  | .name s, stack, n, _, hs => (hl site s).bind fun _ _ => Option.some.inj hs
  | .operator op, stack, n, _, hs => by
    rw [Item.scan] at hs
    split at hs
    · next harity =>
      refine (takeOperands_sound site op.name harity).bind fun x hx => ?_
      refine (Sound.of_regular (Library.operator_regular op hx.1) site).bind fun v _ => ?_
      rw [← Option.some.inj hs]
      exact congrArg Nat.succ hx.2
    · cases hs
  | .apply f arity, stack, n, _, hs => by
    rw [Item.scan] at hs
    split at hs
    · next harity =>
      rw [Item.run]
      split
      · rfl
      · next function _ =>
        refine (takeOperands_sound site f harity).bind fun x hx => ?_
        refine (Sound.of_regular (Library.call_regular function x.1) site).bind fun v _ => ?_
        rw [← Option.some.inj hs]
        exact congrArg Nat.succ hx.2
    · cases hs
  | .nested info items, stack, n, hb, hs => by
    rw [Item.isBalanced, Bool.and_eq_true, beq_iff_eq] at hb
    refine (conclude_sound _ (runAll_sound hl _ items [] hb.2 hb.1)).bind fun v _ => ?_
    exact Option.some.inj hs
  | .invalid s, stack, n, _, hs => by cases hs

theorem runAll_sound (hl : lookup.IsSound) (site : Option Site) :
    (is : List Item) → (stack : List Value) → {n : Nat} →
    Item.allBalanced is = true → Item.scan stack.length is = some n →
      Sound (fun s => s.length = n) (Item.runAll lookup site is stack)
  | [], stack, n, _, hs => Option.some.inj hs
  | i :: is, stack, n, hb, hs => by
    rw [Item.allBalanced, Bool.and_eq_true] at hb
    rw [← List.singleton_append, Item.scan_append] at hs
    obtain ⟨m, hi, his⟩ := Option.bind_eq_some_iff.mp hs
    refine (run_sound hl site i stack hb.1 hi).bind fun s hlen => ?_
    exact runAll_sound hl site is s hb.2 (by rw [hlen]; exact his)

end

/-- The evaluation of a balanced expression does not find it malformed. -/
theorem Expr.evaluate_sound (hl : lookup.IsSound) {e : Expr} (h : e.isBalanced = true) :
    Sound (fun _ => True) (e.evaluate lookup) := by
  obtain ⟨hscan, hnested⟩ := Expr.isBalanced_iff.mp h
  exact conclude_sound e (runAll_sound hl _ e.items [] hnested hscan)

end Evaluation

/-! ## Expressions that have a value -/

namespace Item

/-- Whether items leave one value, as do the expressions nested in them. -/
def isWellFormed (items : List Item) : Bool :=
  scan 0 items == some 1 && allBalanced items

theorem isWellFormed_iff {items : List Item} :
    isWellFormed items = true ↔ scan 0 items = some 1 ∧ allBalanced items = true := by
  rw [isWellFormed, Bool.and_eq_true, beq_iff_eq]

theorem scan_cons {n m : Nat} {i : Item} {is : List Item} (h : scan n (i :: is) = some m) :
    ∃ k, scan n [i] = some k ∧ scan k is = some m := by
  rw [← List.singleton_append, scan_append] at h
  exact Option.bind_eq_some_iff.mp h

mutual

/-- The scan ends at what no expression may hold, so there is no such item at any level. -/
theorem not_mem_parts_invalid {n m : Nat} (s : String) : (i : Item) → scan n [i] = some m →
    i.isBalanced = true → .invalid s ∉ i.parts
  | .nested info items, _, hbalanced => by
    rw [isBalanced, Bool.and_eq_true, beq_iff_eq] at hbalanced
    rw [parts, List.mem_cons]
    rintro (h | h)
    · cases h
    · exact not_mem_partsOf_invalid s items hbalanced.1 hbalanced.2 h
  | .invalid _, hscan, _ => nomatch hscan
  | .literal _, _, _ | .name _, _, _ | .operator _, _, _ | .apply _ _, _, _ => by simp [parts]

theorem not_mem_partsOf_invalid {n m : Nat} (s : String) : (is : List Item) →
    scan n is = some m → allBalanced is = true → .invalid s ∉ partsOf is
  | [], _, _ => List.not_mem_nil
  | i :: is, hscan, hbalanced => by
    obtain ⟨k, hi, his⟩ := scan_cons hscan
    rw [allBalanced, Bool.and_eq_true] at hbalanced
    rw [partsOf, List.mem_append]
    rintro (h | h)
    · exact not_mem_parts_invalid s i hi hbalanced.1 h
    · exact not_mem_partsOf_invalid s is his hbalanced.2 h

end

end Item

/-- A computation that gives nothing but what has a property. -/
abbrev Ensures {α : Type} (P : α → Prop) (x : Except Fault α) : Prop :=
  Meets P (fun _ => True) x

theorem ensures_iff {α : Type} {P : α → Prop} {x : Except Fault α} :
    Ensures P x ↔ ∀ a, x = .ok a → P a := by
  cases x <;> simp [Meets]

theorem Ensures.any {α : Type} (x : Except Fault α) : Ensures (fun _ => True) x := by
  cases x <;> trivial

theorem takeOperands_ensures (site : Option Site) (what : String) (n : Nat)
    (stack : List Value) :
    Ensures (fun x => n ≤ stack.length ∧ x.2.length = stack.length - n)
      (takeOperands site what n stack) := by
  unfold takeOperands
  split
  · trivial
  · next h => exact ⟨Nat.le_of_not_lt h, List.length_drop⟩

theorem single_ensures (site : Option Site) (stack : List Value) :
    Ensures (fun _ => stack.length = 1) (single site stack) := by
  unfold single
  split
  · rfl
  · trivial

theorem conclude_ensures (e : Expr) {P : List Value → Prop} {x : Except Fault (List Value)}
    (h : Ensures P x) : Ensures (fun _ => ∃ s, P s ∧ s.length = 1) (conclude e x) := by
  have hone : Ensures (fun _ => ∃ s, P s ∧ s.length = 1) (x.bind (single (some (.expression e)))) :=
    h.bind fun s hs => ensures_iff.mpr fun v hv => ⟨s, hs, ensures_iff.mp (single_ensures _ s) v hv⟩
  unfold conclude
  split
  · trivial
  · next v hv => exact ensures_iff.mpr fun _ _ => ensures_iff.mp hone v hv

section Values

variable (lookup : Lookup)

mutual

/-- An item that is run to its end has passed the scan. -/
theorem run_scanned (site : Option Site) : (i : Item) → (stack : List Value) →
    Ensures (fun s => Item.scan stack.length [i] = some s.length ∧ i.isBalanced = true)
      (Item.run lookup site i stack)
  | .literal v, stack => ⟨rfl, rfl⟩
  | .name s, stack => (Ensures.any (lookup site s)).bind fun _ _ => ⟨rfl, rfl⟩
  | .operator op, stack => by
    refine (takeOperands_ensures site op.name op.arity stack).bind fun x hx => ?_
    refine (Ensures.any _).bind fun v _ => ⟨?_, rfl⟩
    rw [Item.scan, if_pos hx.1, Item.scan, List.length_cons, hx.2]
  | .apply f arity, stack => by
    rw [Item.run]
    split
    · trivial
    · refine (takeOperands_ensures site f arity stack).bind fun x hx => ?_
      refine (Ensures.any _).bind fun v _ => ⟨?_, rfl⟩
      rw [Item.scan, if_pos hx.1, Item.scan, List.length_cons, hx.2]
  | .nested info items, stack => by
    refine (conclude_ensures _ (runAll_scanned _ items [])).bind fun v hv => ?_
    obtain ⟨s, ⟨hscan, hbalanced⟩, hlen⟩ := hv
    rw [hlen] at hscan
    exact ⟨rfl, Item.isWellFormed_iff.mpr ⟨hscan, hbalanced⟩⟩
  | .invalid s, stack => trivial

theorem runAll_scanned (site : Option Site) : (is : List Item) → (stack : List Value) →
    Ensures (fun s => Item.scan stack.length is = some s.length ∧ Item.allBalanced is = true)
      (Item.runAll lookup site is stack)
  | [], stack => ⟨rfl, rfl⟩
  | i :: is, stack => by
    refine (run_scanned site i stack).bind fun s hs => ensures_iff.mpr fun s' h => ?_
    obtain ⟨hscan, hbalanced⟩ := ensures_iff.mp (runAll_scanned site is s) s' h
    constructor
    · rw [← List.singleton_append, Item.scan_append, hs.1, Option.bind_some, hscan]
    · rw [Item.allBalanced, hs.2, hbalanced, Bool.and_true]

end

end Values

/-- Items with a value have passed the scan at every level, and items that pass it are not
malformed: what is wrong with them, if anything, are the names and the values. -/
theorem evaluate_malformed (inputs env : Bindings) (items : List Item) :
    (Item.isWellFormed items = true → ∀ site m,
      Item.evaluate (.ofBindings inputs env) items ≠
        .error (.ofFailure site (.malformed m))) ∧
    ((∃ v, Item.evaluate (.ofBindings inputs env) items = .ok v) →
      Item.isWellFormed items = true ∧ ∀ s, .invalid s ∉ Item.partsOf items) := by
  constructor
  · intro hitems site m h
    obtain ⟨hscan, hbalanced⟩ := Item.isWellFormed_iff.mp hitems
    have hsound : Sound (fun _ => True) (Item.evaluate (.ofBindings inputs env) items) := by
      refine (runAll_sound (Lookup.ofBindings_isSound inputs env) none items [] hbalanced
        hscan).bind fun s hs => ?_
      obtain ⟨v, rfl⟩ := List.length_eq_one_iff.mp hs
      trivial
    rw [h] at hsound
    exact nomatch hsound
  · rintro ⟨v, hv⟩
    have hend : Ensures (fun _ => Item.scan 0 items = some 1 ∧ Item.allBalanced items = true)
        (Item.evaluate (.ofBindings inputs env) items) := by
      refine (runAll_scanned _ none items []).bind fun s hs => ensures_iff.mpr fun v hv => ?_
      rwa [ensures_iff.mp (single_ensures none s) v hv] at hs
    obtain ⟨hscan, hbalanced⟩ := ensures_iff.mp hend v hv
    exact ⟨Item.isWellFormed_iff.mpr ⟨hscan, hbalanced⟩,
      fun s => Item.not_mem_partsOf_invalid s items hscan hbalanced⟩

theorem evaluate_malformed_nested :
    Item.isWellFormed [.nested ⟨⟨0, 5⟩, none, [], none⟩
      [.name "x", .literal (.int 1), .operator (.binary .add)], .operator .neg] = true :=
  ((evaluate_malformed [] [("x", .int 1)] _).2 ⟨.int (-2), rfl⟩).1

end Wdl
