import Wdl.Proofs.Expr.Direct
import Wdl.Proofs.Expr.Parts

/-!
Running compiled items.

`Yields items vs` says that items, run on any stack, put the values `vs` on it, or fail as `vs`
does. It is closed under putting items one after another and under applying an operator or a
function to all of the values, so what compiled code computes can be put together like the code
itself.
-/

namespace Wdl

/-! ## Outcomes -/

theorem outcome_bind {α β : Type} (x : Except Fault α) (g : α → Except Fault β) :
    outcome (x >>= g) = outcome x >>= fun a => outcome (g a) := by
  cases x <;> rfl

theorem outcome_mapError {α : Type} (x : Except Failure α) (site : Option Site) :
    outcome (x.mapError (Fault.ofFailure site)) = x.mapError .failure := by
  cases x <;> rfl

/-- A lookup of names that gives given outcomes, wherever the names stand. -/
def Lookup.Agrees (lookup : Lookup) (resolve : String → Outcome Value) : Prop :=
  ∀ site name, outcome (lookup site name) = resolve name

/-- The outcomes of names with given values, some of which take precedence. -/
def Bindings.resolve (inputs env : Bindings) (name : String) : Outcome Value :=
  match inputs.lookup name, env.lookup name with
  | some v, _ => .ok v
  | none, some v => .ok v
  | none, none => .error (.problem (.unknownIdentifier name))

theorem Lookup.ofBindings_agrees (inputs env : Bindings) :
    (Lookup.ofBindings inputs env).Agrees (inputs.resolve env) := by
  intro site name
  unfold Lookup.ofBindings Bindings.resolve
  cases inputs.lookup name with
  | some v => rfl
  | none => cases env.lookup name <;> rfl

/-! ## Items -/

namespace Item

theorem runAll_append (lookup : Lookup) (site : Option Site) (is js : List Item)
    (stack : List Value) :
    runAll lookup site (is ++ js) stack =
      runAll lookup site is stack >>= runAll lookup site js := by
  induction is generalizing stack with
  | nil => rfl
  | cons i is ih =>
    rw [List.cons_append, runAll, runAll]
    cases run lookup site i stack with
    | error e => rfl
    | ok stack => exact ih stack

end Item

/-- The values that depend on the outcomes of names. -/
abbrev Meaning (α : Type) := (String → Outcome Value) → Outcome α

/-- The items put values on the stack, or fail. -/
def Yields (items : List Item) (vs : Meaning (List Value)) : Prop :=
  ∀ lookup resolve, Lookup.Agrees lookup resolve → ∀ site stack,
    outcome (Item.runAll lookup site items stack) = (vs resolve).map fun vs => vs.reverse ++ stack

/-- The items put one value on the stack, or fail. -/
def YieldsOne (items : List Item) (v : Meaning Value) : Prop :=
  Yields items fun resolve => (v resolve).map fun v => [v]

theorem YieldsOne.run {items : List Item} {v : Meaning Value} (h : YieldsOne items v)
    {lookup : Lookup} {resolve : String → Outcome Value} (hl : lookup.Agrees resolve)
    (site : Option Site) (stack : List Value) :
    outcome (Item.runAll lookup site items stack) = (v resolve).map (· :: stack) := by
  refine (h lookup resolve hl site stack).trans ?_
  dsimp only
  cases v resolve <;> rfl

theorem YieldsOne.congr {items : List Item} {v w : Meaning Value} (h : YieldsOne items v)
    (heq : ∀ resolve, v resolve = w resolve) : YieldsOne items w := by
  rw [← funext heq]
  exact h

namespace Yields

variable {is js : List Item} {vs ws : Meaning (List Value)}

theorem nil : Yields [] fun _ => .ok [] := by
  intro lookup resolve _ site stack
  rfl

theorem append (his : Yields is vs) (hjs : Yields js ws) :
    Yields (is ++ js) fun resolve =>
      vs resolve >>= fun a => ws resolve >>= fun b => .ok (a ++ b) := by
  intro lookup resolve hl site stack
  dsimp only
  rw [Item.runAll_append, outcome_bind, his lookup resolve hl]
  cases vs resolve with
  | error e => rfl
  | ok a =>
    change outcome (Item.runAll lookup site js (a.reverse ++ stack)) = _
    rw [hjs lookup resolve hl]
    cases ws resolve with
    | error e => rfl
    | ok b => simp [Except.map, bind, Except.bind]

theorem congr (h : Yields is vs) (heq : ∀ resolve, vs resolve = ws resolve) : Yields is ws := by
  rw [← funext heq]
  exact h

theorem literal (v : Value) : Yields [.literal v] fun _ => .ok [v] := by
  intro lookup resolve _ site stack
  rfl

theorem name (n : String) : YieldsOne [.name n] fun resolve => resolve n := by
  intro lookup resolve hl site stack
  change _ = ((resolve n).map fun v => [v]).map _
  rw [Item.runAll, Item.run, ← hl site n]
  cases lookup site n <;> rfl

/-- Taking operands from the top of the stack gives the values that were put there last. -/
theorem takeOperands_reverse (site : Option Site) (what : String) (args stack : List Value) :
    takeOperands site what args.length (args.reverse ++ stack) = .ok (args, stack) := by
  unfold takeOperands
  rw [if_neg (by simp), ← List.length_reverse, List.take_left, List.drop_left,
    List.reverse_reverse]

theorem operator (h : Yields is vs) {op : Operator}
    (hlen : ∀ resolve a, vs resolve = .ok a → a.length = op.arity) :
    YieldsOne (is ++ [.operator op]) fun resolve => vs resolve >>= op.outcome := by
  intro lookup resolve hl site stack
  dsimp only
  rw [Item.runAll_append, outcome_bind, h lookup resolve hl]
  cases hvs : vs resolve with
  | error e => rfl
  | ok a =>
    change outcome (Item.runAll lookup site [.operator op] (a.reverse ++ stack)) =
      ((op.outcome a).map fun v => [v]).map _
    rw [Item.runAll, Item.run, ← hlen resolve a hvs, takeOperands_reverse, Operator.outcome]
    cases hop : Library.operator op a with
    | error e =>
      simp only [bind, Except.bind, hop]
      rfl
    | ok v =>
      simp only [bind, Except.bind, hop]
      rfl

theorem apply (h : Yields is vs) {function : String} {n : Nat}
    (hlen : ∀ resolve a, vs resolve = .ok a → a.length = n) :
    YieldsOne (is ++ [.apply function n]) fun resolve =>
      vs resolve >>= Library.outcome function := by
  intro lookup resolve hl site stack
  dsimp only
  rw [Item.runAll_append, outcome_bind, h lookup resolve hl]
  cases hvs : vs resolve with
  | error e => rfl
  | ok a =>
    change outcome (Item.runAll lookup site [.apply function n] (a.reverse ++ stack)) =
      ((Library.outcome function a).map fun v => [v]).map _
    rw [Item.runAll, Item.run, Library.outcome]
    cases Library.Function.ofName? function with
    | none => rfl
    | some g =>
      dsimp only
      rw [← hlen resolve a hvs, takeOperands_reverse]
      cases hcall : g.call a with
      | error e =>
        simp only [bind, Except.bind, hcall]
        rfl
      | ok v =>
        simp only [bind, Except.bind, hcall]
        rfl

end Yields

namespace YieldsOne

variable {is js : List Item} {v w : Meaning Value}

/-- Two values, one after the other. -/
theorem two (hv : YieldsOne is v) (hw : YieldsOne js w) :
    Yields (is ++ js) fun resolve =>
      v resolve >>= fun a => w resolve >>= fun b => .ok [a, b] := by
  refine (Yields.append hv hw).congr fun resolve => ?_
  cases v resolve with
  | error cause => rfl
  | ok a => cases w resolve <;> rfl

theorem unary (hv : YieldsOne is v) {op : Operator} (hop : op.arity = 1) :
    YieldsOne (is ++ [.operator op]) fun resolve =>
      v resolve >>= fun a => op.outcome [a] := by
  refine (Yields.operator hv fun resolve a ha => ?_).congr fun resolve => ?_
  · cases hres : v resolve with
    | error cause =>
      rw [hres] at ha
      cases ha
    | ok x =>
      rw [hres] at ha
      rw [← Except.ok.inj ha, hop]
      rfl
  · cases v resolve <;> rfl

theorem binary (hv : YieldsOne is v) (hw : YieldsOne js w) (op : BinaryOp) :
    YieldsOne (is ++ js ++ [.operator (.binary op)]) fun resolve =>
      v resolve >>= fun a => w resolve >>= fun b => (Operator.binary op).outcome [a, b] := by
  refine (Yields.operator (hv.two hw) fun resolve a ha => ?_).congr fun resolve => ?_
  · cases hv : v resolve with
    | error cause =>
      rw [hv] at ha
      cases ha
    | ok x =>
      cases hw : w resolve with
      | error cause =>
        rw [hv, hw] at ha
        cases ha
      | ok y =>
        rw [hv, hw] at ha
        rw [← Except.ok.inj ha]
        rfl
  · cases v resolve with
    | error cause => rfl
    | ok a => cases w resolve <;> rfl

end YieldsOne

/-! ## Expressions -/

/-- The outcome of an expression. -/
def Expr.Means (e : Expr) (v : Meaning Value) : Prop :=
  ∀ lookup resolve, Lookup.Agrees lookup resolve → outcome (e.evaluate lookup) = v resolve

/-- An expression has the value that its items leave, after its options. -/
theorem YieldsOne.means {items : List Item} {v : Meaning Value} (h : YieldsOne items v)
    (info : ExprInfo) :
    Expr.Means ⟨info, items⟩ fun resolve =>
      v resolve >>= fun a => (applyOptions info.options a).mapError .failure := by
  intro lookup resolve hl
  dsimp only
  have hrun := h.run hl (some (.expression ⟨info, items⟩)) []
  unfold Expr.evaluate conclude
  cases hitems : Item.runAll lookup (some (.expression ⟨info, items⟩)) items [] with
  | error fault =>
    rw [hitems] at hrun
    cases hv : v resolve with
    | error cause =>
      rw [hv] at hrun
      change Except.error (fault.orAt _).cause = Except.error cause
      rw [Fault.cause_orAt, Except.error.inj hrun]
    | ok a =>
      rw [hv] at hrun
      cases hrun
  | ok stack =>
    rw [hitems] at hrun
    cases hv : v resolve with
    | error cause =>
      rw [hv] at hrun
      cases hrun
    | ok a =>
      rw [hv] at hrun
      have hstack : stack = [a] := Except.ok.inj hrun
      rw [hstack]
      exact outcome_mapError _ none

/-- An expression is an item that has its value. -/
theorem Expr.Means.yields {e : Expr} {v : Meaning Value} (h : e.Means v) :
    YieldsOne [e.toItem] v := by
  intro lookup resolve hl site stack
  change outcome ((e.evaluate lookup >>= fun w => .ok (w :: stack)) >>= .ok) =
    ((v resolve).map fun v => [v]).map _
  rw [← h lookup resolve hl]
  cases e.evaluate lookup <;> rfl

end Wdl
