import Wdl.Proofs.Compile.Job
import Wdl.Proofs.Expr.Running
import Wdl.Proofs.Grammar.Phrase

/-!
What phrases compile to.

`Compiles f t js es` is the specification of a compiled phrase `t`: the items `js` that it puts into
the expression around it compute what direct evaluation of `t` gives, and so do the expressions `es`
that it leaves waiting.  It is stated for each form by itself, since the forms leave different
things on the stack: a term one value, an entry two, and an interpolation extends the string that is
there.

This module has the lemmas about `Compiles` that do not mention the builder.
-/

namespace Wdl

/-- The expression has the value of a tree. -/
structure Expr.Renders (e : Expr) (t : Tree) : Prop where
  options : e.info.options = []
  yields : YieldsOne e.items fun resolve => t.value resolve
  moves : Moves 0 1 e.items

/-- The items compute the value of a term.  Names are told apart, because a member of a name changes
the name itself. -/
structure Renders (items : List Item) (t : Tree) : Prop where
  yields : YieldsOne items fun resolve => t.value resolve
  moves : Moves 0 1 items
  name : ∀ n, t.dotted? = some n → items = [.name n]
  noName : Builder.isName t = true → t.dotted? = none → ∀ n, items.getLast? ≠ some (.name n)

/-- The items add a text to the string on top of the stack. -/
structure Lengthens (items : List Item) (text : Meaning String) : Prop where
  runs : ∀ lookup resolve, Lookup.Agrees lookup resolve → ∀ site s stack,
    outcome (Item.runAll lookup site items (.string s :: stack)) =
      (text resolve).map fun u => .string (s ++ u) :: stack
  moves : Moves 1 1 items

def Compiles : Form → Tree → List Item → List Expr → Prop
  | .expr, t, js, es => js = [] ∧ ∃ e, es = [e] ∧ e.Renders t
  | .operand, t, js, es => js = [] ∧ ∃ e, es = [e] ∧ e.Renders t
  | .term, t, js, es => es = [] ∧ Renders js t
  | .mapEntry, t, js, es => es = [] ∧ Yields js (fun r => Tree.values r [t]) ∧ Moves 0 2 js
  | .objectEntry, t, js, es => es = [] ∧ Yields js (fun r => Tree.values r [t]) ∧ Moves 0 2 js
  | .fragment, t, js, es => es = [] ∧ js = [.literal (.string t.tokenText)]
  | .exprPart, t, js, es => es = [] ∧ Moves 0 1 js ∧ ∃ extent x,
    t = .node .stringExprPart extent [x] ∧
      YieldsOne js fun resolve => (x.value resolve).map fun v => .string v.text
  | .interpolation, t, js, es => es = [] ∧ Lengthens js fun r => Tree.text r [t]
  | .placeholder, t, js, es => js = [] ∧ ∃ e, es = [e] ∧ e.isBalanced = true ∧
    e.Means fun resolve => t.value resolve
  | .literal, _, js, es => js = [] ∧ es = []
  | .placeholderOption, _, js, es => js = [] ∧ es = []
  | .optionValue, _, js, es => js = [] ∧ es = []

/-- What phrases one after another compile to. -/
def CompilesAll : List (Form × Tree) → List Item → List Expr → Prop
  | [], js, es => js = [] ∧ es = []
  | (f, t) :: rest, js, es => ∃ js₁ es₁ js₂ es₂, Compiles f t js₁ es₁ ∧
    CompilesAll rest js₂ es₂ ∧ js = js₁ ++ js₂ ∧ es = es₁ ++ es₂

/-- Phrases of one form. -/
def allOf (f : Form) (ts : List Tree) : List (Form × Tree) :=
  ts.map fun t => (f, t)

/-! ## Values -/

theorem Expr.Renders.isBalanced {e : Expr} {t : Tree} (h : e.Renders t) : e.isBalanced = true :=
  Moves.isBalanced h.moves e.info

theorem applyOptions_nil (v : Value) : applyOptions [] v = .ok v := by
  unfold applyOptions
  split <;> rfl

theorem Expr.Renders.means {e : Expr} {t : Tree} (h : e.Renders t) :
    e.Means fun resolve => t.value resolve := by
  intro lookup resolve hl
  refine (YieldsOne.means h.yields e.info lookup resolve hl).trans ?_
  rw [h.options]
  dsimp only
  cases t.value resolve with
  | error cause => rfl
  | ok v =>
    change (applyOptions [] v).mapError Cause.failure = _
    rw [applyOptions_nil]
    rfl

namespace Tree

variable (resolve : String → Outcome Value)

/-- The values of operands are those of the first and those of the others. -/
theorem values_cons {f : Form} {t : Tree} (h : Phrase f t) (ts : List Tree) :
    values resolve (t :: ts) =
      values resolve [t] >>= fun a => values resolve ts >>= fun b => .ok (a ++ b) := by
  have hone (x : Outcome Value) (y : Outcome (List Value)) :
      (x >>= fun v => y >>= fun vs => .ok (v :: vs)) =
        (x >>= fun v => (.ok [] : Outcome (List Value)) >>= fun vs => .ok (v :: vs)) >>=
          fun a => y >>= fun b => .ok (a ++ b) := by
    cases x <;> rfl
  cases h
  case mapEntry e x y hx hy =>
    rw [values, values, values]
    cases x.value resolve with
    | error cause => rfl
    | ok v => cases y.value resolve <;> rfl
  case nameEntry =>
    rw [values, values, values]
    cases value resolve _ <;> rfl
  case literalEntry =>
    rw [values, values, values]
    cases value resolve _ <;> rfl
  all_goals exact hone _ _

theorem values_one {f : Form} {t : Tree} (h : Phrase f t) (hf : f = .expr ∨ f = .term) :
    values resolve [t] = (t.value resolve).map fun v => [v] := by
  have hone : (t.value resolve >>= fun v =>
      (.ok [] : Outcome (List Value)) >>= fun vs => .ok (v :: vs)) =
        (t.value resolve).map fun v => [v] := by
    cases t.value resolve <;> rfl
  rcases hf with rfl | rfl <;> cases h <;> exact hone

/-- The text of an interpolation comes before that of what follows. -/
theorem text_cons {t : Tree} (h : Phrase .interpolation t) (ts : List Tree) :
    text resolve (t :: ts) =
      text resolve [t] >>= fun a => text resolve ts >>= fun b => .ok (a ++ b) := by
  cases h with
  | interpolation hx hy =>
    cases hx with
    | exprPart hp =>
      rw [text, text, text]
      cases value resolve _ with
      | error cause => rfl
      | ok v =>
        cases text resolve ts with
        | error cause => rfl
        | ok s => simp [bind, Except.bind, String.append_assoc]

/-- The closing quote adds nothing to the text of a string. -/
theorem text_append_token {ts : List Tree} (h : ∀ t ∈ ts, Phrase .interpolation t) (k : Token) :
    text resolve (ts ++ [.token k]) = text resolve ts := by
  induction ts with
  | nil => rfl
  | cons t ts ih =>
    obtain ⟨ht, hts⟩ := List.forall_mem_cons.mp h
    rw [List.cons_append, text_cons resolve ht (ts ++ _), text_cons resolve ht ts, ih hts]

end Tree

/-! ## Terms -/

theorem Tree.isName_of_dotted? {t : Tree} {n : String} (h : t.dotted? = some n) :
    Builder.isName t = true := by
  unfold Tree.dotted? at h
  split at h
  · rfl
  · rfl
  · cases h

/-- Items that compute a term which is not a name. -/
theorem Renders.plain {is : List Item} {t : Tree}
    (hy : YieldsOne is fun resolve => t.value resolve) (hm : Moves 0 1 is)
    (ht : Builder.isName t = false) : Renders is t where
  yields := hy
  moves := hm
  name n hn := by
    rw [Tree.isName_of_dotted? hn] at ht
    cases ht
  noName hn := by
    rw [hn] at ht
    cases ht

/-- A nested expression computes a term that has the same value. -/
theorem Expr.Renders.item {e : Expr} {t u : Tree} (h : e.Renders t)
    (hv : ∀ resolve, t.value resolve = u.value resolve) (hu : Builder.isName u = false) :
    Wdl.Renders [e.toItem] u :=
  .plain (h.means.yields.congr hv) (Moves.nested h.isBalanced) hu

/-- The value of a literal item. -/
theorem Renders.literal {v : Value} {t : Tree} (hv : ∀ resolve, t.value resolve = .ok v)
    (ht : Builder.isName t = false) : Renders [.literal v] t := by
  have hy : YieldsOne [.literal v] fun _ => .ok v := Yields.literal v
  exact .plain (hy.congr fun resolve => (hv resolve).symm) (Moves.literal v) ht

/-! ## Lists -/

theorem bind_ok {α β : Type} {x : Outcome α} {g : α → Outcome β} {b : β}
    (h : x >>= g = .ok b) : ∃ a, x = .ok a ∧ g a = .ok b := by
  cases x with
  | error e => cases h
  | ok a => exact ⟨a, rfl, h⟩

theorem length_of_bind {a : Outcome (List Value)} {b : Outcome (List Value)} {c : List Value}
    {m n : Nat} (ha : ∀ x, a = .ok x → x.length = m) (hb : ∀ x, b = .ok x → x.length = n)
    (h : (a >>= fun x => b >>= fun y => .ok (x ++ y)) = .ok c) : c.length = m + n := by
  cases a with
  | error e => cases h
  | ok x =>
    cases b with
    | error e => cases h
    | ok y =>
      rw [← Except.ok.inj h, List.length_append, ha x rfl, hb y rfl]

/-- The operands of a construct, as they wait to be put in. -/
theorem CompilesAll.exprs {ts : List Tree} (hts : ∀ t ∈ ts, Phrase .expr t) {js : List Item}
    {es : List Expr} (h : CompilesAll (allOf .expr ts) js es) :
    js = [] ∧ es.length = ts.length ∧ Yields (es.map Expr.toItem) (fun r => Tree.values r ts) ∧
      Moves 0 ts.length (es.map Expr.toItem) := by
  induction ts generalizing js es with
  | nil =>
    obtain ⟨rfl, rfl⟩ := h
    exact ⟨rfl, rfl, Yields.nil, Moves.nil 0⟩
  | cons t ts ih =>
    obtain ⟨ht, hts⟩ := List.forall_mem_cons.mp hts
    obtain ⟨_, _, js₂, es₂, ⟨rfl, e, rfl, he⟩, hrest, rfl, rfl⟩ := h
    obtain ⟨rfl, hlen, hy, hm⟩ := ih hts hrest
    refine ⟨rfl, congrArg Nat.succ hlen, ?_, ?_⟩
    · refine (Yields.append he.means.yields hy).congr fun resolve => ?_
      rw [Tree.values_cons resolve ht, Tree.values_one resolve ht (.inl rfl)]
    · rw [List.length_cons, Nat.add_comm]
      exact (Moves.nested he.isBalanced).add hm

theorem values_exprs_length {ts : List Tree} (hts : ∀ t ∈ ts, Phrase .expr t)
    {resolve : String → Outcome Value} {vs : List Value} (h : Tree.values resolve ts = .ok vs) :
    vs.length = ts.length := by
  induction ts generalizing vs with
  | nil => rw [← Except.ok.inj h]; rfl
  | cons t ts ih =>
    obtain ⟨ht, hts⟩ := List.forall_mem_cons.mp hts
    rw [Tree.values_cons resolve ht, Tree.values_one resolve ht (.inl rfl)] at h
    rw [List.length_cons, Nat.add_comm]
    refine length_of_bind (fun x hx => ?_) (fun y hy => ih hts hy) h
    cases hv : t.value resolve with
    | error cause =>
      rw [hv] at hx
      cases hx
    | ok v =>
      rw [hv] at hx
      rw [← Except.ok.inj hx]
      rfl

/-- The entries of a map or an object. -/
theorem CompilesAll.entries {f : Form} (hf : f = .mapEntry ∨ f = .objectEntry) {ts : List Tree}
    (hts : ∀ t ∈ ts, Phrase f t) {js : List Item} {es : List Expr}
    (h : CompilesAll (allOf f ts) js es) :
    es = [] ∧ Yields js (fun r => Tree.values r ts) ∧ Moves 0 (2 * ts.length) js := by
  induction ts generalizing js es with
  | nil =>
    obtain ⟨rfl, rfl⟩ := h
    exact ⟨rfl, Yields.nil, Moves.nil 0⟩
  | cons t ts ih =>
    obtain ⟨ht, hts⟩ := List.forall_mem_cons.mp hts
    obtain ⟨js₁, es₁, js₂, es₂, hone, hrest, rfl, rfl⟩ := h
    obtain ⟨rfl, hy, hm⟩ := ih hts hrest
    have hone : es₁ = [] ∧ Yields js₁ (fun r => Tree.values r [t]) ∧ Moves 0 2 js₁ := by
      rcases hf with rfl | rfl <;> exact hone
    obtain ⟨rfl, hyt, hmt⟩ := hone
    refine ⟨rfl, ?_, ?_⟩
    · refine (hyt.append hy).congr fun resolve => ?_
      rw [Tree.values_cons resolve ht ts]
    · rw [List.length_cons, Nat.mul_succ, Nat.add_comm]
      exact hmt.add hm

theorem values_entries_length {f : Form} (hf : f = .mapEntry ∨ f = .objectEntry) {ts : List Tree}
    (hts : ∀ t ∈ ts, Phrase f t) {resolve : String → Outcome Value} {vs : List Value}
    (h : Tree.values resolve ts = .ok vs) : vs.length = 2 * ts.length := by
  induction ts generalizing vs with
  | nil => rw [← Except.ok.inj h]; rfl
  | cons t ts ih =>
    obtain ⟨ht, hts⟩ := List.forall_mem_cons.mp hts
    rw [Tree.values_cons resolve ht] at h
    rw [List.length_cons, Nat.mul_succ, Nat.add_comm]
    refine length_of_bind (fun x hx => ?_) (fun y hy => ih hts hy) h
    rcases hf with rfl | rfl
    · cases ht with
      | @mapEntry _ k v _ _ =>
        rw [Tree.values, Tree.values] at hx
        obtain ⟨a, -, hx⟩ := bind_ok hx
        obtain ⟨b, -, hx⟩ := bind_ok hx
        rw [← Except.ok.inj hx]
        rfl
    · cases ht with
      | nameEntry k _ =>
        rw [Tree.values, Tree.values] at hx
        obtain ⟨b, -, hx⟩ := bind_ok hx
        rw [← Except.ok.inj hx]
        rfl
      | literalEntry _ _ =>
        rw [Tree.values, Tree.values] at hx
        obtain ⟨b, -, hx⟩ := bind_ok hx
        rw [← Except.ok.inj hx]
        rfl

/-- The interpolations of a string. -/
theorem CompilesAll.interpolations {ts : List Tree} (hts : ∀ t ∈ ts, Phrase .interpolation t)
    {js : List Item} {es : List Expr} (h : CompilesAll (allOf .interpolation ts) js es) :
    es = [] ∧ Lengthens js fun r => Tree.text r ts := by
  induction ts generalizing js es with
  | nil =>
    obtain ⟨rfl, rfl⟩ := h
    refine ⟨rfl, fun lookup resolve _ site s stack => ?_, Moves.nil 1⟩
    change Except.ok (.string s :: stack) = Except.ok (.string (s ++ "") :: stack)
    rw [String.append_empty]
  | cons t ts ih =>
    obtain ⟨ht, hts⟩ := List.forall_mem_cons.mp hts
    obtain ⟨js₁, _, js₂, _, ⟨rfl, hone⟩, hrest, rfl, rfl⟩ := h
    obtain ⟨rfl, hmore⟩ := ih hts hrest
    refine ⟨rfl, fun lookup resolve hl site s stack => ?_, hone.moves.append hmore.moves⟩
    rw [Item.runAll_append, outcome_bind, hone.runs lookup resolve hl, Tree.text_cons resolve ht ts]
    cases Tree.text resolve [t] with
    | error cause => rfl
    | ok u =>
      change outcome (Item.runAll lookup site js₂ (.string (s ++ u) :: stack)) = _
      rw [hmore.runs lookup resolve hl]
      cases Tree.text resolve ts with
      | error cause => rfl
      | ok v => simp [bind, Except.bind, Except.map, String.append_assoc]

/-- Options leave nothing. -/
theorem CompilesAll.options {ts : List Tree} {js : List Item} {es : List Expr}
    (h : CompilesAll (allOf .placeholderOption ts) js es) : js = [] ∧ es = [] := by
  induction ts generalizing js es with
  | nil => exact h
  | cons t ts ih =>
    obtain ⟨_, _, js₂, es₂, ⟨rfl, rfl⟩, hrest, rfl, rfl⟩ := h
    exact ih hrest

theorem CompilesAll.append {as bs : List (Form × Tree)} {js : List Item} {es : List Expr}
    (h : CompilesAll (as ++ bs) js es) : ∃ js₁ es₁ js₂ es₂, CompilesAll as js₁ es₁ ∧
      CompilesAll bs js₂ es₂ ∧ js = js₁ ++ js₂ ∧ es = es₁ ++ es₂ := by
  induction as generalizing js es with
  | nil => exact ⟨[], [], js, es, ⟨rfl, rfl⟩, h, rfl, rfl⟩
  | cons a as ih =>
    obtain ⟨js₁, es₁, js₂, es₂, hone, hrest, rfl, rfl⟩ := h
    obtain ⟨js₃, es₃, js₄, es₄, has, hbs, rfl, rfl⟩ := ih hrest
    exact ⟨js₁ ++ js₃, es₁ ++ es₃, js₄, es₄, ⟨js₁, es₁, js₃, es₃, hone, has, rfl, rfl⟩, hbs,
      (List.append_assoc ..).symm, (List.append_assoc ..).symm⟩

end Wdl
