import Wdl.Expr.Eval
import Wdl.Proofs.Library.Failures
import Wdl.Proofs.Library.Range
import Wdl.Proofs.Occurrences

/-!
The items of an expression at all levels.

Evaluation visits an expression and those nested in it, and it knows the environment only by the
names that occur there.  What holds of two evaluations that differ in the environment, or of the
outcome of one, is therefore shown item by item: `evaluate_sameUnless` compares two environments,
and `evaluate_meets` follows a property of values and faults.

So it is with integers: one comes into an evaluation as a literal, as the value of a name, as an
option of a placeholder or from the library, and if all of these are in range so is the outcome,
`evaluate_fits`.
-/

namespace Wdl
namespace Item

mutual

/-- An item and, if it is an expression, the items in it at all levels. -/
def parts : Item → List Item
  | .nested info items => .nested info items :: partsOf items
  | i => [i]

def partsOf : List Item → List Item
  | [] => []
  | i :: is => parts i ++ partsOf is

end

theorem partsOf_append (is js : List Item) : partsOf (is ++ js) = partsOf is ++ partsOf js := by
  induction is with
  | nil => rfl
  | cons i is ih => rw [List.cons_append, partsOf, partsOf, ih, List.append_assoc]

theorem mem_partsOf {j : Item} {is : List Item} : j ∈ partsOf is ↔ ∃ i ∈ is, j ∈ i.parts := by
  induction is with
  | nil => simp [partsOf]
  | cons i is ih => simp [partsOf, ih]

/-- The name that an item is. -/
def name? : Item → Option String
  | .name n => some n
  | _ => none

theorem name?_eq_some {i : Item} {n : String} : i.name? = some n ↔ i = .name n := by
  cases i <;> simp [name?]

end Item

/-- The names that occur in an expression or in those nested in it. -/
def Expr.names (e : Expr) : List String :=
  (Item.partsOf e.items).filterMap Item.name?

theorem Expr.mem_names {e : Expr} {n : String} :
    n ∈ e.names ↔ .name n ∈ Item.partsOf e.items := by
  simp [Expr.names, List.mem_filterMap, Item.name?_eq_some]

/-- A name as an expression by itself. -/
def Expr.ofName (n : String) : Expr :=
  ⟨⟨⟨0, 0⟩, none, [], none⟩, [.name n]⟩

/-! ## Two environments -/

theorem Fault.cause_orAt (fault : Fault) (site : Site) : (fault.orAt site).cause = fault.cause := by
  unfold Fault.orAt
  split <;> rfl

/-- A fault for one of some causes. -/
def Fails {α : Type} (C : Cause → Prop) (x : Except Fault α) : Prop :=
  ∃ fault, x = .error fault ∧ C fault.cause

theorem Fails.bind {α β : Type} {C : Cause → Prop} {x : Except Fault α} (h : Fails C x)
    (g : α → Except Fault β) : Fails C (x >>= g) := by
  obtain ⟨fault, rfl, hfault⟩ := h
  exact ⟨fault, rfl, hfault⟩

theorem Fails.conclude {C : Cause → Prop} {x : Except Fault (List Value)} (h : Fails C x)
    (e : Expr) : Fails C (conclude e x) := by
  obtain ⟨fault, rfl, hfault⟩ := h
  exact ⟨fault.orAt (.expression e), rfl, by rwa [Fault.cause_orAt]⟩

/-- Two outcomes are the same, unless the first is a fault for one of some causes. -/
def SameUnless {α : Type} (C : Cause → Prop) (x y : Except Fault α) : Prop :=
  x = y ∨ Fails C x

namespace SameUnless

variable {α β : Type} {C : Cause → Prop}

theorem refl (x : Except Fault α) : SameUnless C x x := .inl rfl

theorem bind {x y : Except Fault α} {g k : α → Except Fault β} (h : SameUnless C x y)
    (hg : ∀ a, SameUnless C (g a) (k a)) : SameUnless C (x >>= g) (y >>= k) := by
  rcases h with rfl | h
  · cases x with
    | error fault => exact refl _
    | ok a => exact hg a
  · exact .inr (h.bind g)

theorem eq {x y : Except Fault α} (h : SameUnless (fun _ => False) x y) : x = y := by
  obtain h | ⟨fault, -, hfault⟩ := h
  · exact h
  · exact hfault.elim

end SameUnless

theorem conclude_sameUnless {C : Cause → Prop} (e : Expr) {x y : Except Fault (List Value)}
    (h : SameUnless C x y) : SameUnless C (conclude e x) (conclude e y) := by
  rcases h with rfl | h
  · exact .refl _
  · exact .inr (h.conclude e)

section Environments

variable {C : Cause → Prop} {l l' : Lookup}

mutual

theorem run_sameUnless (site : Option Site) : (i : Item) → (stack : List Value) →
    (∀ n, .name n ∈ i.parts → ∀ site, SameUnless C (l site n) (l' site n)) →
      SameUnless C (i.run l site stack) (i.run l' site stack)
  | .literal _, _, _ => .refl _
  | .name n, _, h => (h n List.mem_cons_self site).bind fun _ => .refl _
  | .operator _, _, _ => .refl _
  | .apply _ _, _, _ => .refl _
  | .nested _ items, _, h =>
    (conclude_sameUnless _ (runAll_sameUnless _ items []
      fun n hn => h n (List.mem_cons_of_mem _ hn))).bind fun _ => .refl _
  | .invalid _, _, _ => .refl _

theorem runAll_sameUnless (site : Option Site) : (is : List Item) → (stack : List Value) →
    (∀ n, .name n ∈ Item.partsOf is → ∀ site, SameUnless C (l site n) (l' site n)) →
      SameUnless C (Item.runAll l site is stack) (Item.runAll l' site is stack)
  | [], _, _ => .refl _
  | i :: is, stack, h =>
    (run_sameUnless site i stack fun n hn => h n (List.mem_append_left _ hn)).bind fun s =>
      runAll_sameUnless site is s fun n hn => h n (List.mem_append_right _ hn)

end

/-- Two environments in which the names of an expression have the same outcomes, except for faults
that are set apart, give the expression the same outcome, except for such faults. -/
theorem Expr.evaluate_sameUnless (e : Expr)
    (h : ∀ n ∈ e.names, ∀ site, SameUnless C (l site n) (l' site n)) :
    SameUnless C (e.evaluate l) (e.evaluate l') :=
  conclude_sameUnless e (runAll_sameUnless _ e.items [] fun n hn => h n (Expr.mem_names.mpr hn))

/-- Evaluation depends on the environment only by the names that occur. -/
theorem Expr.evaluate_congr (e : Expr) (h : ∀ n ∈ e.names, ∀ site, l site n = l' site n) :
    e.evaluate l = e.evaluate l' :=
  (e.evaluate_sameUnless fun n hn site => .inl (h n hn site)).eq

end Environments

/-! ## One evaluation -/

/-- A value with one property, or a fault with a cause that has another. -/
def Meets {α : Type} (V : α → Prop) (C : Cause → Prop) : Except Fault α → Prop
  | .ok a => V a
  | .error fault => C fault.cause

theorem Meets.not_fails {α : Type} {V : α → Prop} {C : Cause → Prop} {x : Except Fault α}
    (h : Meets V (fun cause => ¬ C cause) x) : ¬ Fails C x := by
  rintro ⟨fault, rfl, hfault⟩
  exact h hfault

namespace Meets

variable {α β : Type} {V : α → Prop} {W : β → Prop} {C : Cause → Prop}

theorem bind {x : Except Fault α} {g : α → Except Fault β} (hx : Meets V C x)
    (hg : ∀ a, V a → Meets W C (g a)) : Meets W C (x >>= g) := by
  cases x with
  | error fault => exact hx
  | ok a => exact hg a hx

theorem mapError {x : Except Failure α} (site : Option Site) (hok : ∀ a, x = .ok a → V a)
    (herror : ∀ f, x = .error f → C (.failure f)) :
    Meets V C (x.mapError (Fault.ofFailure site)) := by
  cases x with
  | error f => exact herror f rfl
  | ok a => exact hok a rfl

end Meets

/-- What an item does by itself keeps a property of values, and its faults have causes with another
property. -/
def Item.Keeps (V : Value → Prop) (C : Cause → Prop) (lookup : Lookup) : Item → Prop
  | .literal v => V v
  | .name n => ∀ site, Meets V C (lookup site n)
  | .operator op => ∀ site args, args.length = op.arity → (∀ v ∈ args, V v) →
      Meets V C ((Library.operator op args).mapError (Fault.ofFailure site))
  | .apply f _ => ∀ site args function, Library.Function.ofName? f = some function →
      (∀ v ∈ args, V v) → Meets V C ((function.call args).mapError (Fault.ofFailure site))
  | .nested info _ => ∀ v, V v →
      Meets V C ((applyOptions info.options v).mapError (Fault.ofFailure none))
  | .invalid _ => True

theorem applyOptions_regular (options : Bindings) (v : Value) :
    Regular (applyOptions options v) := by
  unfold applyOptions
  split
  · exact .ok _
  · split
    · exact Value.coerce_regular _ _
    · exact .ok _
  · exact .ok _

/-- If only causes matter, an item keeps a property of them that all failures of the library
have, and the names. -/
theorem Item.keeps_of_names {C : Cause → Prop} {lookup : Lookup} (i : Item)
    (hfailure : ∀ f : Failure, f.isOfOperands = true → C (.failure f))
    (hname : ∀ n, i = .name n → ∀ site, Meets (fun _ => True) C (lookup site n)) :
    i.Keeps (fun _ => True) C lookup := by
  cases i with
  | literal v => trivial
  | name n => exact hname n rfl
  | operator op =>
    intro site args hlength _
    exact .mapError site (fun _ _ => trivial) fun failure h =>
      hfailure failure (Library.operator_regular op hlength failure h)
  | apply name arity =>
    intro site args function _ _
    exact .mapError site (fun _ _ => trivial) fun failure h =>
      hfailure failure (Library.call_regular function args failure h)
  | nested info items =>
    intro v _
    exact .mapError none (fun _ _ => trivial) fun failure h =>
      hfailure failure (applyOptions_regular info.options v failure h)
  | invalid text => trivial

section Outcomes

variable {V : Value → Prop} {C : Cause → Prop} {lookup : Lookup}

theorem takeOperands_meets (hmalformed : ∀ m, C (.failure (.malformed m)))
    (site : Option Site) (what : String) (n : Nat) {stack : List Value} (h : ∀ v ∈ stack, V v) :
    Meets (fun x => x.1.length = n ∧ (∀ v ∈ x.1, V v) ∧ ∀ v ∈ x.2, V v) C
      (takeOperands site what n stack) := by
  unfold takeOperands
  split
  · exact hmalformed _
  · next hlength =>
    refine ⟨by simp [Nat.le_of_not_lt hlength], fun v hv => ?_, fun v hv => ?_⟩
    · exact h v (List.mem_of_mem_take (List.mem_reverse.mp hv))
    · exact h v (List.mem_of_mem_drop hv)

theorem conclude_meets (hmalformed : ∀ m, C (.failure (.malformed m))) {e : Expr}
    {x : Except Fault (List Value)}
    (hoptions : ∀ v, V v →
      Meets V C ((applyOptions e.info.options v).mapError (Fault.ofFailure none)))
    (h : Meets (fun stack => ∀ v ∈ stack, V v) C x) : Meets V C (conclude e x) := by
  cases x with
  | error fault =>
    change C (fault.orAt (.expression e)).cause
    rw [Fault.cause_orAt]
    exact h
  | ok stack =>
    match stack, h with
    | [v], h => exact hoptions v (h v List.mem_cons_self)
    | [], _ => exact hmalformed _
    | _ :: _ :: _, _ => exact hmalformed _

mutual

theorem run_meets (hmalformed : ∀ m, C (.failure (.malformed m)))
    (hunknown : ∀ name, C (.problem (Library.unknownFunction name))) (site : Option Site) :
    (i : Item) → (stack : List Value) → (∀ j ∈ i.parts, j.Keeps V C lookup) → (∀ v ∈ stack, V v) →
      Meets (fun stack => ∀ v ∈ stack, V v) C (i.run lookup site stack)
  | .literal v, stack, h, hs => List.forall_mem_cons.mpr ⟨h _ List.mem_cons_self, hs⟩
  | .name n, stack, h, hs =>
    (h (.name n) List.mem_cons_self site).bind fun v hv => List.forall_mem_cons.mpr ⟨hv, hs⟩
  | .operator op, stack, h, hs =>
    (takeOperands_meets hmalformed site op.name op.arity hs).bind fun x hx =>
      (h (.operator op) List.mem_cons_self site x.1 hx.1 hx.2.1).bind fun v hv =>
        List.forall_mem_cons.mpr ⟨hv, hx.2.2⟩
  | .apply name n, stack, h, hs => by
    rw [Item.run]
    split
    · exact hunknown name
    · next function hfunction =>
      refine (takeOperands_meets hmalformed site name n hs).bind fun x hx => ?_
      refine (h (.apply name n) List.mem_cons_self site x.1 function hfunction hx.2.1).bind
        fun v hv => ?_
      exact List.forall_mem_cons.mpr ⟨hv, hx.2.2⟩
  | .nested info items, stack, h, hs => by
    rw [Item.parts] at h
    have hrun := runAll_meets hmalformed hunknown (some (.expression ⟨info, items⟩)) items []
      (fun j hj => h j (List.mem_cons_of_mem _ hj)) (fun _ hv => nomatch hv)
    refine (conclude_meets hmalformed (e := ⟨info, items⟩) (h _ List.mem_cons_self) hrun).bind
      fun v hv => ?_
    exact List.forall_mem_cons.mpr ⟨hv, hs⟩
  | .invalid _, _, _, _ => hmalformed _

theorem runAll_meets (hmalformed : ∀ m, C (.failure (.malformed m)))
    (hunknown : ∀ name, C (.problem (Library.unknownFunction name))) (site : Option Site) :
    (is : List Item) → (stack : List Value) → (∀ j ∈ Item.partsOf is, j.Keeps V C lookup) →
      (∀ v ∈ stack, V v) →
        Meets (fun stack => ∀ v ∈ stack, V v) C (Item.runAll lookup site is stack)
  | [], _, _, hs => hs
  | i :: is, stack, h, hs =>
    (run_meets hmalformed hunknown site i stack (fun j hj => h j (List.mem_append_left _ hj))
      hs).bind fun s hs =>
        runAll_meets hmalformed hunknown site is s (fun j hj => h j (List.mem_append_right _ hj)) hs

end

/-- A property of values and faults that every item of an expression keeps holds of the outcome. -/
theorem Expr.evaluate_meets (hmalformed : ∀ m, C (.failure (.malformed m)))
    (hunknown : ∀ name, C (.problem (Library.unknownFunction name))) (e : Expr) (h : ∀ j ∈ e.toItem.parts, j.Keeps V C lookup) :
    Meets V C (e.evaluate lookup) := by
  rw [Expr.toItem, Item.parts] at h
  refine conclude_meets hmalformed (h _ List.mem_cons_self) ?_
  exact runAll_meets hmalformed hunknown _ e.items []
    (fun j hj => h j (List.mem_cons_of_mem _ hj)) (fun _ hv => nomatch hv)

end Outcomes

/-! ## Integers -/

namespace Item

/-- An item that is not a literal integer out of range. -/
def LiteralFits : Item → Prop
  | .literal v => v.Fits
  | _ => True

/-- An item that is not an expression with an option that is an integer out of range. -/
def OptionsFit : Item → Prop
  | .nested info _ => ∀ o ∈ info.options, o.2.Fits
  | _ => True

/-- Whether an item is an application of a function that rounds floating point numbers. -/
def rounds : Item → Bool
  | .apply f _ => ["floor", "ceil", "round"].contains f
  | _ => false

end Item

namespace Expr

/-- No literal of the expression, at any level, is an integer out of range. -/
def LiteralsFit (e : Expr) : Prop :=
  ∀ i ∈ Item.partsOf e.items, i.LiteralFits

/-- Neither the expression nor one in it has an option that is an integer out of range. -/
def OptionsFit (e : Expr) : Prop :=
  ∀ i ∈ e.toItem.parts, i.OptionsFit

/-- Whether a function that rounds is applied in the expression, at any level. -/
def rounds (e : Expr) : Bool :=
  (Item.partsOf e.items).any Item.rounds

end Expr

theorem Library.Function.mem_of_rounds {name : String} {function : Function}
    (h : ofName? name = some function) (hrounds : function.rounds = true) :
    name ∈ ["floor", "ceil", "round"] := by
  unfold ofName? at h
  split at h
  · obtain rfl := Option.some.inj h
    exact nomatch hrounds
  · obtain rfl := Option.some.inj h
    exact nomatch hrounds
  · obtain rfl := Option.some.inj h
    exact nomatch hrounds
  · split at h
    · next s hfind =>
      obtain rfl := Option.some.inj h
      have hname : s.name = name := by simpa using List.find?_some hfind
      obtain rfl := hname
      cases s <;> first | decide | exact nomatch hrounds
    · obtain ⟨what, -, rfl⟩ := Option.map_eq_some_iff.mp h
      exact nomatch hrounds

theorem applyOptions_ranged {options : Bindings} (h : ∀ o ∈ options, o.2.Fits) {v : Value}
    (hv : v.Fits) : Ranged (applyOptions options v) := by
  unfold applyOptions
  split
  · refine .ok ?_
    cases hlookup : options.lookup "default" with
    | none => trivial
    | some w => exact h _ (mem_of_lookup hlookup)
  · next b =>
    split
    · next w hlookup => exact w.coerce_ranged (h _ (mem_of_lookup hlookup)) .string
    · exact .ok trivial
  · exact .ok hv

/-- An expression without integers out of range, and without functions that round, has no such value
where none of its names has one. -/
theorem Expr.evaluate_fits {e : Expr} (hliterals : e.LiteralsFit) (hoptions : e.OptionsFit)
    (hrounds : e.rounds = false) {lookup : Lookup}
    (hnames : ∀ n ∈ e.names, ∀ site v, lookup site n = .ok v → v.Fits) {v : Value}
    (hv : e.evaluate lookup = .ok v) : v.Fits := by
  have hmeets : Meets Value.Fits (fun _ => True) (e.evaluate lookup) := by
    refine e.evaluate_meets (fun _ => trivial) (fun _ => trivial) fun j hj => ?_
    have hinner : (∃ info items, j = .nested info items) ∨ j ∈ Item.partsOf e.items := by
      rw [Expr.toItem, Item.parts, List.mem_cons] at hj
      exact hj.imp_left fun heq => ⟨_, _, heq⟩
    cases j with
    | literal w => exact hliterals _ (hinner.resolve_left (by simp))
    | name n =>
      intro site
      have hn := hnames n (Expr.mem_names.mpr (hinner.resolve_left (by simp))) site
      cases hlookup : lookup site n with
      | ok w => exact hn w hlookup
      | error fault => trivial
    | operator op =>
      intro site args _ _
      exact .mapError site (Library.operator_ranged op args) fun _ _ => trivial
    | apply name arity =>
      intro site args function hfunction hargs
      have hnot : function.rounds = false := by
        refine Bool.eq_false_iff.mpr fun htrue => ?_
        have hmem := List.any_eq_false.mp hrounds _ (hinner.resolve_left (by simp))
        exact hmem (List.contains_iff_mem.mpr (Library.Function.mem_of_rounds hfunction htrue))
      exact .mapError site (Library.call_ranged hnot hargs) fun _ _ => trivial
    | nested info items =>
      intro w hw
      exact .mapError none (applyOptions_ranged (hoptions _ hj) hw) fun _ _ => trivial
    | invalid text => trivial
  rw [hv] at hmeets
  exact hmeets

end Wdl
