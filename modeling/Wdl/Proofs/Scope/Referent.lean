import Mathlib.Data.Set.Finite.Basic
import Mathlib.Order.Interval.Finset.Nat
import Wdl.Proofs.Document.Forest
import Wdl.Proofs.Expr.Parts
import Wdl.Proofs.Scope.Resolution
import Wdl.Scope.Eval

/-!
What names stand for.

A name in a scope stands for a given value, for nothing, or for a declaration, whose initializer is
then evaluated in the scope of the declaration.  `Forest.referent` says which; it does not depend on
the declarations that wait for their values.  These only matter when the name stands for one more,
`Forest.refusal`.  The names that an evaluation may come to in this way, and the declarations that
it may reach, are those that follow from the names in the expression, step by step.

A scope finds the value of a name by way of a declaration, a mapping has it at hand.  If every name
in an expression has a value by itself, it makes no difference for the expression which of the two
is its environment, `evaluate_environments`: neither the place of a name in the expression nor what
else is evaluated has a part in its value.
-/

namespace Wdl

/-- What a name stands for. -/
inductive Referent
  | given (v : Value)
  | missing (p : Problem)
  /-- a declaration, with its type and its initializer -/
  | declared (b : Binding) (type : String) (initializer : Expr)
  /-- finding out would go on forever -/
  | endless

namespace Forest

variable (f : Forest) (inputs : Bindings)

def referent (scope : ScopeId) (name : String) : Referent :=
  match inputs.lookup name with
  | some v => .given v
  | none =>
    match f.resolve [] scope (Text.splitOn '.' name) with
    | .error (.missing _ _) => .missing (.unknownIdentifier name)
    | .error .endless => .endless
    | .ok b =>
      match f.body? b.symbol with
      | some (.declaration d) =>
        if d.type == "struct" then .missing (notAValue name .declaration)
        else
          match d.initializer.bind f.expr? with
          | none => .missing (.unresolved ("No value for " ++ name))
          | some e => .declared b d.type e
      | some body => .missing (notAValue name body.kind)
      | none => .missing (.unknownIdentifier name)

/-- Why a declaration is not evaluated while others wait for their values. -/
def refusal (maxDepth : Int) (active : List NodeId) (symbol : NodeId) (name : String) :
    Option Failure :=
  if active.contains symbol then some (.circular name)
  else if maxDepth ≤ active.length then
    some (.eval ("declarations nested too deeply evaluating " ++ name))
  else none

variable {f inputs} {maxDepth : Int} {fuel : Nat} {active : List NodeId} {scope : ScopeId}
  {name : String}

theorem refusal_eq_none {symbol : NodeId} :
    refusal maxDepth active symbol name = none ↔ symbol ∉ active ∧ active.length < maxDepth := by
  unfold refusal
  by_cases hactive : symbol ∈ active
  · simp [hactive]
  · by_cases hdepth : maxDepth ≤ active.length
    · simp [hactive, hdepth]
    · simp [hactive, hdepth]
      omega

/-! ## Looking up a name -/

/-- A name has the outcome that what it stands for has. -/
theorem lookupIn_succ (site : Option Site) :
    f.lookupIn inputs maxDepth (fuel + 1) active scope site name =
      match f.referent inputs scope name with
      | .given v => .ok v
      | .missing p => .error (.ofProblem site p)
      | .endless => .error (.ofFailure none .endless)
      | .declared b type e =>
        match refusal maxDepth active b.symbol name with
        | some failure => .error (.ofFailure site failure)
        | none =>
          e.evaluate (f.lookupIn inputs maxDepth fuel (b.symbol :: active) b.scope) >>=
            f.declaredValue name b.symbol type := by
  rw [lookupIn]
  dsimp only
  unfold referent refusal
  cases inputs.lookup name with
  | some v => rfl
  | none =>
    cases f.resolve [] scope (Text.splitOn '.' name) with
    | error e => cases e <;> rfl
    | ok b =>
      cases hbody : f.body? b.symbol with
      | none => simp only [hbody]
      | some body =>
        cases body with
        | declaration d =>
          simp only [hbody]
          cases d.type == "struct" with
          | true => rfl
          | false =>
            cases d.initializer.bind f.expr? with
            | none => rfl
            | some e =>
              simp only [Bool.false_eq_true, if_false]
              cases active.contains b.symbol with
              | true => rfl
              | false => by_cases hdepth : maxDepth ≤ active.length <;> simp [hdepth]
        | _ => simp only [hbody]

/-- If a name stands for a declaration, this is one, and no value has been given for the name. -/
theorem of_referent_declared {b : Binding} {type : String} {e : Expr}
    (h : f.referent inputs scope name = .declared b type e) :
    f.kind? b.symbol = some .declaration ∧ inputs.lookup name = none := by
  unfold referent at h
  split at h
  · exact nomatch h
  next hinput =>
    split at h
    · exact nomatch h
    · exact nomatch h
    next c hresolve =>
      split at h
      next d hbody =>
        split at h
        · exact nomatch h
        · split at h
          · exact nomatch h
          · obtain ⟨rfl, -⟩ := Referent.declared.inj h
            refine ⟨?_, hinput⟩
            obtain ⟨node, hnode, hd⟩ := Option.map_eq_some_iff.mp hbody
            rw [kind?, hnode, Option.map_some, Node.kind, hd]
            rfl
      · exact nomatch h
      · exact nomatch h

theorem of_referent_endless (h : f.referent inputs scope name = .endless) :
    inputs.lookup name = none ∧ f.resolve [] scope (Text.splitOn '.' name) = .error .endless := by
  unfold referent at h
  split at h
  · exact nomatch h
  next hinput =>
    split at h
    · exact nomatch h
    · next hresolve => exact ⟨hinput, hresolve⟩
    · split at h
      · split at h
        · exact nomatch h
        · split at h <;> exact nomatch h
      · exact nomatch h
      · exact nomatch h

/-- A value is found for a name wherever the name stands. -/
theorem lookupIn_ok {site : Option Site} {v : Value}
    (h : f.lookupIn inputs maxDepth fuel active scope site name = .ok v) (site' : Option Site) :
    f.lookupIn inputs maxDepth fuel active scope site' name = .ok v := by
  cases fuel with
  | zero => exact nomatch h
  | succ fuel =>
    rw [lookupIn_succ] at h ⊢
    cases hreferent : f.referent inputs scope name with
    | given w =>
      rw [hreferent] at h
      exact h
    | missing p =>
      rw [hreferent] at h
      exact nomatch h
    | endless =>
      rw [hreferent] at h
      exact nomatch h
    | declared b type e =>
      rw [hreferent] at h
      dsimp only at h ⊢
      cases hrefusal : refusal maxDepth active b.symbol name with
      | none =>
        rw [hrefusal] at h
        exact h
      | some failure =>
        rw [hrefusal] at h
        exact nomatch h

/-! ## What an evaluation may come to -/

/-- Evaluating an expression in a scope may come to resolving a name in a scope. -/
inductive Asks (f : Forest) (inputs : Bindings) : ScopeId → Expr → ScopeId → String → Prop
  | here {s : ScopeId} {e : Expr} {n : String} :
    n ∈ e.names → inputs.lookup n = none → Asks f inputs s e s n
  | there {s t : ScopeId} {e d : Expr} {n m type : String} {b : Binding} :
    n ∈ e.names → f.referent inputs s n = .declared b type d → Asks f inputs b.scope d t m →
      Asks f inputs s e t m

variable (f inputs) in
/-- Every name that the evaluation may come to resolve has an answer, a binding or none. -/
def Answers (scope : ScopeId) (e : Expr) : Prop :=
  ∀ t n, f.Asks inputs scope e t n → f.resolve [] t (Text.splitOn '.' n) ≠ .error .endless

variable (f inputs) in
/-- The declarations that the evaluation may come to. -/
def reached (scope : ScopeId) (e : Expr) : Set NodeId :=
  {id | ∃ t n b type d, f.Asks inputs scope e t n ∧ f.referent inputs t n = .declared b type d ∧
    b.symbol = id}

variable {e d : Expr} {b : Binding} {type : String}

theorem Answers.declared (h : f.Answers inputs scope e) (hname : name ∈ e.names)
    (hreferent : f.referent inputs scope name = .declared b type d) :
    f.Answers inputs b.scope d :=
  fun t n hasks => h t n (.there hname hreferent hasks)

theorem Answers.referent_ne (h : f.Answers inputs scope e) (hname : name ∈ e.names) :
    f.referent inputs scope name ≠ .endless := by
  intro hreferent
  obtain ⟨hinput, hresolve⟩ := of_referent_endless hreferent
  exact h scope name (.here hname hinput) hresolve

theorem mem_reached (hname : name ∈ e.names)
    (hreferent : f.referent inputs scope name = .declared b type d) :
    b.symbol ∈ f.reached inputs scope e :=
  ⟨scope, name, b, type, d, .here hname (of_referent_declared hreferent).2, hreferent, rfl⟩

theorem reached_subset (hname : name ∈ e.names)
    (hreferent : f.referent inputs scope name = .declared b type d) :
    f.reached inputs b.scope d ⊆ f.reached inputs scope e := by
  rintro id ⟨t, n, c, u, x, hasks, hid⟩
  exact ⟨t, n, c, u, x, .there hname hreferent hasks, hid⟩

theorem kind?_of_mem_reached {id : NodeId} (h : id ∈ f.reached inputs scope e) :
    f.kind? id = some .declaration := by
  obtain ⟨t, n, c, u, x, -, hreferent, rfl⟩ := h
  exact (of_referent_declared hreferent).1

variable (f inputs scope e) in
theorem reached_finite : (f.reached inputs scope e).Finite :=
  (Set.finite_lt_nat f.nodes.size).subset fun _ h => lt_of_kind? (kind?_of_mem_reached h)

/-- Without calls, every name has an answer. -/
theorem answers_of_no_calls (h : ∀ id call, f.body? id ≠ some (.call call)) (scope : ScopeId)
    (e : Expr) : f.Answers inputs scope e :=
  fun t n _ => f.resolve_ends_of_no_calls [] h t (Text.splitOn '.' n)

end Forest

/-! ## Two declarations that need each other -/

section Example

/-- A name as an expression, in the example. -/
def initializerTree (offset : Nat) (name : String) : Tree :=
  .node .expr (loopExtent offset (offset + 1))
    [.node .leftName (loopExtent offset (offset + 1)) [.token (loopToken .name name offset)]]

def declTree (offset : Nat) (name : String) (initializer : Tree) : Tree :=
  .node .decl (loopExtent offset (offset + 9))
    [.node .type (loopExtent offset (offset + 3)) [.token (loopToken .name "Int" offset)],
      .token (loopToken .name name (offset + 4)), initializer]

def cycleText : String :=
  "version 1.1 workflow w \x7bInt a = b Int b = a\x7d"

def cycleTree : Tree :=
  .node .document (loopExtent 0 44)
    [.node .version (loopExtent 0 11) [.token (loopToken .versionNumber "1.1" 8)],
      .node .workflow (loopExtent 12 44)
        [.token (loopToken .name "w" 21), declTree 24 "a" (initializerTree 32 "b"),
          declTree 34 "b" (initializerTree 42 "a")]]

/-- The document of the tree. -/
def cycleForest : Forest :=
  (Builder.walk [] cycleTree
    (Builder.start {} "" 43 ⟨"", ""⟩ cycleText.toList [] [])).finish.forest

theorem cycleForest_answers (inputs : Bindings) (scope : ScopeId) (e : Expr) :
    cycleForest.Answers inputs scope e := by
  refine Forest.answers_of_no_calls (fun id call h => ?_) scope e
  have hkinds : cycleForest.nodes.all (fun n => n.kind != .call) = true := by decide +kernel
  obtain ⟨n, hn, hbody⟩ := Option.map_eq_some_iff.mp h
  have hkind := Array.all_eq_true_iff_forall_mem.mp hkinds n (Array.mem_of_getElem? hn)
  rw [Node.kind, hbody] at hkind
  exact nomatch hkind

end Example

end Wdl

/-! ## Scopes and mappings as environments -/

namespace Wdl

theorem Expr.evaluate_ofName {lookup : Lookup} {n : String} {v : Value}
    (h : (Expr.ofName n).evaluate lookup = .ok v) :
    lookup (some (.expression (.ofName n))) n = .ok v := by
  unfold Expr.evaluate Expr.ofName at h
  rw [Item.runAll, Item.run] at h
  change conclude (.ofName n)
    ((lookup (some (.expression (.ofName n))) n >>= fun v => .ok [v]) >>= .ok) = .ok v at h
  cases hlookup : lookup (some (.expression (.ofName n))) n with
  | error fault =>
    rw [hlookup] at h
    exact nomatch h
  | ok w =>
    rw [hlookup] at h
    have happly : applyOptions [] w = .ok w := by
      unfold applyOptions
      cases w <;> rfl
    change (applyOptions [] w).mapError (Fault.ofFailure none) = .ok v at h
    rw [happly] at h
    exact h

/-! ## Bindings -/

theorem Bindings.lookup_map (v : String → Value) {names : List String} {n : String}
    (h : n ∈ names) : (names.map fun m => (m, v m)).lookup n = some (v n) := by
  induction names with
  | nil => exact nomatch h
  | cons m names ih =>
    rw [List.map_cons, List.lookup_cons]
    by_cases hm : n = m
    · rw [hm, beq_self_eq_true]
    · rw [beq_eq_false_iff_ne.mpr hm]
      exact ih ((List.mem_cons.mp h).resolve_left hm)

theorem Bindings.lookup_filter (p : String → Bool) (l : Bindings) {n : String} (h : p n = true) :
    (l.filter fun nv => p nv.1).lookup n = l.lookup n := by
  induction l with
  | nil => rfl
  | cons nv l ih =>
    rw [List.filter_cons, List.lookup_cons]
    by_cases hn : n = nv.1
    · rw [if_pos (hn ▸ h), List.lookup_cons, hn, beq_self_eq_true]
    · rw [beq_eq_false_iff_ne.mpr hn]
      split
      · rw [List.lookup_cons, beq_eq_false_iff_ne.mpr hn]
        exact ih
      · exact ih

/-- Values that take precedence over others come first in one mapping. -/
theorem Lookup.ofBindings_eq_append (inputs env : Bindings) :
    Lookup.ofBindings inputs env = Lookup.ofBindings [] (inputs ++ env) := by
  funext site n
  unfold Lookup.ofBindings
  rw [List.lookup_append, List.lookup_nil]
  cases inputs.lookup n <;> rfl

/-- The names that do not occur in an expression can be left out. -/
theorem Expr.evaluate_restrict (e : Expr) (env : Bindings) :
    e.evaluate (Lookup.ofBindings [] env) =
      e.evaluate (Lookup.ofBindings [] (env.filter fun nv => e.names.contains nv.1)) := by
  refine e.evaluate_congr fun n hn site => ?_
  unfold Lookup.ofBindings
  rw [Bindings.lookup_filter (fun m => e.names.contains m) env (List.contains_iff_mem.mpr hn)]

/-! ## Environments -/

namespace Forest

/-- An expression with values for all of its names comes to the same in the scope that gives these
values, under any limit, and in the mapping that holds them; and what takes precedence over a
mapping might as well be part of it, without the names that do not occur. -/
theorem evaluate_environments (f : Forest) (inputs : Bindings) (maxDepth : Int) (scope : ScopeId)
    (e : Expr) :
    (∀ v : String → Value,
      (∀ n ∈ e.names, (Expr.ofName n).evaluate (f.lookup inputs maxDepth scope) = .ok (v n)) →
        e.evaluate (f.lookup inputs maxDepth scope) =
          e.evaluate (Lookup.ofBindings [] (e.names.map fun n => (n, v n)))) ∧
      ∀ env : Bindings, e.evaluate (Lookup.ofBindings inputs env) =
        e.evaluate (Lookup.ofBindings []
          ((inputs ++ env).filter fun nv => e.names.contains nv.1)) := by
  refine ⟨fun v hv => e.evaluate_congr fun n hn site => ?_, fun env => ?_⟩
  · have hscope := lookupIn_ok (Expr.evaluate_ofName (hv n hn)) site
    have hmapping : Lookup.ofBindings [] (e.names.map fun n => (n, v n)) site n = .ok (v n) := by
      unfold Lookup.ofBindings
      rw [Bindings.lookup_map v hn]
      rfl
    exact hscope.trans hmapping.symm
  · rw [Lookup.ofBindings_eq_append, Expr.evaluate_restrict]

end Forest

section Example

/-- A name and one that needs it, added up. -/
def sumOfNames : Expr :=
  ⟨⟨⟨0, 0⟩, none, [], none⟩, [.name "a", .name "b", .operator (.binary .add)]⟩

/-- The integer that an evaluation comes to. -/
def intOf? : Except Fault Value → Option Int
  | .ok (.int n) => some n
  | _ => none

theorem of_intOf? {x : Except Fault Value} {n : Int} (h : intOf? x = some n) :
    x = .ok (.int n) := by
  unfold intOf? at h
  split at h
  · rw [Option.some.inj h]
  · exact nomatch h

/-- With one of the two declarations of the example given, both names have values. -/
theorem evaluate_environments_cycle :
    sumOfNames.evaluate (cycleForest.lookup [("b", .int 2)] 1 1) =
        sumOfNames.evaluate (Lookup.ofBindings [] [("a", .int 2), ("b", .int 2)]) ∧
      sumOfNames.evaluate (Lookup.ofBindings [("b", .int 2)] [("a", .int 2), ("c", .int 3)]) =
        sumOfNames.evaluate (Lookup.ofBindings [] [("b", .int 2), ("a", .int 2)]) := by
  have hnames : sumOfNames.names = ["a", "b"] := by decide +kernel
  obtain ⟨hscope, hmapping⟩ :=
    Forest.evaluate_environments cycleForest [("b", .int 2)] 1 1 sumOfNames
  constructor
  · rw [hnames] at hscope
    refine hscope (fun _ => .int 2) fun n hn => of_intOf? ?_
    simp only [List.mem_cons, List.not_mem_nil, or_false] at hn
    rcases hn with rfl | rfl <;> decide +kernel
  · rw [hnames] at hmapping
    exact hmapping [("a", .int 2), ("c", .int 3)]

end Example

end Wdl
