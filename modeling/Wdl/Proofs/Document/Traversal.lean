import Wdl.Proofs.Document.Sound

/-!
Walks over a tree.

A walk goes on below a node in one of two places: after the method for the node, or inside of it if
the method asks for that.  The first is for walks that descend by themselves and the second for the
others, so no node is descended from twice, `visits_eq`, and both kinds of walk call the same
methods on the same nodes in the same order.  A walk whose methods do not always ask leaves out just
what stands below the nodes for which they do not.
-/

namespace Wdl

/-- The method that is called on a node is the one of its most specific class: of the classes that
it belongs to this one is tried first. -/
theorem Body.methodName_mem (b : Body) : (b.nodeClass, b.methodName) ∈ NodeClass.methods := by
  unfold methodName
  generalize b.nodeClass = c
  cases c <;> decide

theorem NodeClass.methods_unique {c : NodeClass} {m m' : String} (h : (c, m) ∈ methods)
    (h' : (c, m') ∈ methods) : m = m' := by
  cases c <;> simp [methods] at h h' <;> rw [h, h']

namespace Ast

/-- What is true of a tree if it is true of those below its node is true of all trees. -/
theorem childrenInduction {P : Ast → Prop} (h : ∀ a : Ast, (∀ c ∈ a.children, P c) → P a)
    (a : Ast) : P a :=
  h a fun c _ => childrenInduction h c
termination_by sizeOf a
decreasing_by
  rename_i hc
  exact sizeOf_child_lt hc

/-- The visit of the node of a tree. -/
def visit (a : Ast) : Visit := (a.node.body.methodName, a.node)

/-- The methods for all nodes above a place ask for the descent. -/
def Reached (asks : List Nat → Node → Bool) (a : Ast) (place : List Nat) : Prop :=
  ∀ q s, q <+: place → q ≠ place → a.sub? q = some s → asks q s.node = true

variable {auto : Bool} {asks asks' : List Nat → Node → Bool} {a : Ast} {cs : List Ast} {i : Nat}

theorem reached_nil (asks : List Nat → Node → Bool) (a : Ast) : a.Reached asks [] := by
  intro q s hq hne
  exact absurd (List.prefix_nil.mp hq) hne

theorem reached_cons {place : List Nat} {c : Ast} (hc : a.children[i]? = some c) :
    a.Reached asks (i :: place) ↔
      asks [] a.node = true ∧ c.Reached (fun q => asks (i :: q)) place := by
  constructor
  · intro h
    refine ⟨h [] a List.nil_prefix (List.cons_ne_nil i place).symm a.sub?_nil, ?_⟩
    intro q s hq hne hs
    refine h (i :: q) s (List.prefix_cons_inj i |>.mpr hq) (fun heq => hne (List.cons.inj heq).2) ?_
    rw [sub?_cons, hc, Option.bind_some, hs]
  · rintro ⟨hself, hbelow⟩ q s hq hne hs
    cases q with
    | nil =>
      obtain rfl := Option.some.inj (a.sub?_nil.symm.trans hs)
      exact hself
    | cons j q =>
      obtain ⟨rfl, hprefix⟩ := List.cons_prefix_cons.mp hq
      rw [sub?_cons, hc, Option.bind_some] at hs
      exact hbelow q s hprefix (fun heq => hne (congrArg _ heq)) hs

/-! ## One node -/

/-- There is one descent from a node, or none. -/
theorem visits_eq (auto : Bool) (asks : List Nat → Node → Bool) (a : Ast) :
    a.visits auto asks =
      ([], a.visit) ::
        if auto || asks [] a.node then visitsFrom auto asks 0 a.children else [] := by
  obtain ⟨id, n, cs⟩ := a
  show visits auto asks (.mk id n cs) = ([], n.body.methodName, n) ::
    if auto || asks [] n then visitsFrom auto asks 0 cs else []
  rw [visits]
  cases auto <;> cases asks [] n <;> simp

/-- What is called below a node stands in the tree of one of its children. -/
theorem mem_visitsFrom {place : List Nat} {v : Visit} :
    (place, v) ∈ visitsFrom auto asks i cs ↔
      ∃ j c q, cs[j]? = some c ∧ place = (i + j) :: q ∧
        (q, v) ∈ c.visits auto fun place => asks ((i + j) :: place) := by
  induction cs generalizing i with
  | nil => simp [visitsFrom]
  | cons c cs ih =>
    rw [visitsFrom, List.mem_append, ih, List.mem_map]
    constructor
    · rintro (⟨⟨q, w⟩, hw, heq⟩ | ⟨j, d, q, hd, rfl, hv⟩)
      · obtain ⟨rfl, rfl⟩ := Prod.mk.inj heq
        exact ⟨0, c, q, rfl, rfl, hw⟩
      · refine ⟨j + 1, d, q, hd, ?_, ?_⟩
        · rw [Nat.add_right_comm, Nat.add_assoc]
        · rwa [Nat.add_right_comm, Nat.add_assoc] at hv
    · rintro ⟨j, d, q, hd, rfl, hv⟩
      cases j with
      | zero =>
        obtain rfl := Option.some.inj hd
        exact .inl ⟨(q, v), hv, rfl⟩
      | succ j =>
        refine .inr ⟨j, d, q, hd, ?_, ?_⟩
        · rw [Nat.add_right_comm, Nat.add_assoc]
        · rwa [Nat.add_right_comm, Nat.add_assoc]

/-! ## Whole trees -/

/-- Walks that descend by themselves do what walks do whose methods always ask. -/
theorem visits_auto (asks : List Nat → Node → Bool) (a : Ast) :
    a.visits true asks = a.visits false fun _ _ => true := by
  induction a using childrenInduction generalizing asks with
  | h a ih =>
    have hchildren (cs : List Ast) (hcs : ∀ c ∈ cs, ∀ asks, c.visits true asks =
        c.visits false fun _ _ => true) (i : Nat) :
        visitsFrom true asks i cs = visitsFrom false (fun _ _ => true) i cs := by
      induction cs generalizing i with
      | nil => rfl
      | cons c cs ih =>
        obtain ⟨hc, hcs⟩ := List.forall_mem_cons.mp hcs
        rw [visitsFrom, visitsFrom, hc, ih hcs]
    rw [visits_eq, visits_eq, hchildren _ ih]
    rfl

/-- A node is visited if the methods for those above it ask for the descent. -/
theorem mem_visits {place : List Nat} {v : Visit} :
    (place, v) ∈ a.visits false asks ↔
      ∃ s, a.sub? place = some s ∧ v = s.visit ∧ a.Reached asks place := by
  induction a using childrenInduction generalizing asks place with
  | h a ih =>
    rw [visits_eq, List.mem_cons, Bool.false_or]
    constructor
    · rintro (heq | hbelow)
      · obtain ⟨rfl, rfl⟩ := Prod.mk.inj heq
        exact ⟨a, a.sub?_nil, rfl, reached_nil asks a⟩
      · by_cases hasks : asks [] a.node = true
        · rw [if_pos hasks] at hbelow
          obtain ⟨j, c, q, hc, rfl, hv⟩ := mem_visitsFrom.mp hbelow
          rw [Nat.zero_add] at hv ⊢
          obtain ⟨s, hs, rfl, hreached⟩ := (ih c (List.mem_of_getElem? hc)).mp hv
          refine ⟨s, ?_, rfl, (reached_cons hc).mpr ⟨hasks, hreached⟩⟩
          rw [sub?_cons, hc, Option.bind_some, hs]
        · rw [if_neg hasks] at hbelow
          exact absurd hbelow List.not_mem_nil
    · rintro ⟨s, hs, rfl, hreached⟩
      cases place with
      | nil =>
        obtain rfl := Option.some.inj (a.sub?_nil.symm.trans hs)
        exact .inl rfl
      | cons i place =>
        obtain ⟨c, hc, hs⟩ := exists_child hs
        obtain ⟨hasks, hreached⟩ := (reached_cons hc).mp hreached
        right
        rw [if_pos hasks, mem_visitsFrom]
        refine ⟨i, c, place, hc, ?_, ?_⟩
        · rw [Nat.zero_add]
        · rw [Nat.zero_add]
          exact (ih c (List.mem_of_getElem? hc)).mpr ⟨s, hs, rfl, hreached⟩

/-- Nodes are visited in the order of their places, each before those below it. -/
theorem visits_pairwise (a : Ast) (asks : List Nat → Node → Bool) :
    (a.visits false asks).Pairwise fun v w => v.1 < w.1 := by
  induction a using childrenInduction generalizing asks with
  | h a ih =>
    have hchildren (cs : List Ast) (hcs : ∀ c ∈ cs, ∀ asks,
        (c.visits false asks).Pairwise fun v w => v.1 < w.1) (i : Nat) :
        (visitsFrom false asks i cs).Pairwise fun v w => v.1 < w.1 := by
      induction cs generalizing i with
      | nil => exact .nil
      | cons c cs ih =>
        obtain ⟨hc, hcs⟩ := List.forall_mem_cons.mp hcs
        rw [visitsFrom, List.pairwise_append, List.pairwise_map]
        refine ⟨(hc _).imp fun h => List.cons_lt_cons_iff.mpr (.inr ⟨rfl, h⟩), ih hcs (i + 1), ?_⟩
        rintro ⟨p, v⟩ hv ⟨q, w⟩ hw
        obtain ⟨⟨p', v'⟩, hv', heq⟩ := List.mem_map.mp hv
        obtain ⟨rfl, rfl⟩ := Prod.mk.inj heq
        obtain ⟨j, d, q, -, rfl, -⟩ := mem_visitsFrom.mp hw
        exact List.cons_lt_cons_iff.mpr (.inl (by omega))
    rw [visits_eq, List.pairwise_cons, Bool.false_or]
    by_cases hasks : asks [] a.node = true
    · rw [if_pos hasks]
      refine ⟨?_, hchildren _ ih 0⟩
      rintro ⟨p, v⟩ hv
      obtain ⟨j, c, q, -, rfl, -⟩ := mem_visitsFrom.mp hv
      exact List.nil_lt_cons _ _
    · rw [if_neg hasks]
      exact ⟨List.forall_mem_nil _, .nil⟩

/-- What a walk leaves out leaves the rest in order. -/
theorem visits_sublist (asks : List Nat → Node → Bool) (a : Ast) :
    (a.visits false asks).Sublist (a.visits false fun _ _ => true) := by
  induction a using childrenInduction generalizing asks with
  | h a ih =>
    have hchildren (cs : List Ast) (hcs : ∀ c ∈ cs, ∀ asks,
        (c.visits false asks).Sublist (c.visits false fun _ _ => true)) (i : Nat) :
        (visitsFrom false asks i cs).Sublist (visitsFrom false (fun _ _ => true) i cs) := by
      induction cs generalizing i with
      | nil => exact .slnil
      | cons c cs ih =>
        obtain ⟨hc, hcs⟩ := List.forall_mem_cons.mp hcs
        rw [visitsFrom, visitsFrom]
        exact ((hc _).map _).append (ih hcs (i + 1))
    rw [visits_eq, visits_eq]
    refine List.Sublist.cons_cons _ ?_
    by_cases hasks : asks [] a.node = true
    · rw [hasks]
      exact hchildren _ ih 0
    · rw [Bool.false_or, if_neg hasks]
      exact List.nil_sublist _

/-- A walk that descends by itself and one whose methods always ask for the descent call the same
methods on the same nodes in the same order: each node of the tree once, before those below it, by
the method of its most specific class.  If the methods for some nodes do not ask, exactly what
stands below these is left out. -/
theorem walks_agree (a : Ast) (asks : List Nat → Node → Bool) :
    (a.visits true asks = a.visits false fun _ _ => true) ∧
    ((a.visits true asks).Pairwise fun v w => v.1 < w.1) ∧
    (∀ place method n, (place, method, n) ∈ a.visits true asks ↔
      ∃ s, a.sub? place = some s ∧ n = s.node ∧
        (n.body.nodeClass, method) ∈ NodeClass.methods) ∧
    (a.visits false asks).Sublist (a.visits true asks) ∧
    ∀ v, v ∈ a.visits false asks ↔
      v ∈ a.visits true asks ∧
        ∀ q s, q <+: v.1 → q ≠ v.1 → a.sub? q = some s → asks q s.node = true := by
  rw [visits_auto]
  refine ⟨rfl, visits_pairwise a _, fun place method n => ?_, visits_sublist asks a, ?_⟩
  · rw [mem_visits]
    constructor
    · rintro ⟨s, hs, heq, -⟩
      obtain ⟨rfl, rfl⟩ := Prod.mk.inj heq
      exact ⟨s, hs, rfl, s.node.body.methodName_mem⟩
    · rintro ⟨s, hs, rfl, hmethod⟩
      refine ⟨s, hs, ?_, fun _ _ _ _ _ => rfl⟩
      rw [NodeClass.methods_unique hmethod s.node.body.methodName_mem]
      rfl
  · rintro ⟨place, v⟩
    rw [mem_visits, mem_visits]
    constructor
    · rintro ⟨s, hs, hv, hreached⟩
      exact ⟨⟨s, hs, hv, fun _ _ _ _ _ => rfl⟩, hreached⟩
    · rintro ⟨⟨s, hs, hv, -⟩, hreached⟩
      exact ⟨s, hs, hv, hreached⟩

end Ast
end Wdl
