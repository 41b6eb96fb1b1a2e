import Wdl.Proofs.Grammar.Automaton

/-!
The items of the states of a grammar.

`Reads i r d` says that state `i` may be in the rule `r` after its first `d` symbols.  A state that
has been explored moves on over every symbol that it can read, a move carries over what can be read
after it and nothing else, and a state that can begin one rule of a nonterminal can begin them all.
-/

namespace Wdl
namespace Automaton

/-! ## Rules by number -/

theorem mem_foldl_byLhs (numbered : List (Rule × Nat)) (m : Std.HashMap Nonterminal (List Nat))
    (n : Nonterminal) (i : Nat) :
    i ∈ (numbered.foldl (fun m (r, i) => m.insert r.lhs (i :: m.getD r.lhs [])) m).getD n [] ↔
      i ∈ m.getD n [] ∨ ∃ r, (r, i) ∈ numbered ∧ r.lhs = n := by
  induction numbered generalizing m with
  | nil => simp
  | cons x numbered ih =>
    obtain ⟨r, k⟩ := x
    rw [List.foldl_cons, ih, Std.HashMap.getD_insert]
    by_cases hn : r.lhs = n
    · subst hn
      simp only [beq_self_eq_true, if_true, List.mem_cons, Prod.mk.injEq]
      constructor
      · rintro ((rfl | h) | ⟨r', h, hlhs⟩)
        · exact .inr ⟨r, .inl ⟨rfl, rfl⟩, rfl⟩
        · exact .inl h
        · exact .inr ⟨r', .inr h, hlhs⟩
      · rintro (h | ⟨r', ⟨rfl, rfl⟩ | h, hlhs⟩)
        · exact .inl (.inr h)
        · exact .inl (.inl rfl)
        · exact .inr ⟨r', h, hlhs⟩
    · rw [if_neg (by simpa using hn)]
      simp only [List.mem_cons, Prod.mk.injEq]
      refine or_congr_right ⟨?_, ?_⟩
      · rintro ⟨r', h, hlhs⟩
        exact ⟨r', .inr h, hlhs⟩
      · rintro ⟨r', ⟨rfl, rfl⟩ | h, hlhs⟩
        · exact absurd hlhs hn
        · exact ⟨r', h, hlhs⟩

theorem mem_byLhs {rules : List Rule} {n : Nonterminal} {i : Nat} :
    i ∈ (Source.ofRules rules).byLhs.getD n [] ↔ ∃ r, rules[i]? = some r ∧ r.lhs = n := by
  unfold Source.ofRules
  dsimp only
  rw [mem_foldl_byLhs]
  simp [List.mem_zipIdx_iff_getElem?]

variable {g : Source}

theorem next?_eq_some {item : Item} {x : Symbol} :
    g.next? item = some x ↔ ∃ r, g.rules[item.rule]? = some r ∧ r.rhs[item.dot]? = some x := by
  unfold Source.next? Source.rhs
  cases g.rules[item.rule]? <;> simp

/-! ## Closures -/

/-- The nonterminals that can begin what is read next after the items of a kernel. -/
def Source.opened (g : Source) (kernel : List Item) : List Nonterminal :=
  let nexts := kernel.filterMap fun item =>
    match g.next? item with
    | some (.nonterminal n) => some n
    | _ => none
  g.begun (nexts.length + g.rules.size) [] nexts

theorem mem_closure {kernel : List Item} {item : Item} :
    item ∈ g.closure kernel ↔ item ∈ kernel ∨
      item ∉ kernel ∧ item.dot = 0 ∧ ∃ n ∈ g.opened kernel, item.rule ∈ g.byLhs.getD n [] := by
  have hclosure : g.closure kernel = kernel ++
      ((g.opened kernel).flatMap fun n => (g.byLhs.getD n []).map (⟨·, 0⟩)).filter
        fun item => !kernel.contains item := rfl
  rw [hclosure, List.mem_append, List.mem_filter, List.mem_flatMap]
  refine or_congr_right ⟨?_, ?_⟩
  · rintro ⟨⟨n, hn, hitem⟩, hnew⟩
    obtain ⟨r, hr, rfl⟩ := List.mem_map.mp hitem
    exact ⟨by simpa using hnew, rfl, n, hn, hr⟩
  · rintro ⟨hnew, hdot, n, hn, hr⟩
    obtain ⟨r, d⟩ := item
    obtain rfl : d = 0 := hdot
    exact ⟨⟨n, hn, List.mem_map_of_mem hr⟩, by simpa using hnew⟩

/-- What holds of the nonterminals after the dots and goes over to those that begin their rules
holds of all that can begin what is read next. -/
theorem begun_induction {P : Nonterminal → Prop}
    (hfirst : ∀ n, P n → ∀ r ∈ g.byLhs.getD n [], ∀ m,
      g.next? ⟨r, 0⟩ = some (.nonterminal m) → P m)
    (fuel : Nat) (seen todo : List Nonterminal) (hseen : ∀ n ∈ seen, P n)
    (htodo : ∀ n ∈ todo, P n) : ∀ n ∈ g.begun fuel seen todo, P n := by
  induction fuel generalizing seen todo with
  | zero => exact hseen
  | succ fuel ih =>
    cases todo with
    | nil => exact hseen
    | cons n todo =>
      obtain ⟨hn, htodo⟩ := List.forall_mem_cons.mp htodo
      rw [Source.begun]
      split
      · exact ih seen todo hseen htodo
      · refine ih _ _ (List.forall_mem_cons.mpr ⟨hn, hseen⟩) (List.forall_mem_append.mpr ⟨?_, htodo⟩)
        intro m hm
        obtain ⟨r, hr, hmatch⟩ := List.mem_filterMap.mp hm
        split at hmatch
        · rename_i m' hnext
          exact Option.some.inj hmatch ▸ hfirst n hn r hr m' hnext
        · exact nomatch hmatch

theorem opened_induction {P : Nonterminal → Prop} {kernel : List Item}
    (hkernel : ∀ item ∈ kernel, ∀ n, g.next? item = some (.nonterminal n) → P n)
    (hfirst : ∀ n, P n → ∀ r ∈ g.byLhs.getD n [], ∀ m,
      g.next? ⟨r, 0⟩ = some (.nonterminal m) → P m) : ∀ n ∈ g.opened kernel, P n := by
  refine begun_induction hfirst _ _ _ (List.forall_mem_nil _) fun n hn => ?_
  obtain ⟨item, hitem, hmatch⟩ := List.mem_filterMap.mp hn
  split at hmatch
  · rename_i n' hnext
    exact Option.some.inj hmatch ▸ hkernel item hitem n' hnext
  · exact nomatch hmatch

/-! ## Successors -/

/-- An item after one more symbol. -/
def Item.advance (item : Item) : Item := ⟨item.rule, item.dot + 1⟩

/-- Collects one more item by the symbol that it reads next. -/
def Source.collect (g : Source) (groups : Array Symbol × Std.HashMap Symbol (List Item))
    (item : Item) : Array Symbol × Std.HashMap Symbol (List Item) :=
  match g.next? item with
  | none => groups
  | some x =>
    match groups.2[x]? with
    | some old => (groups.1, groups.2.insert x (item.advance :: old))
    | none => (groups.1.push x, groups.2.insert x [item.advance])

theorem collect_of_next? {item : Item} {x : Symbol} (hx : g.next? item = some x)
    (groups : Array Symbol × Std.HashMap Symbol (List Item)) :
    (g.collect groups item).2 = groups.2.insert x (item.advance :: groups.2.getD x []) := by
  unfold Source.collect
  rw [hx, Std.HashMap.getD_eq_getD_getElem?]
  dsimp only
  split
  · rename_i old hold
    rw [hold]
    rfl
  · rename_i hnone
    rw [hnone]
    rfl

/-- Every group is listed by its symbol. -/
def Listed (groups : Array Symbol × Std.HashMap Symbol (List Item)) : Prop :=
  ∀ (x : Symbol) (old : List Item), groups.2[x]? = some old → x ∈ groups.1

theorem mem_collect {groups : Array Symbol × Std.HashMap Symbol (List Item)}
    (hlisted : Listed groups) (item : Item) :
    Listed (g.collect groups item) ∧
      (∀ x, x ∈ (g.collect groups item).1 ↔ x ∈ groups.1 ∨ g.next? item = some x) ∧
      ∀ x i, i ∈ (g.collect groups item).2.getD x [] ↔ i ∈ groups.2.getD x [] ∨
        g.next? item = some x ∧ i = item.advance := by
  cases hx : g.next? item with
  | none =>
    have heq : g.collect groups item = groups := by
      unfold Source.collect
      rw [hx]
    rw [heq]
    exact ⟨hlisted, by simp, by simp⟩
  | some y =>
    have hgroups := collect_of_next? hx groups
    have horder : ∀ x, x ∈ (g.collect groups item).1 ↔ x ∈ groups.1 ∨ x = y := by
      intro x
      unfold Source.collect
      rw [hx]
      dsimp only
      split
      · rename_i old hold
        exact ⟨.inl, fun h => h.elim id fun h => h ▸ hlisted y old hold⟩
      · exact Array.mem_push
    refine ⟨fun x old hold => ?_, fun x => ?_, fun x i => ?_⟩
    · rw [hgroups, Std.HashMap.getElem?_insert] at hold
      rw [horder]
      split at hold
      · rename_i hxy
        exact .inr (eq_of_beq hxy).symm
      · exact .inl (hlisted x old hold)
    · rw [horder, Option.some.injEq, eq_comm (a := x)]
    · rw [hgroups, Std.HashMap.getD_insert]
      by_cases hxy : y = x
      · subst hxy
        simp [or_comm]
      · rw [if_neg (by simpa using hxy)]
        simp [hxy]

/-- What the groups hold that are collected from some items. -/
theorem mem_foldl_collect (items : List Item)
    {groups : Array Symbol × Std.HashMap Symbol (List Item)} (hlisted : Listed groups) :
    (∀ x, x ∈ (items.foldl g.collect groups).1 ↔
        x ∈ groups.1 ∨ ∃ item ∈ items, g.next? item = some x) ∧
      ∀ x i, i ∈ (items.foldl g.collect groups).2.getD x [] ↔ i ∈ groups.2.getD x [] ∨
        ∃ item ∈ items, g.next? item = some x ∧ i = item.advance := by
  induction items generalizing groups with
  | nil => simp
  | cons item items ih =>
    obtain ⟨hlisted', horder, hmembers⟩ := mem_collect (g := g) hlisted item
    obtain ⟨horder', hmembers'⟩ := ih hlisted'
    refine ⟨fun x => ?_, fun x i => ?_⟩
    · rw [List.foldl_cons, horder', horder]
      simp [or_assoc]
    · rw [List.foldl_cons, hmembers', hmembers]
      simp [or_assoc]

theorem successors_eq (g : Source) (items : List Item) :
    g.successors items = (items.foldl g.collect (#[], ∅)).1.toList.map fun x =>
      (x, ((items.foldl g.collect (#[], ∅)).2.getD x []).mergeSort Item.le) := by
  rfl

/-- There is a successor for each symbol that is read next, and it has the items that have read it.
-/
theorem mem_successors (g : Source) (items : List Item) :
    (∀ x, (∃ next, (x, next) ∈ g.successors items) ↔ ∃ item ∈ items, g.next? item = some x) ∧
      ∀ x next, (x, next) ∈ g.successors items → ∀ i, i ∈ next ↔
        ∃ item ∈ items, g.next? item = some x ∧ i = item.advance := by
  have hlisted : Listed ((#[], ∅) : Array Symbol × Std.HashMap Symbol (List Item)) :=
    fun x old h => by simp at h
  obtain ⟨horder, hmembers⟩ := @mem_foldl_collect g items (#[], ∅) hlisted
  rw [successors_eq]
  refine ⟨fun x => ?_, fun x next hnext i => ?_⟩
  · have hx := horder x
    simp only [Array.not_mem_empty, false_or] at hx
    rw [← hx]
    constructor
    · rintro ⟨next, hnext⟩
      obtain ⟨y, hy, heq⟩ := List.mem_map.mp hnext
      obtain ⟨rfl, -⟩ := Prod.mk.inj heq
      exact Array.mem_toList_iff.mp hy
    · exact fun h => ⟨_, List.mem_map.mpr ⟨x, Array.mem_toList_iff.mpr h, rfl⟩⟩
  · obtain ⟨y, hy, heq⟩ := List.mem_map.mp hnext
    obtain ⟨rfl, rfl⟩ := Prod.mk.inj heq
    rw [List.mem_mergeSort]
    have hi := hmembers y i
    rwa [Std.HashMap.getD_empty, or_iff_right List.not_mem_nil] at hi

/-- A symbol has one successor. -/
theorem successors_unique {items : List Item} {x : Symbol} {next next' : List Item}
    (h : (x, next) ∈ g.successors items) (h' : (x, next') ∈ g.successors items) : next = next' := by
  obtain ⟨y, -, heq⟩ := List.mem_map.mp h
  obtain ⟨y', -, heq'⟩ := List.mem_map.mp h'
  obtain ⟨rfl, rfl⟩ := Prod.mk.inj heq
  obtain ⟨rfl, rfl⟩ := Prod.mk.inj heq'
  rfl

/-! ## States -/

namespace Exploration

variable {e : Exploration} {kernel : List Item}

/-- States are numbered by their items, all of them, and no two alike. -/
def Numbered (e : Exploration) : Prop :=
  ∀ (kernel : List Item) (i : Nat), e.numbers[kernel]? = some i ↔ e.kernels[i]? = some kernel

theorem number_cases (e : Exploration) (kernel : List Item) :
    (∃ i, e.numbers[kernel]? = some i ∧ e.number kernel = (e, i)) ∨
      e.numbers[kernel]? = none ∧ e.number kernel =
        ({ e with
            kernels := e.kernels.push kernel
            numbers := e.numbers.insert kernel e.kernels.size }, e.kernels.size) := by
  unfold number
  cases h : e.numbers[kernel]? with
  | some i => exact .inl ⟨i, rfl, rfl⟩
  | none => exact .inr ⟨rfl, rfl⟩

theorem Numbered.number_self (h : e.Numbered) (kernel : List Item) :
    (e.number kernel).1.kernels[(e.number kernel).2]? = some kernel := by
  rcases e.number_cases kernel with ⟨i, hi, heq⟩ | ⟨-, heq⟩
  · rw [heq]
    exact (h kernel i).mp hi
  · rw [heq]
    exact Array.getElem?_push_size

/-- Numbering a set of items adds it at most. -/
theorem eq_of_number {i : Nat} {found : List Item}
    (h : (e.number kernel).1.kernels[i]? = some found) :
    e.kernels[i]? = some found ∨ found = kernel := by
  rcases e.number_cases kernel with ⟨j, -, heq⟩ | ⟨-, heq⟩
  · rw [heq] at h
    exact .inl h
  · rw [heq] at h
    dsimp only at h
    rw [Array.getElem?_push] at h
    split at h
    · exact .inr (Option.some.inj h).symm
    · exact .inl h

theorem Numbered.number (h : e.Numbered) (kernel : List Item) :
    (e.number kernel).1.Numbered := by
  rcases e.number_cases kernel with ⟨i, -, heq⟩ | ⟨hnone, heq⟩
  · rw [heq]
    exact h
  · rw [heq]
    intro k i
    dsimp only
    rw [Std.HashMap.getElem?_insert, Array.getElem?_push]
    by_cases hk : kernel = k
    · subst hk
      rw [if_pos (beq_self_eq_true kernel)]
      constructor
      · rintro ⟨⟩
        exact if_pos rfl
      · intro hi
        split at hi
        · rename_i hsize
          rw [hsize]
        · rw [(h kernel i).mpr hi] at hnone
          exact nomatch hnone
    · rw [if_neg (by simpa using hk), h k i]
      constructor
      · intro hi
        rw [if_neg (Nat.ne_of_lt (Array.getElem?_eq_some_iff.mp hi).1)]
        exact hi
      · intro hi
        split at hi
        · exact absurd (Option.some.inj hi) hk
        · exact hi

/-- What becomes of an exploration by numbering the successors of a state. -/
structure Numbers (e : Exploration) (succs : List (Symbol × List Item))
    (moves : List (Symbol × Nat)) (e' : Exploration) (moves' : List (Symbol × Nat)) : Prop where
  numbered : e'.Numbered
  moves_eq : e'.moves = e.moves
  keeps : ∀ (i : Nat) (old : List Item), e.kernels[i]? = some old → e'.kernels[i]? = some old
  adds : ∀ (i : Nat) (found : List Item), e'.kernels[i]? = some found →
    e.kernels[i]? = some found ∨ ∃ x, (x, found) ∈ succs
  covers : ∀ s ∈ succs, ∃ j, (s.1, j) ∈ moves'
  leads : ∀ move ∈ moves', move ∈ moves ∨
    ∃ next, (move.1, next) ∈ succs ∧ e'.kernels[move.2]? = some next
  extends_moves : moves ⊆ moves'

theorem numbers_foldl (succs : List (Symbol × List Item)) {e : Exploration} (h : e.Numbered)
    (moves : List (Symbol × Nat)) :
    let r := succs.foldl
      (fun (e, moves) (x, next) =>
        let (e, j) := e.number next
        (e, (x, j) :: moves))
      (e, moves)
    Numbers e succs moves r.1 r.2 := by
  induction succs generalizing e moves with
  | nil => exact ⟨h, rfl, fun _ _ => id, fun _ _ => .inl, List.forall_mem_nil _, fun _ => .inl,
      List.Subset.refl _⟩
  | cons s succs ih =>
    have hr := ih (h.number s.2) ((s.1, (e.number s.2).2) :: moves)
    refine ⟨hr.numbered, hr.moves_eq.trans (number_moves s.2),
      fun i old hold => hr.keeps i old (number_kernels s.2 hold), fun i found hfound => ?_,
      List.forall_mem_cons.mpr ⟨⟨_, hr.extends_moves List.mem_cons_self⟩, hr.covers⟩,
      fun move hmove => ?_, fun move hmove => hr.extends_moves (List.mem_cons_of_mem _ hmove)⟩
    · rcases hr.adds i found hfound with hold | ⟨x, hx⟩
      · rcases eq_of_number hold with hold | rfl
        · exact .inl hold
        · exact .inr ⟨s.1, List.mem_cons_self⟩
      · exact .inr ⟨x, List.mem_cons_of_mem _ hx⟩
    · rcases hr.leads move hmove with hmove | ⟨next, hnext, hkernel⟩
      · rcases List.mem_cons.mp hmove with rfl | hmove
        · exact .inr ⟨s.2, List.mem_cons_self, hr.keeps _ _ (h.number_self s.2)⟩
        · exact .inl hmove
      · exact .inr ⟨next, List.mem_cons_of_mem _ hnext, hkernel⟩

/-- Some moves are those to the successors of a state, one for each. -/
structure MovesTo (e : Exploration) (succs : List (Symbol × List Item))
    (ms : List (Symbol × Nat)) : Prop where
  covers : ∀ s ∈ succs, ∃ j, (s.1, j) ∈ ms
  leads : ∀ move ∈ ms, ∃ next, (move.1, next) ∈ succs ∧ e.kernels[move.2]? = some next

/-- The states before the number `n` are explored: their moves lead to their successors, and every
state but the first is such a successor. -/
structure Explored (g : Source) (opening : List Item) (n : Nat) (e : Exploration) : Prop where
  first : e.kernels[0]? = some opening
  numbered : e.Numbered
  size : e.moves.size = n
  came : ∀ (j : Nat) (kernel : List Item), e.kernels[j]? = some kernel → kernel = opening ∨
    ∃ (i : Nat) (before : List Item) (x : Symbol), i < n ∧ e.kernels[i]? = some before ∧
      (x, kernel) ∈ g.successors (g.closure before)
  moved : ∀ (i : Nat) (ms : List (Symbol × Nat)), e.moves[i]? = some ms → ∃ kernel,
    e.kernels[i]? = some kernel ∧ e.MovesTo (g.successors (g.closure kernel)) ms

theorem Explored.step {opening : List Item} {n : Nat} (h : e.Explored g opening n)
    (hkernel : e.kernels[n]? = some kernel) {e' : Exploration} {ms : List (Symbol × Nat)}
    (hnumbers : Numbers e (g.successors (g.closure kernel)) [] e' ms) :
    Explored g opening (n + 1) { e' with moves := e'.moves.push ms } := by
  refine ⟨hnumbers.keeps 0 _ h.first, hnumbers.numbered, ?_, fun j found hfound => ?_,
    fun i ms' hms' => ?_⟩
  · dsimp only
    rw [Array.size_push, hnumbers.moves_eq, h.size]
  · rcases hnumbers.adds j found hfound with hold | ⟨x, hx⟩
    · refine (h.came j found hold).imp_right ?_
      rintro ⟨i, before, x, hi, hbefore, hx⟩
      exact ⟨i, before, x, Nat.lt_succ_of_lt hi, hnumbers.keeps i before hbefore, hx⟩
    · exact .inr ⟨n, kernel, x, Nat.lt_succ_self n, hnumbers.keeps n kernel hkernel, hx⟩
  · dsimp only at hms'
    rw [hnumbers.moves_eq, Array.getElem?_push, h.size] at hms'
    split at hms'
    · rename_i hi
      obtain rfl := Option.some.inj hms'
      subst hi
      exact ⟨kernel, hnumbers.keeps i kernel hkernel, hnumbers.covers, fun move hmove =>
        (hnumbers.leads move hmove).resolve_left List.not_mem_nil⟩
    · obtain ⟨k, hk, hcovers, hleads⟩ := h.moved i ms' hms'
      refine ⟨k, hnumbers.keeps i k hk, hcovers, fun move hmove => ?_⟩
      obtain ⟨next, hnext, hkernel'⟩ := hleads move hmove
      exact ⟨next, hnext, hnumbers.keeps _ _ hkernel'⟩

theorem Explored.explore {opening : List Item} {n : Nat} (h : e.Explored g opening n)
    (fuel : Nat) : ∃ m, (g.explore fuel n e).Explored g opening m := by
  induction fuel generalizing n e with
  | zero => exact ⟨n, h⟩
  | succ fuel ih =>
    unfold Source.explore
    split
    · exact ⟨n, h⟩
    · rename_i kernel hkernel
      exact ih (h.step hkernel (numbers_foldl _ h.numbered []))

end Exploration

variable {start : Nonterminal} {rules : List Rule}

/-- The items of the first state. -/
def openingItems (rules : List Rule) : List Item := [⟨rules.length, 0⟩]

/-- The states before any has been explored. -/
def openingStates (rules : List Rule) : Exploration :=
  { kernels := #[openingItems rules], numbers := (∅ : Std.HashMap _ _).insert (openingItems rules) 0,
    moves := #[] }

theorem statesOf_eq : statesOf start rules =
    (sourceOf start rules).explore (Nat.pow 2 (sourceOf start rules).items.length) 0
      (openingStates rules) := rfl

variable (start rules) in
theorem openingStates_explored :
    (openingStates rules).Explored (sourceOf start rules) (openingItems rules) 0 := by
  refine ⟨?_, fun kernel i => ?_, rfl, fun j kernel hj => ?_, fun i ms hms => ?_⟩
  · rfl
  · have hnumber : ((∅ : Std.HashMap (List Item) Nat).insert (openingItems rules) 0)[kernel]? =
        if openingItems rules == kernel then some 0 else none := by
      rw [Std.HashMap.getElem?_insert, Std.HashMap.getElem?_empty]
    refine (iff_of_eq (congrArg (· = some i) hnumber)).trans ?_
    show _ ↔ #[openingItems rules][i]? = some kernel
    rw [List.getElem?_toArray]
    cases i with
    | zero => simp
    | succ i => simp
  · change #[openingItems rules][j]? = some kernel at hj
    exact .inl (List.mem_singleton.mp (List.mem_of_getElem? (List.getElem?_toArray ▸ hj)))
  · change (#[] : Array (List (Symbol × Nat)))[i]? = some ms at hms
    exact absurd hms (by simp)

variable (start rules) in
theorem statesOf_explored : ∃ n, (statesOf start rules).Explored (sourceOf start rules)
    (openingItems rules) n :=
  (openingStates_explored start rules).explore _

/-! ## Items

From here on `i`, `j` are states of the grammar, and the rules are those of the grammar and the
opening rule. -/

section Items

variable (start rules)

/-- State `i` may be in the rule `r` after its first `d` symbols. -/
def Reads (i : Nat) (r : Rule) (d : Nat) : Prop :=
  ∃ kernel n, (statesOf start rules).kernels[i]? = some kernel ∧
    (sourceOf start rules).rules[n]? = some r ∧ (⟨n, d⟩ : Item) ∈ (sourceOf start rules).closure kernel

/-- State `i` moves to state `j` over a symbol. -/
def MovesOver (i : Nat) (x : Symbol) (j : Nat) : Prop :=
  ((statesOf start rules).moves[i]?.getD []).lookup x = some j

/-- The moves of state `i` have been found. -/
def IsExplored (i : Nat) : Prop := i < (statesOf start rules).moves.size

variable {start rules}
variable {i j : Nat} {x : Symbol} {r : Rule} {d : Nat}

theorem exists_lookup_of_mem {α β : Type} [BEq α] [LawfulBEq α] {l : List (α × β)} {a : α} {b : β}
    (h : (a, b) ∈ l) : ∃ b', l.lookup a = some b' := by
  cases hl : l.lookup a with
  | some b' => exact ⟨b', rfl⟩
  | none =>
    have := List.lookup_eq_none_iff.mp hl _ h
    simp at this

theorem MovesOver.isExplored (h : MovesOver start rules i x j) : IsExplored start rules i := by
  unfold MovesOver at h
  cases hi : (statesOf start rules).moves[i]? with
  | none =>
    rw [hi] at h
    exact nomatch h
  | some ms => exact (Array.getElem?_eq_some_iff.mp hi).1

/-- A move leads to the successor of a state. -/
theorem MovesOver.successor (h : MovesOver start rules i x j) : ∃ kernel next,
    (statesOf start rules).kernels[i]? = some kernel ∧
      (x, next) ∈ (sourceOf start rules).successors ((sourceOf start rules).closure kernel) ∧
      (statesOf start rules).kernels[j]? = some next := by
  obtain ⟨n, hexplored⟩ := statesOf_explored start rules
  obtain ⟨ms, hms⟩ : ∃ ms, (statesOf start rules).moves[i]? = some ms :=
    ⟨_, Array.getElem?_eq_getElem h.isExplored⟩
  unfold MovesOver at h
  rw [hms] at h
  obtain ⟨kernel, hkernel, -, hleads⟩ := hexplored.moved i ms hms
  obtain ⟨next, hnext, hj⟩ := hleads _ (mem_of_lookup h)
  exact ⟨kernel, next, hkernel, hnext, hj⟩

/-- What is read on after a move. -/
theorem Reads.move (h : Reads start rules i r d) (hx : r.rhs[d]? = some x)
    (hmove : MovesOver start rules i x j) : Reads start rules j r (d + 1) := by
  obtain ⟨kernel, n, hkernel, hn, hitem⟩ := h
  obtain ⟨kernel', next, hkernel', hnext, hj⟩ := hmove.successor
  obtain rfl := Option.some.inj (hkernel.symm.trans hkernel')
  refine ⟨next, n, hj, hn, mem_closure.mpr (.inl ?_)⟩
  exact ((mem_successors _ _).2 x next hnext _).mpr
    ⟨⟨n, d⟩, hitem, next?_eq_some.mpr ⟨r, hn, hx⟩, rfl⟩

/-- An explored state moves over every symbol that it can read next. -/
theorem Reads.exists_move (h : Reads start rules i r d) (hx : r.rhs[d]? = some x)
    (hexplored : IsExplored start rules i) : ∃ j, MovesOver start rules i x j := by
  obtain ⟨kernel, n, hkernel, hn, hitem⟩ := h
  obtain ⟨m, hall⟩ := statesOf_explored start rules
  have hms := Array.getElem?_eq_getElem hexplored
  obtain ⟨kernel', hkernel', hcovers, -⟩ := hall.moved i _ hms
  obtain rfl := Option.some.inj (hkernel.symm.trans hkernel')
  obtain ⟨next, hnext⟩ := ((mem_successors (sourceOf start rules) _).1 x).mpr
    ⟨⟨n, d⟩, hitem, next?_eq_some.mpr ⟨r, hn, hx⟩⟩
  obtain ⟨j, hj⟩ := hcovers _ hnext
  obtain ⟨j', hj'⟩ := exists_lookup_of_mem hj
  refine ⟨j', ?_⟩
  unfold MovesOver
  rw [hms]
  exact hj'

/-- What is moved over is read next by some rule. -/
theorem MovesOver.exists_reads (h : MovesOver start rules i x j) :
    ∃ r d, Reads start rules i r d ∧ r.rhs[d]? = some x := by
  obtain ⟨kernel, next, hkernel, hnext, -⟩ := h.successor
  obtain ⟨⟨n, d⟩, hitem, hread⟩ := ((mem_successors _ _).1 x).mp ⟨next, hnext⟩
  obtain ⟨r, hr, hx⟩ := next?_eq_some.mp hread
  exact ⟨r, d, ⟨kernel, n, hkernel, hr, hitem⟩, hx⟩

/-- What has read a symbol was in the state before. -/
theorem Reads.of_move (h : Reads start rules j r (d + 1)) (hmove : MovesOver start rules i x j) :
    Reads start rules i r d ∧ r.rhs[d]? = some x := by
  obtain ⟨kernel, n, hkernel, hn, hitem⟩ := h
  obtain ⟨before, next, hbefore, hnext, hj⟩ := hmove.successor
  obtain rfl := Option.some.inj (hkernel.symm.trans hj)
  have hin := (mem_closure.mp hitem).resolve_right fun h => nomatch h.2.1
  obtain ⟨⟨n', d'⟩, hitem', hread, heq⟩ := ((mem_successors _ _).2 x _ hnext _).mp hin
  obtain ⟨rfl, hd⟩ := Item.mk.inj heq
  obtain rfl := Nat.succ.inj hd
  obtain ⟨r', hr', hx⟩ := next?_eq_some.mp hread
  obtain rfl := Option.some.inj (hn.symm.trans hr')
  exact ⟨⟨before, n, hbefore, hn, hitem'⟩, hx⟩

/-- What has read a symbol comes from some explored state. -/
theorem Reads.origin (h : Reads start rules j r (d + 1)) :
    ∃ i x, MovesOver start rules i x j := by
  obtain ⟨kernel, n, hkernel, hn, hitem⟩ := h
  have hin := (mem_closure.mp hitem).resolve_right fun h => nomatch h.2.1
  obtain ⟨m, hall⟩ := statesOf_explored start rules
  rcases hall.came j kernel hkernel with rfl | ⟨i, before, x, hi, hbefore, hx⟩
  · exact nomatch List.mem_singleton.mp hin
  · have hms := Array.getElem?_eq_getElem (hall.size ▸ hi)
    obtain ⟨before', hbefore', hcovers, hleads⟩ := hall.moved i _ hms
    obtain rfl := Option.some.inj (hbefore.symm.trans hbefore')
    obtain ⟨k, hk⟩ := hcovers _ hx
    obtain ⟨k', hk'⟩ := exists_lookup_of_mem hk
    obtain ⟨next, hnext, hkernel'⟩ := hleads _ (mem_of_lookup hk')
    -- states are known by their items, so the move leads here
    rw [successors_unique hnext hx] at hkernel'
    have hjk := ((hall.numbered kernel j).mpr hkernel).symm.trans
      ((hall.numbered kernel k').mpr hkernel')
    refine ⟨i, x, ?_⟩
    unfold MovesOver
    rw [hms, Option.some.inj hjk]
    exact hk'

theorem rules_sourceOf {n : Nat} (h : (sourceOf start rules).rules[n]? = some r) :
    rules[n]? = some r ∨ n = rules.length ∧ r = openingRule start := by
  have hpush : (sourceOf start rules).rules = rules.toArray.push (openingRule start) := rfl
  rw [hpush, Array.getElem?_push] at h
  split at h
  · rename_i hn
    exact .inr ⟨by simpa using hn, (Option.some.inj h).symm⟩
  · exact .inl (by simpa using h)

variable (start) in
/-- A rule of the grammar has the same number with the opening rule. -/
theorem source_of_rules {n : Nat} (h : rules[n]? = some r) :
    (sourceOf start rules).rules[n]? = some r ∧ (sourceOf start rules).rhs n = r.rhs ∧
      n ∈ (sourceOf start rules).byLhs.getD r.lhs [] := by
  have hlt : n < rules.length := (List.getElem?_eq_some_iff.mp h).1
  have hrule : (sourceOf start rules).rules[n]? = some r := by
    have hpush : (sourceOf start rules).rules = rules.toArray.push (openingRule start) := rfl
    rw [hpush, Array.getElem?_push, if_neg (by simpa using Nat.ne_of_lt hlt)]
    simpa using h
  refine ⟨hrule, ?_, mem_byLhs.mpr ⟨r, h, rfl⟩⟩
  unfold Source.rhs
  rw [hrule]
  rfl

/-- A rule other than the opening rule that is at its beginning comes with all rules of its
nonterminal. -/
theorem Reads.siblings (h : Reads start rules i r 0) (hr : r ≠ openingRule start) :
    r ∈ rules ∧ ∀ r' ∈ rules, r'.lhs = r.lhs → Reads start rules i r' 0 := by
  obtain ⟨kernel, n, hkernel, hn, hitem⟩ := h
  obtain hold := (rules_sourceOf hn).resolve_right fun h => hr h.2
  refine ⟨List.mem_of_getElem? hold, fun r' hr' hlhs => ?_⟩
  obtain ⟨m, hall⟩ := statesOf_explored start rules
  have hnotin : (⟨n, 0⟩ : Item) ∉ kernel := by
    intro hin
    rcases hall.came i kernel hkernel with rfl | ⟨-, before, x, -, -, hx⟩
    · have hlength := congrArg Item.rule (List.mem_singleton.mp hin)
      rw [show n = rules.length from hlength, List.getElem?_eq_none (Nat.le_refl _)] at hold
      exact nomatch hold
    · obtain ⟨item, -, -, heq⟩ := ((mem_successors _ _).2 x _ hx _).mp hin
      exact nomatch congrArg Item.dot heq
  obtain ⟨-, -, a, ha, hbegins⟩ := (mem_closure.mp hitem).resolve_left hnotin
  obtain ⟨r₀, hr₀, hlhs₀⟩ := mem_byLhs.mp hbegins
  obtain rfl := Option.some.inj (hold.symm.trans hr₀)
  obtain ⟨n', hn'⟩ := List.mem_iff_getElem?.mp hr'
  refine ⟨kernel, n', hkernel, (source_of_rules start hn').1, mem_closure.mpr ?_⟩
  by_cases hin : (⟨n', 0⟩ : Item) ∈ kernel
  · exact .inl hin
  · exact .inr ⟨hin, rfl, a, ha, mem_byLhs.mpr ⟨r', hn', hlhs.trans hlhs₀⟩⟩

/-- What holds of the nonterminals that can be read next in a state that has just read something,
and goes over to those that begin their rules, holds of the nonterminals that can begin there. -/
theorem Reads.begun {P : Nonterminal → Prop} (h : Reads start rules j r 0) (hmove : MovesOver start rules i x j)
    (hkernel : ∀ r' d n, Reads start rules j r' (d + 1) →
      r'.rhs[d + 1]? = some (.nonterminal n) → P n)
    (hfirst : ∀ r' ∈ rules, P r'.lhs → ∀ m, r'.rhs[0]? = some (.nonterminal m) → P m) :
    P r.lhs := by
  obtain ⟨kernel, n, hj, hn, hitem⟩ := h
  obtain ⟨before, next, -, hnext, hj'⟩ := hmove.successor
  obtain rfl := Option.some.inj (hj.symm.trans hj')
  have hread : ∀ item ∈ kernel, ∃ d, item.dot = d + 1 := by
    intro item hin
    obtain ⟨item', -, -, rfl⟩ := ((mem_successors _ _).2 x _ hnext _).mp hin
    exact ⟨item'.dot, rfl⟩
  have hnotin : (⟨n, 0⟩ : Item) ∉ kernel := fun hin => by
    obtain ⟨d, hd⟩ := hread _ hin
    exact nomatch hd
  obtain ⟨-, -, a, ha, hbegins⟩ := (mem_closure.mp hitem).resolve_left hnotin
  obtain ⟨r₀, hr₀, rfl⟩ := mem_byLhs.mp hbegins
  obtain rfl := Option.some.inj (hn.symm.trans (source_of_rules start hr₀).1)
  refine opened_induction (P := P) (fun item hin m hm => ?_) (fun m hm k hk m' hm' => ?_) _ ha
  · obtain ⟨d, hd⟩ := hread item hin
    obtain ⟨r', hr', hx'⟩ := next?_eq_some.mp hm
    rw [hd] at hx'
    refine hkernel r' d m ⟨kernel, item.rule, hj, hr', mem_closure.mpr (.inl ?_)⟩ hx'
    rw [← hd]
    exact hin
  · obtain ⟨r', hr', rfl⟩ := mem_byLhs.mp hk
    obtain ⟨r'', hr'', hx'⟩ := next?_eq_some.mp hm'
    rcases rules_sourceOf hr'' with hr'' | ⟨hlength, -⟩
    · obtain rfl := Option.some.inj (hr'.symm.trans hr'')
      exact hfirst r' (List.mem_of_getElem? hr') hm m' hx'
    · rw [show k = rules.length from hlength, List.getElem?_eq_none (Nat.le_refl _)] at hr'
      exact nomatch hr'

end Items

end Automaton
end Wdl
