import Wdl.Grammar.Automaton
import Wdl.Proofs.Occurrences

/-!
What the automaton of a grammar can do.

Two facts are enough to trust a parse, and they make an automaton `Faithful`.  Every rule that it
reduces is a rule of the grammar or the opening rule.  And a state is entered over one symbol only,
so that the accepting state is entered over the start symbol.  Nothing is said about lookaheads,
which decide whether a text is accepted but not what it is taken for.
-/

namespace Wdl
namespace Automaton

/-! ## Successors -/

/-- Items that have just read a symbol. -/
def Source.HasRead (g : Source) (x : Symbol) (kernel : List Item) : Prop :=
  kernel ≠ [] ∧ ∀ item ∈ kernel, ∃ before : Item,
    item = ⟨before.rule, before.dot + 1⟩ ∧ g.next? before = some x

theorem Source.HasRead.unique {g : Source} {x y : Symbol} {kernel : List Item}
    (hx : g.HasRead x kernel) (hy : g.HasRead y kernel) : x = y := by
  obtain ⟨item, hitem⟩ := List.exists_mem_of_ne_nil kernel hx.1
  obtain ⟨a, ha, hnexta⟩ := hx.2 item hitem
  obtain ⟨b, hb, hnextb⟩ := hy.2 item hitem
  have hab : a = b := by
    obtain ⟨r, d⟩ := a
    obtain ⟨r', d'⟩ := b
    simp only [hb, Item.mk.injEq, Nat.add_right_cancel_iff] at ha
    simp [ha]
  rw [hab, hnextb] at hnexta
  exact (Option.some.inj hnexta).symm

/-- An item that has read nothing is not among those that have just read a symbol. -/
theorem Source.HasRead.not_opening {g : Source} {x : Symbol} {r : Nat} :
    ¬ g.HasRead x [⟨r, 0⟩] := by
  rintro ⟨-, h⟩
  obtain ⟨before, heq, -⟩ := h _ (List.mem_singleton.mpr rfl)
  exact absurd (congrArg Item.dot heq) (Nat.succ_ne_zero _).symm

/-- The groups in which the items of a state are collected by the symbol that they read. -/
def Source.Grouped (g : Source) (groups : Array Symbol × Std.HashMap Symbol (List Item)) : Prop :=
  (∀ x ∈ groups.1, ∃ kernel, groups.2[x]? = some kernel) ∧
    ∀ x kernel, groups.2[x]? = some kernel → g.HasRead x kernel

theorem Source.grouped_insert {g : Source} {order : Array Symbol}
    {m : Std.HashMap Symbol (List Item)} (h : g.Grouped (order, m)) {item : Item} {x : Symbol}
    (hx : g.next? item = some x) :
    g.Grouped (match m[x]? with
      | some old => (order, m.insert x (⟨item.rule, item.dot + 1⟩ :: old))
      | none => (order.push x, m.insert x [⟨item.rule, item.dot + 1⟩])) := by
  obtain ⟨horder, hread⟩ := h
  have hnew : ∀ y kernel old, (∀ i ∈ old, ∃ before : Item,
        i = ⟨before.rule, before.dot + 1⟩ ∧ g.next? before = some x) →
      (m.insert x (⟨item.rule, item.dot + 1⟩ :: old))[y]? = some kernel → g.HasRead y kernel := by
    intro y kernel old hold hy
    rw [Std.HashMap.getElem?_insert] at hy
    split at hy
    · rename_i hxy
      rw [← eq_of_beq hxy, ← Option.some.inj hy]
      exact ⟨List.cons_ne_nil _ _, List.forall_mem_cons.mpr ⟨⟨item, rfl, hx⟩, hold⟩⟩
    · exact hread y kernel hy
  have hfound : ∀ y kernel, (∃ old, m[y]? = some old) ∨ y = x →
      ∃ found, (m.insert x kernel)[y]? = some found := by
    intro y kernel hy
    rw [Std.HashMap.getElem?_insert]
    split
    · exact ⟨_, rfl⟩
    · rename_i hxy
      rcases hy with hy | rfl
      · exact hy
      · exact absurd (beq_self_eq_true y) hxy
  cases hm : m[x]? with
  | some old =>
    refine ⟨fun y hy => hfound y _ (.inl (horder y hy)), fun y kernel hy => ?_⟩
    exact hnew y kernel old (hread x old hm).2 hy
  | none =>
    refine ⟨fun y hy => hfound y _ ?_, fun y kernel hy => ?_⟩
    · exact (Array.mem_push.mp hy).imp_left (horder y)
    · exact hnew y kernel [] (List.forall_mem_nil _) hy

theorem Source.grouped_foldl {g : Source} (items : List Item)
    (groups : Array Symbol × Std.HashMap Symbol (List Item)) (h : g.Grouped groups) :
    g.Grouped (items.foldl
      (fun (order, m) item =>
        match g.next? item with
        | none => (order, m)
        | some x =>
          match m[x]? with
          | some old => (order, m.insert x (⟨item.rule, item.dot + 1⟩ :: old))
          | none => (order.push x, m.insert x [⟨item.rule, item.dot + 1⟩])) groups) := by
  induction items generalizing groups with
  | nil => exact h
  | cons item items ih =>
    refine ih _ ?_
    dsimp only
    cases hx : g.next? item with
    | none => exact h
    | some x => exact grouped_insert h hx

theorem Source.Grouped.hasRead {g : Source}
    {groups : Array Symbol × Std.HashMap Symbol (List Item)} (h : g.Grouped groups) {x : Symbol}
    (hx : x ∈ groups.1) : g.HasRead x ((groups.2.getD x []).mergeSort Item.le) := by
  obtain ⟨found, hfound⟩ := h.1 x hx
  have hread := h.2 x found hfound
  rw [Std.HashMap.getD_eq_getD_getElem?, hfound]
  refine ⟨fun hnil => hread.1 ?_, fun item hitem => hread.2 item ?_⟩
  · have hperm := List.mergeSort_perm found Item.le
    rw [show found.mergeSort Item.le = [] from hnil] at hperm
    exact hperm.nil_eq.symm
  · exact List.mem_mergeSort.mp hitem

theorem Source.hasRead_of_successors {g : Source} (items : List Item) {x : Symbol}
    {kernel : List Item} (h : (x, kernel) ∈ g.successors items) : g.HasRead x kernel := by
  have hgrouped := grouped_foldl (g := g) items (#[], ∅) ⟨by simp, by simp⟩
  obtain ⟨y, hy, heq⟩ := List.mem_map.mp h
  obtain ⟨rfl, rfl⟩ := Prod.mk.inj heq
  exact hgrouped.hasRead (Array.mem_toList_iff.mp hy)

/-! ## States -/

/-- A move that leads to a state whose items have just read the symbol of the move. -/
def Exploration.Leads (g : Source) (e : Exploration) (move : Symbol × Nat) : Prop :=
  ∃ kernel, e.kernels[move.2]? = some kernel ∧ g.HasRead move.1 kernel

/-- The first state has read nothing, states have the items under which they are numbered, and moves
lead where they should. -/
structure Exploration.Sound (g : Source) (e : Exploration) : Prop where
  opening : ∃ r, e.kernels[0]? = some [⟨r, 0⟩]
  numbered : ∀ (kernel : List Item) (i : Nat), e.numbers[kernel]? = some i → e.kernels[i]? = some kernel
  moved : ∀ ms ∈ e.moves, ∀ move ∈ ms, e.Leads g move

variable {g : Source} {e : Exploration}

/-- Numbering a set of items keeps the states that there are. -/
theorem Exploration.number_kernels (kernel : List Item) {i : Nat} {old : List Item}
    (h : e.kernels[i]? = some old) : (e.number kernel).1.kernels[i]? = some old := by
  unfold number
  split
  · exact h
  · obtain ⟨hlt, -⟩ := Array.getElem?_eq_some_iff.mp h
    rw [Array.getElem?_push_lt hlt, ← Array.getElem?_eq_getElem hlt]
    exact h

theorem Exploration.number_moves (kernel : List Item) :
    (e.number kernel).1.moves = e.moves := by
  unfold number
  split <;> rfl

theorem Exploration.Leads.number {move : Symbol × Nat} (h : e.Leads g move) (kernel : List Item) :
    (e.number kernel).1.Leads g move := by
  obtain ⟨old, hold, hread⟩ := h
  exact ⟨old, number_kernels kernel hold, hread⟩

theorem Exploration.Sound.number_self (h : e.Sound g) (kernel : List Item) :
    (e.number kernel).1.kernels[(e.number kernel).2]? = some kernel := by
  unfold Exploration.number
  split
  · exact h.numbered _ _ ‹_›
  · exact Array.getElem?_push_size

theorem Exploration.Sound.number (h : e.Sound g) (kernel : List Item) :
    (e.number kernel).1.Sound g := by
  refine ⟨?_, fun k i hi => ?_, fun ms hms move hmove => ?_⟩
  · obtain ⟨r, hr⟩ := h.opening
    exact ⟨r, number_kernels kernel hr⟩
  · have hself := h.number_self kernel
    have hold := fun hi => number_kernels kernel (h.numbered k i hi)
    unfold Exploration.number at hi hself hold ⊢
    split at hi
    · exact h.numbered k i hi
    · rename_i hnone
      simp only [hnone] at hself hold ⊢
      rw [Std.HashMap.getElem?_insert] at hi
      split at hi
      · rename_i heq
        rw [← Option.some.inj hi, ← eq_of_beq heq]
        exact hself
      · exact hold hi
  · rw [number_moves] at hms
    exact (h.moved ms hms move hmove).number kernel

/-- Numbering the successors of a state, one after the other. -/
theorem Exploration.Sound.successors {succs : List (Symbol × List Item)}
    (hsuccs : ∀ s ∈ succs, g.HasRead s.1 s.2) {moves : List (Symbol × Nat)} (h : e.Sound g)
    (hmoves : ∀ move ∈ moves, e.Leads g move) :
    let r := succs.foldl
      (fun (e, moves) (x, next) =>
        let (e, j) := e.number next
        (e, (x, j) :: moves))
      (e, moves)
    r.1.Sound g ∧ ∀ move ∈ r.2, r.1.Leads g move := by
  induction succs generalizing e moves with
  | nil => exact ⟨h, hmoves⟩
  | cons s succs ih =>
    obtain ⟨hs, hsuccs⟩ := List.forall_mem_cons.mp hsuccs
    refine ih hsuccs (h.number s.2) (List.forall_mem_cons.mpr ⟨?_, fun move hmove => ?_⟩)
    · exact ⟨s.2, h.number_self s.2, hs⟩
    · exact (hmoves move hmove).number s.2

theorem Exploration.Sound.push (h : e.Sound g) {moves : List (Symbol × Nat)}
    (hmoves : ∀ move ∈ moves, e.Leads g move) :
    Sound g { e with moves := e.moves.push moves } := by
  refine ⟨h.opening, h.numbered, fun ms hms move hmove => ?_⟩
  rcases Array.mem_push.mp hms with hms | rfl
  · exact h.moved ms hms move hmove
  · exact hmoves move hmove

theorem Exploration.Sound.explore (h : e.Sound g) (fuel i : Nat) :
    (g.explore fuel i e).Sound g := by
  induction fuel generalizing i e with
  | zero => exact h
  | succ fuel ih =>
    unfold Source.explore
    split
    · exact h
    · rename_i kernel hkernel
      obtain ⟨hsound, hmoves⟩ := h.successors
        (fun s hs => Source.hasRead_of_successors (g.closure kernel) hs)
        (List.forall_mem_nil _)
      exact ih (hsound.push hmoves) (i + 1)

/-! ## The automaton -/

/-- The rule that tells the start symbol from its other occurrences. -/
def openingRule (start : Nonterminal) : Rule := ⟨start, [.nonterminal start], none, false⟩

/-- The rules with the opening rule. -/
def sourceOf (start : Nonterminal) (rules : List Rule) : Source :=
  let g := Source.ofRules rules
  { g with rules := g.rules.push (openingRule start) }

/-- The states of a grammar. -/
def statesOf (start : Nonterminal) (rules : List Rule) : Exploration :=
  let opening : Item := ⟨(Source.ofRules rules).rules.size, 0⟩
  (sourceOf start rules).explore (Nat.pow 2 (sourceOf start rules).items.length) 0
    { kernels := #[[opening]], numbers := (∅ : Std.HashMap _ _).insert [opening] 0, moves := #[] }

variable {start : Nonterminal} {rules : List Rule}

variable (start rules) in
theorem statesOf_sound : (statesOf start rules).Sound (sourceOf start rules) := by
  refine Exploration.Sound.explore ⟨⟨_, rfl⟩, fun kernel i hi => ?_, ?_⟩ _ _
  · rw [Std.HashMap.getElem?_insert] at hi
    split at hi
    · rename_i heq
      rw [← Option.some.inj hi, ← eq_of_beq heq]
      rfl
    · simp at hi
  · intro ms hms
    exact absurd hms (Array.not_mem_empty ms)

/-- The state with given moves and reductions. -/
def stateFor (g : Source) (reductions : List (Nat × Nat)) (ms : List (Symbol × Nat)) : State :=
  let shifts := ms.filterMap fun
    | (.terminal t, j) => some (Lookahead.terminal t, Action.shift j)
    | (.nonterminal _, _) => none
  let gotos := ms.filterMap fun
    | (.nonterminal n, j) => some (n, j)
    | (.terminal _, _) => none
  let reduces := reductions.flatMap fun (r, set) =>
    match g.rules[r]? with
    | some rule => (members set).filterMap fun l =>
      if (shifts.lookup l).isSome then none else some (l, Action.reduce rule)
    | none => []
  State.mk (shifts ++ reduces) gotos

theorem mem_gotos_stateFor {reductions : List (Nat × Nat)} {ms : List (Symbol × Nat)}
    {n : Nonterminal} {j : Nat} (h : (n, j) ∈ (stateFor g reductions ms).gotos) :
    (.nonterminal n, j) ∈ ms := by
  obtain ⟨⟨x, k⟩, hx, heq⟩ := List.mem_filterMap.mp h
  cases x with
  | terminal a => exact nomatch heq
  | nonterminal m =>
    obtain ⟨rfl, rfl⟩ := Prod.mk.inj (Option.some.inj heq)
    exact hx

theorem mem_actions_stateFor {reductions : List (Nat × Nat)} {ms : List (Symbol × Nat)}
    {l : Lookahead} {rule : Rule} (h : (l, .reduce rule) ∈ (stateFor g reductions ms).actions) :
    rule ∈ g.rules := by
  rcases List.mem_append.mp h with hshift | hreduce
  · obtain ⟨⟨x, k⟩, -, heq⟩ := List.mem_filterMap.mp hshift
    cases x with
    | terminal a => exact Action.noConfusion (Prod.mk.inj (Option.some.inj heq)).2
    | nonterminal m => exact nomatch heq
  · obtain ⟨⟨r, set⟩, -, hset⟩ := List.mem_flatMap.mp hreduce
    dsimp only at hset
    split at hset
    · rename_i found hfound
      obtain ⟨l', -, heq⟩ := List.mem_filterMap.mp hset
      split at heq
      · exact nomatch heq
      · rw [← Action.reduce.inj (Prod.mk.inj (Option.some.inj heq)).2]
        exact Array.mem_of_getElem? hfound
    · exact absurd hset List.not_mem_nil

/-- What the states of a grammar reduce. -/
def reductionsOf (start : Nonterminal) (rules : List Rule) : Array (List (Nat × Nat)) :=
  let moves := (statesOf start rules).moves
  let c := Crossings.ofMoves moves
  (sourceOf start rules).reductions moves c ((sourceOf start rules).followers start moves c)

theorem states_ofRules :
    (ofRules start rules).states = ((statesOf start rules).moves.toList.zipIdx.map fun (ms, i) =>
      stateFor (sourceOf start rules) ((reductionsOf start rules)[i]?.getD []) ms).toArray := by
  rfl

variable (start rules) in
/-- The states of the automaton are made from the moves. -/
theorem state_ofRules (i : Nat) :
    (ofRules start rules).state i = default ∨ ∃ ms ∈ (statesOf start rules).moves,
      ∃ reductions, (ofRules start rules).state i =
        stateFor (sourceOf start rules) reductions ms := by
  unfold state
  cases hs : (ofRules start rules).states[i]? with
  | none => exact .inl rfl
  | some s =>
    rw [states_ofRules] at hs
    obtain ⟨⟨ms, k⟩, hms, rfl⟩ :=
      List.mem_map.mp (List.mem_toArray.mp (Array.mem_of_getElem? hs))
    exact .inr ⟨ms, Array.mem_toList_iff.mp (List.fst_mem_of_mem_zipIdx hms), _, rfl⟩

/-- Every rule that is reduced is one of the grammar or the opening rule. -/
theorem mem_of_action? {i : Nat} {l : Lookahead} {rule : Rule}
    (h : (ofRules start rules).action? i l = some (.reduce rule)) :
    rule ∈ rules ∨ rule = openingRule start := by
  have hmem := mem_of_lookup h
  rcases state_ofRules start rules i with
    hdefault | ⟨ms, -, reductions, heq⟩
  · rw [hdefault] at hmem
    exact absurd hmem List.not_mem_nil
  · rw [heq] at hmem
    rcases Array.mem_push.mp (mem_actions_stateFor hmem) with hold | hnew
    · exact .inl (List.mem_toArray.mp hold)
    · exact .inr hnew

theorem leads_of_goto? {i j : Nat} {n : Nonterminal}
    (h : (ofRules start rules).goto? i n = some j) :
    (statesOf start rules).Leads (sourceOf start rules) (.nonterminal n, j) := by
  have hmem := mem_of_lookup h
  rcases state_ofRules start rules i with
    hdefault | ⟨ms, hms, reductions, heq⟩
  · rw [hdefault] at hmem
    exact absurd hmem List.not_mem_nil
  · rw [heq] at hmem
    exact (statesOf_sound start rules).moved ms hms _ (mem_gotos_stateFor hmem)

theorem accepting_ofRules : (ofRules start rules).accepting =
    (((statesOf start rules).moves[0]?.getD []).lookup (.nonterminal start)).getD 0 := by
  simp only [ofRules, statesOf, sourceOf, openingRule]

/-- The accepting state is entered over the start symbol. -/
theorem eq_start_of_goto? {i : Nat} {n : Nonterminal}
    (h : (ofRules start rules).goto? i n = some (ofRules start rules).accepting) : n = start := by
  obtain ⟨kernel, hkernel, hread⟩ := leads_of_goto? h
  rw [accepting_ofRules] at hkernel
  cases hlookup : ((statesOf start rules).moves[0]?.getD []).lookup (.nonterminal start) with
  | none =>
    -- no state is entered over the start symbol, and the first one is not entered at all
    obtain ⟨r, hr⟩ := (statesOf_sound start rules).opening
    rw [hlookup, Option.getD_none, hr] at hkernel
    rw [← Option.some.inj hkernel] at hread
    exact absurd hread Source.HasRead.not_opening
  | some j =>
    rw [hlookup, Option.getD_some] at hkernel
    have hmove := mem_of_lookup hlookup
    cases hms : (statesOf start rules).moves[0]? with
    | none =>
      rw [hms] at hmove
      exact absurd hmove List.not_mem_nil
    | some ms =>
      rw [hms] at hmove
      obtain ⟨kernel', hkernel', hread'⟩ :=
        (statesOf_sound start rules).moved ms (Array.mem_of_getElem? hms) _ hmove
      rw [Option.some.inj (hkernel.symm.trans hkernel')] at hread
      exact Symbol.nonterminal.inj (hread.unique hread')

/-- An automaton that reduces only by rules and accepts only the start symbol. -/
structure Faithful (start : Nonterminal) (rules : List Rule) (a : Automaton) : Prop where
  reduces : ∀ i l rule, a.action? i l = some (.reduce rule) →
    rule ∈ rules ∨ rule = openingRule start
  accepts : ∀ i n, a.goto? i n = some a.accepting → n = start

theorem ofRules_faithful (start : Nonterminal) (rules : List Rule) :
    (ofRules start rules).Faithful start rules :=
  ⟨fun _ _ _ => mem_of_action?, fun _ _ => eq_start_of_goto?⟩

end Automaton
end Wdl
