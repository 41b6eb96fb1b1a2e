import Wdl.Proofs.Grammar.Followers

/-!
The lookaheads of a grammar.

A state allows what it can shift, and it reduces a rule of `A` under what follows the `A` in the
states from which the rule leads to it, and under nothing else, `mem_reduces`.  So a run of shifts
tells all that the automaton does: with `Follows` the sets of lookaheads need not be looked at.
-/

namespace Wdl
namespace Automaton

/-! ## Reductions -/

section Reductions

variable {g : Source} {moves : Array (List (Symbol × Nat))} {c : Crossings} {followers : Array Nat}
  {i k p q r : Nat} {a : Nonterminal}

/-- Adds lookaheads under which a rule is reduced. -/
def note (rs : List (Nat × Nat)) (r set : Nat) : List (Nat × Nat) :=
  match rs.lookup r with
  | some old => (r, old ||| set) :: rs.filter (·.1 != r)
  | none => (r, set) :: rs

/-- Whether a rule is reduced under the lookahead at a place, by the first note of it. -/
def Notes (rs : List (Nat × Nat)) (r k : Nat) : Prop :=
  ∃ set, rs.lookup r = some set ∧ set.testBit k = true

/-- Whether any note of a rule has the lookahead at a place. -/
def Marks (rs : List (Nat × Nat)) (r k : Nat) : Prop :=
  ∃ set, (r, set) ∈ rs ∧ set.testBit k = true

theorem lookup_cons_of_ne {α β : Type} [BEq α] [LawfulBEq α] {a : α} {x : α × β} {l : List (α × β)}
    (h : a ≠ x.1) : (x :: l).lookup a = l.lookup a := by
  rw [List.lookup_cons, beq_eq_false_iff_ne.mpr h]

theorem lookup_filter_of_ne {rs : List (Nat × Nat)} {r r' : Nat} (h : r ≠ r') :
    (rs.filter (·.1 != r')).lookup r = rs.lookup r := by
  induction rs with
  | nil => rfl
  | cons x rs ih =>
    by_cases hx : x.1 = r'
    · rw [List.filter_cons, if_neg (by simp [hx]), ih, lookup_cons_of_ne (by rwa [hx])]
    · rw [List.filter_cons, if_pos (by simpa using hx), List.lookup_cons, List.lookup_cons, ih]

theorem note_keeps {rs : List (Nat × Nat)} {r' set' : Nat} (h : Notes rs r k) :
    Notes (note rs r' set') r k := by
  obtain ⟨set, hset, hk⟩ := h
  unfold note
  by_cases hr : r = r'
  · subst hr
    rw [hset]
    refine ⟨_, List.lookup_cons_self, ?_⟩
    rw [Nat.testBit_or, hk, Bool.true_or]
  · refine ⟨set, ?_, hk⟩
    split
    · rw [lookup_cons_of_ne hr, lookup_filter_of_ne hr, hset]
    · rw [lookup_cons_of_ne hr, hset]

theorem note_notes {rs : List (Nat × Nat)} {set : Nat} (hk : set.testBit k = true) :
    Notes (note rs r set) r k := by
  unfold note
  split
  · refine ⟨_, List.lookup_cons_self, ?_⟩
    rw [Nat.testBit_or, hk, Bool.or_true]
  · exact ⟨set, List.lookup_cons_self, hk⟩

theorem Notes.marks {rs : List (Nat × Nat)} (h : Notes rs r k) : Marks rs r k := by
  obtain ⟨set, hset, hk⟩ := h
  exact ⟨set, mem_of_lookup hset, hk⟩

theorem of_marks_note {rs : List (Nat × Nat)} {r' set' : Nat} (h : Marks (note rs r' set') r k) :
    Marks rs r k ∨ r = r' ∧ set'.testBit k = true := by
  obtain ⟨set, hset, hk⟩ := h
  unfold note at hset
  split at hset
  · next old hold =>
    rcases List.mem_cons.mp hset with heq | hset
    · obtain ⟨rfl, rfl⟩ := Prod.mk.inj heq
      rw [Nat.testBit_or, Bool.or_eq_true] at hk
      exact hk.imp (fun hk => ⟨old, mem_of_lookup hold, hk⟩) fun hk => ⟨rfl, hk⟩
    · exact .inl ⟨set, (List.mem_filter.mp hset).1, hk⟩
  · rcases List.mem_cons.mp hset with heq | hset
    · obtain ⟨rfl, rfl⟩ := Prod.mk.inj heq
      exact .inr ⟨rfl, hk⟩
    · exact .inl ⟨set, hset, hk⟩

/-- Notes what follows a nonterminal where one of its rules has been read. -/
def noteRule (g : Source) (moves : Array (List (Symbol × Nat))) (p set : Nat)
    (table : Array (List (Nat × Nat))) (r : Nat) : Array (List (Nat × Nat)) :=
  match walk moves p (g.rhs r) with
  | some q => table.modify q (note · r set)
  | none => table

/-- Notes what follows a transition where a rule of its nonterminal has been read. -/
def noteRules (g : Source) (moves : Array (List (Symbol × Nat))) (followers : Array Nat)
    (table : Array (List (Nat × Nat))) (x : (Nat × Nonterminal) × Nat) :
    Array (List (Nat × Nat)) :=
  (g.byLhs.getD x.1.2 []).foldl (noteRule g moves x.1.1 (followers[x.2]?.getD 0)) table

theorem reductions_eq : g.reductions moves c followers =
    c.list.toList.zipIdx.foldl (noteRules g moves followers)
      (Array.replicate moves.size []) := rfl

theorem noteRule_size {n p set r : Nat} {table : Array (List (Nat × Nat))} (h : table.size = n) :
    (noteRule g moves p set table r).size = n := by
  unfold noteRule
  split
  · exact (Array.size_modify ..).trans h
  · exact h

theorem noteRule_keeps {p set r' : Nat} {table : Array (List (Nat × Nat))}
    (h : Notes (table[q]?.getD []) r k) :
    Notes ((noteRule g moves p set table r')[q]?.getD []) r k := by
  unfold noteRule
  split
  · rw [Array.getElem?_modify]
    split
    · cases hq : table[q]? with
      | none =>
        rw [hq] at h
        exact h
      | some rs =>
        rw [hq] at h
        exact note_keeps h
    · exact h
  · exact h

variable (followers) in
/-- Where a rule of `A` has been read that was begun where `A` can be read, it is reduced under what
follows this `A`. -/
theorem notes_reductions (hi : c.list[i]? = some (p, a)) (hr : r ∈ g.byLhs.getD a [])
    (hwalk : walk moves p (g.rhs r) = some q) (hq : q < moves.size)
    (hk : HasBit followers i k) : Notes ((g.reductions moves c followers)[q]?.getD []) r k := by
  have hplace : ((p, a), i) ∈ c.list.toList.zipIdx :=
    List.mem_zipIdx_iff_getElem?.mpr (by simpa using hi)
  rw [reductions_eq]
  refine foldl_of_mem (f := noteRules g moves followers)
    (I := fun table : Array (List (Nat × Nat)) => table.size = moves.size)
    (P := fun table => Notes (table[q]?.getD []) r k)
    (fun _ _ h => foldl_keeps (I := fun table : Array (List (Nat × Nat)) => table.size = moves.size)
      (fun _ _ => noteRule_size) _ h)
    (fun _ _ _ h => foldl_keeps
      (I := fun table : Array (List (Nat × Nat)) => Notes (table[q]?.getD []) r k)
      (fun _ _ => noteRule_keeps) _ h) (fun table hsize => ?_) hplace (Array.size_replicate ..)
  refine foldl_of_mem (f := noteRule g moves p (followers[i]?.getD 0))
    (I := fun table : Array (List (Nat × Nat)) => table.size = moves.size)
    (P := fun table => Notes (table[q]?.getD []) r k) (fun _ _ => noteRule_size)
    (fun _ _ _ => noteRule_keeps) (fun table hsize => ?_) hr hsize
  unfold noteRule
  rw [hwalk]
  dsimp only
  rw [Array.getElem?_modify, if_pos rfl,
    Array.getElem?_eq_getElem (Nat.lt_of_lt_of_eq hq hsize.symm)]
  exact note_notes hk

/-- A rule is reduced under nothing else. -/
theorem of_marks_reductions (h : Marks ((g.reductions moves c followers)[q]?.getD []) r k) :
    ∃ i p a, c.list[i]? = some (p, a) ∧ r ∈ g.byLhs.getD a [] ∧ walk moves p (g.rhs r) = some q ∧
      HasBit followers i k := by
  let Within (table : Array (List (Nat × Nat))) : Prop := Marks (table[q]?.getD []) r k →
    ∃ i p a, c.list[i]? = some (p, a) ∧ r ∈ g.byLhs.getD a [] ∧ walk moves p (g.rhs r) = some q ∧
      HasBit followers i k
  rw [reductions_eq] at h
  refine List.foldlRecOn (motive := Within) _ _ (fun h => ?_) (fun table htable x hx =>
    List.foldlRecOn (motive := Within) _ _ htable fun table htable r' hr' h => ?_) h
  · obtain ⟨set, hset, -⟩ := h
    rw [Array.getElem?_replicate] at hset
    split at hset
    · exact absurd hset List.not_mem_nil
    · exact absurd hset List.not_mem_nil
  · rw [List.mem_zipIdx_iff_getElem?, Array.getElem?_toList] at hx
    unfold noteRule at h
    split at h
    · next q' hwalk =>
      rw [Array.getElem?_modify] at h
      split at h
      · next heq =>
        subst heq
        cases hold : table[q']? with
        | none =>
          rw [hold] at h
          exact htable (by rw [hold]; exact h)
        | some rs =>
          rw [hold] at h
          rcases of_marks_note h with h | ⟨rfl, hk⟩
          · exact htable (by rw [hold]; exact h)
          · exact ⟨x.2, x.1.1, x.1.2, hx, hr', hwalk, hk⟩
      · exact htable h
    · exact htable h

end Reductions

/-! ## What states allow -/

section Allowed

variable {start : Nonterminal} {rules : List Rule} {i j p p₀ q s u : Nat} {t : Terminal}
  {n : Nonterminal} {l : Lookahead}

theorem state_of_moves {ms : List (Symbol × Nat)}
    (h : (statesOf start rules).moves[i]? = some ms) :
    (ofRules start rules).state i =
      stateFor (sourceOf start rules) ((reductionsOf start rules)[i]?.getD []) ms := by
  unfold state
  rw [states_ofRules, List.getElem?_toArray, List.getElem?_map, List.getElem?_zipIdx,
    Array.getElem?_toList, h]
  simp

theorem state_of_unexplored (h : ¬ IsExplored start rules i) :
    (ofRules start rules).state i = default := by
  unfold state
  rw [states_ofRules, List.getElem?_toArray, List.getElem?_map, List.getElem?_zipIdx,
    Array.getElem?_toList, Array.getElem?_eq_none (Nat.le_of_not_lt h)]
  rfl

/-- A state that allows anything has been explored. -/
theorem isExplored_of_action? {x : Action} (h : (ofRules start rules).action? i l = some x) :
    IsExplored start rules i := by
  refine Classical.byContradiction fun hnot => ?_
  unfold action? at h
  rw [state_of_unexplored hnot] at h
  exact nomatch h

/-- The shifts of a state. -/
def shiftsOf (ms : List (Symbol × Nat)) : List (Lookahead × Action) :=
  ms.filterMap fun
    | (.terminal t, j) => some (Lookahead.terminal t, Action.shift j)
    | (.nonterminal _, _) => none

theorem lookup_shiftsOf (ms : List (Symbol × Nat)) (t : Terminal) :
    (shiftsOf ms).lookup (.terminal t) = (ms.lookup (.terminal t)).map Action.shift := by
  induction ms with
  | nil => rfl
  | cons m ms ih =>
    obtain ⟨x, j⟩ := m
    cases x with
    | nonterminal n =>
      rw [lookup_cons_of_ne (by simp), ← ih]
      rfl
    | terminal t' =>
      have hcons : shiftsOf ((.terminal t', j) :: ms) =
          (Lookahead.terminal t', Action.shift j) :: shiftsOf ms := rfl
      rw [hcons]
      by_cases ht : t = t'
      · subst ht
        rw [List.lookup_cons_self, List.lookup_cons_self]
        rfl
      · rw [lookup_cons_of_ne (by simpa using ht), lookup_cons_of_ne (by simpa using ht), ih]

theorem actions_stateFor (g : Source) (reductions : List (Nat × Nat)) (ms : List (Symbol × Nat)) :
    (stateFor g reductions ms).actions = shiftsOf ms ++ reductions.flatMap fun (r, set) =>
      match g.rules[r]? with
      | some rule => (members set).filterMap fun l =>
        if ((shiftsOf ms).lookup l).isSome then none else some (l, Action.reduce rule)
      | none => [] := rfl

theorem MovesOver.action? (h : MovesOver start rules i (.terminal t) j) :
    (ofRules start rules).action? i (.terminal t) = some (.shift j) := by
  have hms := Array.getElem?_eq_getElem h.isExplored
  unfold MovesOver at h
  rw [hms, Option.getD_some] at h
  rw [Automaton.action?, state_of_moves hms, actions_stateFor, List.lookup_append, lookup_shiftsOf,
    h]
  rfl

/-- A shift is a move. -/
theorem movesOver_of_action? (h : (ofRules start rules).action? i l = some (.shift j)) :
    ∃ t, l = .terminal t ∧ MovesOver start rules i (.terminal t) j := by
  have hms := Array.getElem?_eq_getElem (isExplored_of_action? h)
  unfold Automaton.action? at h
  rw [state_of_moves hms, actions_stateFor, List.lookup_append] at h
  rcases Option.or_eq_some_iff.mp h with hshift | ⟨-, hreduce⟩
  · cases l with
    | endOfInput =>
      obtain ⟨⟨x, k⟩, -, heq⟩ := List.mem_filterMap.mp (mem_of_lookup hshift)
      cases x with
      | terminal t => exact nomatch heq
      | nonterminal n => exact nomatch heq
    | terminal t =>
      rw [lookup_shiftsOf] at hshift
      obtain ⟨k, hk, heq⟩ := Option.map_eq_some_iff.mp hshift
      refine ⟨t, rfl, ?_⟩
      unfold MovesOver
      rw [hms, Option.getD_some, hk, Action.shift.inj heq]
  · obtain ⟨⟨r, set⟩, -, hset⟩ := List.mem_flatMap.mp (mem_of_lookup hreduce)
    dsimp only at hset
    split at hset
    · obtain ⟨l', -, heq⟩ := List.mem_filterMap.mp hset
      split at heq
      · exact nomatch heq
      · exact nomatch (Prod.mk.inj (Option.some.inj heq)).2
    · exact absurd hset List.not_mem_nil

theorem lookup_gotos (ms : List (Symbol × Nat)) (n : Nonterminal) :
    (ms.filterMap fun
      | (.nonterminal n, j) => some (n, j)
      | (.terminal _, _) => none).lookup n = ms.lookup (Symbol.nonterminal n) := by
  induction ms with
  | nil => rfl
  | cons m ms ih =>
    obtain ⟨x, j⟩ := m
    cases x with
    | terminal t =>
      rw [lookup_cons_of_ne (by simp), ← ih]
      rfl
    | nonterminal n' =>
      rw [List.filterMap_cons]
      dsimp only
      by_cases hn : n = n'
      · subst hn
        rw [List.lookup_cons_self, List.lookup_cons_self]
      · rw [lookup_cons_of_ne (by simpa using hn), lookup_cons_of_ne (by simpa using hn), ih]

theorem movesOver_of_goto? (h : (ofRules start rules).goto? i n = some j) :
    MovesOver start rules i (.nonterminal n) j := by
  unfold Automaton.goto? at h
  unfold MovesOver
  cases hms : (statesOf start rules).moves[i]? with
  | none =>
    have hnot : ¬ IsExplored start rules i := fun hlt => by
      rw [Array.getElem?_eq_getElem hlt] at hms
      exact nomatch hms
    rw [state_of_unexplored hnot] at h
    exact nomatch h
  | some ms =>
    rw [state_of_moves hms] at h
    exact (lookup_gotos ms n).symm.trans h

theorem MovesOver.goto? (h : MovesOver start rules i (.nonterminal n) j) :
    (ofRules start rules).goto? i n = some j := by
  have hms := Array.getElem?_eq_getElem h.isExplored
  unfold MovesOver at h
  rw [hms, Option.getD_some] at h
  unfold Automaton.goto?
  rw [state_of_moves hms]
  exact (lookup_gotos _ n).trans h

/-- The accepting state is entered from the first state over the start symbol. -/
theorem MovesOver.accepting (h : MovesOver start rules 0 (.nonterminal start) j) :
    (ofRules start rules).accepting = j := by
  unfold MovesOver at h
  rw [accepting_ofRules, h, Option.getD_some]

theorem mem_terminals {a : Automaton} {x : Action} (h : (.terminal t, x) ∈ (a.state i).actions) :
    t ∈ a.terminals i :=
  List.mem_filterMap.mpr ⟨.terminal t, List.mem_map.mpr ⟨_, h, rfl⟩, rfl⟩

/-- What a state acts upon, it allows. -/
theorem mem_terminals_of_action? {a : Automaton} {x : Action}
    (h : a.action? i (.terminal t) = some x) : t ∈ a.terminals i :=
  mem_terminals (mem_of_lookup h)

/-- A move leads to an explored state. -/
theorem MovesOver.isExplored_next {x : Symbol} (h : MovesOver start rules i x j) :
    IsExplored start rules j := by
  obtain ⟨-, next, -, -, hnext⟩ := h.successor
  exact Automaton.isExplored hnext

theorem isExplored_of_walk {xs : List Symbol} (h : walk (statesOf start rules).moves p xs = some q)
    (hp : IsExplored start rules p) : IsExplored start rules q := by
  induction xs generalizing p with
  | nil => exact Option.some.inj h ▸ hp
  | cons x xs ih =>
    rw [walk] at h
    split at h
    · next s hs => exact ih h (MovesOver.isExplored_next (x := x) hs)
    · cases h

theorem mem_terminals_all (t : Terminal) : t ∈ Terminal.all := by cases t <;> decide

theorem mem_lookaheads (l : Lookahead) : l ∈ lookaheads := by
  cases l with
  | endOfInput => exact List.mem_cons_self
  | terminal t => exact List.mem_cons_of_mem _ (List.mem_map_of_mem (mem_terminals_all t))

theorem lookup_shiftsOf_eq_none (ms : List (Symbol × Nat)) (l : Lookahead) :
    (shiftsOf ms).lookup l = none ↔ ∀ t, l = .terminal t → ms.lookup (.terminal t) = none := by
  cases l with
  | terminal t =>
    rw [lookup_shiftsOf, Option.map_eq_none_iff]
    exact ⟨fun h t' ht => Lookahead.terminal.inj ht ▸ h, fun h => h t rfl⟩
  | endOfInput =>
    refine iff_of_true (List.lookup_eq_none_iff.mpr fun x hx => ?_) fun t ht => nomatch ht
    obtain ⟨⟨y, k⟩, -, heq⟩ := List.mem_filterMap.mp hx
    cases y with
    | terminal t =>
      rw [← Option.some.inj heq]
      rfl
    | nonterminal n => exact nomatch heq

variable (start rules) in
/-- A state does not shift a lookahead. -/
def NoShift (q : Nat) (l : Lookahead) : Prop :=
  ∀ t, l = .terminal t → ∀ j, ¬ MovesOver start rules q (.terminal t) j

/-- A state reduces a rule under what follows the nonterminal of the rule in the states from which
the rule leads to it. -/
theorem mem_reduces {r : Rule} : (l, .reduce r) ∈ ((ofRules start rules).state q).actions ↔
    NoShift start rules q l ∧ r ∈ rules ∧
      ∃ p, walk (statesOf start rules).moves p r.rhs = some q ∧ Follows start rules p r.lhs l := by
  constructor
  · intro h
    have hq : IsExplored start rules q := by
      obtain ⟨x, hx⟩ := exists_lookup_of_mem h
      exact isExplored_of_action? hx
    have hms := Array.getElem?_eq_getElem hq
    rw [state_of_moves hms, actions_stateFor] at h
    rcases List.mem_append.mp h with hshift | hreduce
    · obtain ⟨⟨y, k⟩, -, heq⟩ := List.mem_filterMap.mp hshift
      cases y with
      | terminal t => exact nomatch (Prod.mk.inj (Option.some.inj heq)).2
      | nonterminal n => exact nomatch heq
    · obtain ⟨⟨m, set⟩, hset, hin⟩ := List.mem_flatMap.mp hreduce
      dsimp only at hin
      split at hin
      · next rule hrule =>
        obtain ⟨l', hl', heq⟩ := List.mem_filterMap.mp hin
        split at heq
        · exact nomatch heq
        · next hshift =>
          obtain ⟨rfl, hr⟩ := Prod.mk.inj (Option.some.inj heq)
          obtain rfl := Action.reduce.inj hr
          obtain ⟨k, hl, hk⟩ := mem_members.mp hl'
          obtain ⟨i, p, a, hplace, hm, hwalk, hbit⟩ := of_marks_reductions ⟨set, hset, hk⟩
          obtain ⟨p', a', hplace', hfollows⟩ := follows_of_hasBit hl hbit
          obtain ⟨rfl, rfl⟩ := Prod.mk.inj (Option.some.inj (hplace.symm.trans hplace'))
          obtain ⟨r, hr, rfl⟩ := mem_byLhs.mp hm
          obtain ⟨hrule', hrhs, -⟩ := source_of_rules start hr
          obtain rfl := Option.some.inj (hrule.symm.trans hrule')
          refine ⟨fun t ht j hj => ?_, List.mem_of_getElem? hr, p, hrhs ▸ hwalk, hfollows⟩
          have hnone := (lookup_shiftsOf_eq_none _ _).mp
            (Option.not_isSome_iff_eq_none.mp hshift) t ht
          unfold MovesOver at hj
          rw [hms, Option.getD_some, hnone] at hj
          exact nomatch hj
      · exact absurd hin List.not_mem_nil
  · rintro ⟨hshift, hr, p, hwalk, hfollows⟩
    obtain ⟨s, hs⟩ := hfollows.movesOver
    have hq : IsExplored start rules q := isExplored_of_walk hwalk hs.isExplored
    have hms := Array.getElem?_eq_getElem hq
    obtain ⟨m, hm⟩ := List.mem_iff_getElem?.mp hr
    obtain ⟨hrule, hrhs, hbegins⟩ := source_of_rules start hm
    obtain ⟨i, hi⟩ := exists_number hs
    obtain ⟨k, hl, hk⟩ := exists_bit (mem_lookaheads l)
    have hnotes := notes_reductions (followersOf start rules) (place_of_number hi)
      hbegins (hrhs ▸ hwalk) hq (hasBit_of_follows hk hfollows hi)
    obtain ⟨set, hset, hbit⟩ := hnotes.marks
    rw [state_of_moves hms, actions_stateFor]
    refine List.mem_append_right _ (List.mem_flatMap.mpr ⟨(m, set), hset, ?_⟩)
    dsimp only
    rw [hrule]
    refine List.mem_filterMap.mpr ⟨l, mem_members.mpr ⟨k, hl, hbit⟩, if_neg ?_⟩
    rw [Option.not_isSome_iff_eq_none, lookup_shiftsOf_eq_none]
    intro t ht
    cases hlookup : (statesOf start rules).moves[q].lookup (.terminal t) with
    | none => rfl
    | some j =>
      refine absurd ?_ (hshift t ht j)
      unfold MovesOver
      rw [hms, Option.getD_some, hlookup]

/-- Where a rule has been read, what follows its nonterminal is allowed. -/
theorem mem_terminals_of_follows {r : Rule} (hr : r ∈ rules)
    (hwalk : walk (statesOf start rules).moves p r.rhs = some q)
    (h : Follows start rules p r.lhs (.terminal t)) : t ∈ (ofRules start rules).terminals q := by
  by_cases hshift : NoShift start rules q (.terminal t)
  · exact mem_terminals (mem_reduces.mpr ⟨hshift, hr, p, hwalk, h⟩)
  · unfold NoShift at hshift
    push Not at hshift
    obtain ⟨t', ht, j, hj⟩ := hshift
    rw [Lookahead.terminal.inj ht]
    exact mem_terminals_of_action? hj.action?

end Allowed

end Automaton
end Wdl
