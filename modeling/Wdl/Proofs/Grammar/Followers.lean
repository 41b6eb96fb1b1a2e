import Mathlib.Data.Finset.Card
import Wdl.Proofs.Grammar.Exploration

/-!
What follows a transition.

`Follows i a l` says that `l` may be seen after an `A` that is read in state `i`: because it can be
read next, perhaps after nonterminals that are empty, or because `A` may end a rule of `B` and `l`
follows that `B`.  The sets that the propagation ends with hold this and nothing else,
`follows_of_hasBit` and `hasBit_of_follows`: it leaves no set that holds more, and it runs long
enough, since a pass that adds a lookahead to no set is the last that matters for this lookahead.
-/

namespace Wdl
namespace Automaton

/-! ## Folds -/

/-- What one element of a list brings about, and all keep, holds after a fold over the list. -/
theorem foldl_of_mem {α β : Type} {f : β → α → β} {I P : β → Prop} (hI : ∀ b a, I b → I (f b a))
    (hkeep : ∀ b a, I b → P b → P (f b a)) {a : α} (hset : ∀ b, I b → P (f b a)) {l : List α}
    (ha : a ∈ l) {b : β} (hb : I b) : P (l.foldl f b) := by
  have hall : ∀ (l : List α) b, I b → P b → P (l.foldl f b) := by
    intro l
    induction l with
    | nil => exact fun _ _ => id
    | cons x l ih => exact fun b hb hP => ih _ (hI b x hb) (hkeep b x hb hP)
  induction l generalizing b with
  | nil => exact absurd ha List.not_mem_nil
  | cons x l ih =>
    rcases List.mem_cons.mp ha with rfl | ha
    · exact hall l _ (hI b _ hb) (hset b hb)
    · exact ih ha (hI b x hb)

theorem foldl_keeps {α β : Type} {f : β → α → β} {I : β → Prop} (hI : ∀ b a, I b → I (f b a))
    (l : List α) {b : β} (hb : I b) : I (l.foldl f b) :=
  List.foldlRecOn l f hb fun b hb a _ => hI b a hb

/-- The last entry for a key is the one that counts. -/
theorem getElem?_foldl_insert {α β γ : Type} [BEq α] [LawfulBEq α] [Hashable α] (v : γ → β)
    (l : List (α × γ)) (m : Std.HashMap α β) (a : α) :
    (∃ c, (a, c) ∈ l ∧ (l.foldl (fun m (a, c) => m.insert a (v c)) m)[a]? = some (v c)) ∨
      (l.foldl (fun m (a, c) => m.insert a (v c)) m)[a]? = m[a]? ∧ ∀ c, (a, c) ∉ l := by
  induction l generalizing m with
  | nil => exact .inr ⟨rfl, fun c => List.not_mem_nil⟩
  | cons x l ih =>
    obtain ⟨a', c⟩ := x
    rcases ih (m.insert a' (v c)) with ⟨c', hc', heq⟩ | ⟨heq, hnone⟩
    · exact .inl ⟨c', List.mem_cons_of_mem _ hc', heq⟩
    · rw [Std.HashMap.getElem?_insert] at heq
      by_cases ha : a' = a
      · subst ha
        rw [if_pos (beq_self_eq_true a')] at heq
        exact .inl ⟨c, List.mem_cons_self, heq⟩
      · rw [if_neg (by simpa using ha)] at heq
        refine .inr ⟨heq, fun c' hc' => ?_⟩
        rcases List.mem_cons.mp hc' with hc' | hc'
        · exact ha (Prod.mk.inj hc').1.symm
        · exact hnone c' hc'

/-! ## Sets of lookaheads -/

theorem bits_eq : bits = lookaheads.zipIdx.foldl (fun m (l, i) => m.insert l (Nat.pow 2 i)) ∅ := rfl

/-- A lookahead that has a bit is at one of its places. -/
theorem bit_cases (l : Lookahead) :
    (∃ k, (l, k) ∈ lookaheads.zipIdx ∧ bit l = Nat.pow 2 k) ∨
      bit l = 0 ∧ ∀ k, (l, k) ∉ lookaheads.zipIdx := by
  unfold bit
  rw [bits_eq, Std.HashMap.getD_eq_getD_getElem?]
  generalize lookaheads.zipIdx = numbered
  rcases getElem?_foldl_insert (fun i : Nat => Nat.pow 2 i) numbered ∅ l with
    ⟨k, hk, heq⟩ | ⟨heq, hnone⟩
  · refine .inl ⟨k, hk, ?_⟩
    rw [heq]
    rfl
  · refine .inr ⟨?_, hnone⟩
    rw [heq, Std.HashMap.getElem?_empty]
    rfl

/-- The bit of a lookahead is that of one of its places. -/
theorem exists_bit {l : Lookahead} (h : l ∈ lookaheads) :
    ∃ k, (l, k) ∈ lookaheads.zipIdx ∧ (bit l).testBit k = true := by
  obtain ⟨i, hi⟩ := List.mem_iff_getElem?.mp h
  rcases bit_cases l with ⟨k, hk, heq⟩ | ⟨-, hnone⟩
  · refine ⟨k, hk, ?_⟩
    rw [heq]
    exact Nat.testBit_two_pow_self
  · exact absurd (List.mem_zipIdx_iff_getElem?.mpr hi) (hnone i)

/-- No other lookahead has its bit at the place of a lookahead. -/
theorem eq_of_bit {l l' : Lookahead} {k : Nat} (hl : (l, k) ∈ lookaheads.zipIdx)
    (h : (bit l').testBit k = true) : l' = l := by
  rcases bit_cases l' with ⟨k', hk', heq⟩ | ⟨heq, -⟩
  · rw [heq] at h
    obtain rfl : k' = k := by
      by_contra hne
      exact absurd h (by rw [Nat.pow_eq, Nat.testBit_two_pow_of_ne hne]; exact Bool.false_ne_true)
    rw [List.mem_zipIdx_iff_getElem?] at hl hk'
    exact Option.some.inj (hk'.symm.trans hl)
  · rw [heq, Nat.zero_testBit] at h
    exact nomatch h

/-- Whether a set has the lookahead at a place. -/
def HasBit (sets : Array Nat) (i k : Nat) : Prop := (sets[i]?.getD 0).testBit k = true

theorem HasBit.lt {sets : Array Nat} {i k : Nat} (h : HasBit sets i k) : i < sets.size := by
  by_contra hnot
  unfold HasBit at h
  rw [Array.getElem?_eq_none (Nat.le_of_not_lt hnot), Option.getD_none, Nat.zero_testBit] at h
  exact nomatch h

theorem hasBit_map {α : Type} {f : α → Nat} {xs : Array α} {i k : Nat} :
    HasBit (xs.map f) i k ↔ ∃ x, xs[i]? = some x ∧ (f x).testBit k = true := by
  unfold HasBit
  rw [Array.getElem?_map]
  cases hx : xs[i]? with
  | none => simp
  | some x => simp

theorem mem_members {set : Nat} {l : Lookahead} :
    l ∈ members set ↔ ∃ k, (l, k) ∈ lookaheads.zipIdx ∧ set.testBit k = true := by
  unfold members
  rw [List.mem_filterMap]
  constructor
  · rintro ⟨⟨l', k⟩, hk, heq⟩
    dsimp only at heq
    split at heq
    · next hbit => exact ⟨k, Option.some.inj heq ▸ hk, hbit⟩
    · exact nomatch heq
  · rintro ⟨k, hk, hbit⟩
    exact ⟨(l, k), hk, if_pos hbit⟩

/-! ## Propagation -/

section Propagation

variable {edges : Array (List Nat)} {sets : Array Nat} {i j k : Nat}

theorem testBit_foldl_or (js : List Nat) (s : Nat) :
    (js.foldl (fun s j => s ||| (sets[j]?.getD 0)) s).testBit k = true ↔
      s.testBit k = true ∨ ∃ j ∈ js, HasBit sets j k := by
  induction js generalizing s with
  | nil => simp
  | cons x js ih =>
    rw [List.foldl_cons, ih, Nat.testBit_or, Bool.or_eq_true, List.exists_mem_cons_iff, or_assoc]
    rfl

/-- One set takes in those that its entry names. -/
def takeIn (edges : Array (List Nat)) (sets : Array Nat) (i : Nat) : Array Nat :=
  sets.setIfInBounds i ((edges[i]?.getD []).foldl (fun s j => s ||| (sets[j]?.getD 0))
    (sets[i]?.getD 0))

theorem hasBit_takeIn {i' : Nat} : HasBit (takeIn edges sets i') i k ↔
    HasBit sets i k ∨ i' = i ∧ i < sets.size ∧ ∃ j ∈ edges[i]?.getD [], HasBit sets j k := by
  have heq : HasBit (takeIn edges sets i') i k ↔ ((if i' = i then
      if i' < sets.size then some ((edges[i']?.getD []).foldl (fun s j => s ||| (sets[j]?.getD 0))
        (sets[i']?.getD 0)) else none
      else sets[i]?).getD 0).testBit k = true := by
    unfold HasBit takeIn
    rw [Array.getElem?_setIfInBounds]
  rw [heq]
  by_cases hi : i' = i
  · subst hi
    rw [if_pos rfl]
    by_cases hlt : i' < sets.size
    · rw [if_pos hlt, Option.getD_some, testBit_foldl_or]
      simp [hlt, HasBit]
    · have hnot : ¬ HasBit sets i' k := fun h => hlt h.lt
      rw [if_neg hlt]
      simp [hlt, hnot]
  · rw [if_neg hi]
    simp [hi, HasBit]

theorem propagateOnce_eq : propagateOnce edges sets =
    (List.range sets.size).foldl (takeIn edges) sets := rfl

theorem takeIn_size : (takeIn edges sets i).size = sets.size := Array.size_setIfInBounds ..

theorem propagateOnce_size : (propagateOnce edges sets).size = sets.size := by
  rw [propagateOnce_eq]
  exact foldl_keeps (I := fun s : Array Nat => s.size = sets.size)
    (fun s i h => takeIn_size.trans h) _ rfl

theorem propagateOnce_keeps (h : HasBit sets i k) : HasBit (propagateOnce edges sets) i k := by
  rw [propagateOnce_eq]
  exact foldl_keeps (I := fun s : Array Nat => HasBit s i k)
    (fun s i' h => hasBit_takeIn.mpr (.inl h)) _ h

theorem propagateOnce_sets (hi : i < sets.size) (hj : j ∈ edges[i]?.getD [])
    (h : HasBit sets j k) : HasBit (propagateOnce edges sets) i k := by
  rw [propagateOnce_eq]
  exact foldl_of_mem (f := takeIn edges) (I := fun s : Array Nat => i < s.size ∧ HasBit s j k)
    (P := fun s => HasBit s i k)
    (fun s i' hs => ⟨Nat.lt_of_lt_of_eq hs.1 takeIn_size.symm, hasBit_takeIn.mpr (.inl hs.2)⟩)
    (fun s i' _ h => hasBit_takeIn.mpr (.inl h))
    (fun s hs => hasBit_takeIn.mpr (.inr ⟨rfl, hs.1, j, hj, hs.2⟩))
    (List.mem_range.mpr hi) ⟨hi, h⟩

/-- A pass stays within what is closed under its edges. -/
theorem propagateOnce_within {P : Nat → Prop}
    (hclosed : ∀ i < sets.size, ∀ j ∈ edges[i]?.getD [], P j → P i)
    (hsets : ∀ i, HasBit sets i k → P i) : ∀ i, HasBit (propagateOnce edges sets) i k → P i := by
  rw [propagateOnce_eq]
  refine (foldl_keeps (I := fun s : Array Nat => s.size = sets.size ∧ ∀ i, HasBit s i k → P i)
    (fun s i' hs => ⟨takeIn_size.trans hs.1, fun i h => ?_⟩) _ ⟨rfl, hsets⟩).2
  rcases hasBit_takeIn.mp h with h | ⟨-, hi, j, hj, h⟩
  · exact hs.2 i h
  · exact hclosed i (hs.1 ▸ hi) j hj (hs.2 j h)

theorem propagate_keeps (n : Nat) (h : HasBit sets i k) : HasBit (propagate edges n sets) i k := by
  induction n generalizing sets with
  | zero => exact h
  | succ n ih =>
    rw [propagate]
    split
    · exact h
    · exact ih (propagateOnce_keeps h)

theorem propagate_size (n : Nat) : (propagate edges n sets).size = sets.size := by
  induction n generalizing sets with
  | zero => rfl
  | succ n ih =>
    rw [propagate]
    split
    · rfl
    · rw [ih, propagateOnce_size]

theorem propagate_within {P : Nat → Prop} (n : Nat)
    (hclosed : ∀ i < sets.size, ∀ j ∈ edges[i]?.getD [], P j → P i)
    (hsets : ∀ i, HasBit sets i k → P i) : ∀ i, HasBit (propagate edges n sets) i k → P i := by
  induction n generalizing sets with
  | zero => exact hsets
  | succ n ih =>
    rw [propagate]
    split
    · exact hsets
    · exact ih (fun i hi => hclosed i (propagateOnce_size ▸ hi))
        (propagateOnce_within hclosed hsets)

/-- The sets that hold the lookahead at a place. -/
def holders (sets : Array Nat) (k : Nat) : Finset Nat :=
  (Finset.range sets.size).filter fun i => (sets[i]?.getD 0).testBit k = true

theorem mem_holders : i ∈ holders sets k ↔ HasBit sets i k := by
  unfold holders
  rw [Finset.mem_filter, Finset.mem_range]
  exact ⟨fun h => h.2, fun h => ⟨HasBit.lt h, h⟩⟩

/-- With a pass for each set that does not hold a lookahead, every set holds it in the end that
names one that does. -/
theorem propagate_closed (n : Nat) (hfuel : sets.size ≤ n + (holders sets k).card)
    (hi : i < sets.size) (hj : j ∈ edges[i]?.getD []) (h : HasBit (propagate edges n sets) j k) :
    HasBit (propagate edges n sets) i k := by
  induction n generalizing sets with
  | zero =>
    have hall : holders sets k = Finset.range sets.size :=
      Finset.eq_of_subset_of_card_le (Finset.filter_subset ..) (by rw [Finset.card_range]; omega)
    exact mem_holders.mp (hall ▸ Finset.mem_range.mpr hi)
  | succ n ih =>
    by_cases hmore : ∃ i, HasBit (propagateOnce edges sets) i k ∧ ¬ HasBit sets i k
    · obtain ⟨i', hnew, hold⟩ := hmore
      have hne : propagateOnce edges sets ≠ sets := by
        intro heq
        rw [heq] at hnew
        exact hold hnew
      have hcard : (holders sets k).card < (holders (propagateOnce edges sets) k).card := by
        refine Finset.card_lt_card (Finset.ssubset_iff_of_subset (fun i' hi' => ?_) |>.mpr
          ⟨i', mem_holders.mpr hnew, fun hin => hold (mem_holders.mp hin)⟩)
        exact mem_holders.mpr (propagateOnce_keeps (mem_holders.mp hi'))
      rw [propagate, if_neg (by simpa using hne)] at h ⊢
      exact ih (by rw [propagateOnce_size]; omega) (by rwa [propagateOnce_size]) h
    · -- no set takes it in, so it stays where it is
      have hstays : ∀ i, HasBit (propagateOnce edges sets) i k → HasBit sets i k := by
        intro i hnew
        by_contra hold
        exact hmore ⟨i, hnew, hold⟩
      have hclosed : ∀ i < sets.size, ∀ j ∈ edges[i]?.getD [], HasBit sets j k → HasBit sets i k :=
        fun i hi j hj h => hstays i (propagateOnce_sets hi hj h)
      have hbefore := propagate_within (n + 1) hclosed (fun i => id) j h
      exact propagate_keeps (n + 1) (hclosed i hi j hj hbefore)

end Propagation

/-! ## Nonterminals that may be empty -/

/-- What holds of a nonterminal if it holds of all of one of its rules holds of those that may be
empty. -/
theorem nullable_induction {g : Source} {P : Nonterminal → Prop}
    (hrule : ∀ r ∈ g.rules, (∀ x ∈ r.rhs, ∃ n, x = .nonterminal n ∧ P n) → P r.lhs) (fuel : Nat)
    (known : List Nonterminal) (hknown : ∀ n ∈ known, P n) : ∀ n ∈ g.nullable fuel known, P n := by
  induction fuel generalizing known with
  | zero => exact hknown
  | succ fuel ih =>
    rw [Source.nullable]
    split
    · exact hknown
    · refine ih _ (List.foldlRecOn (motive := fun known => ∀ n ∈ known, P n) g.rules.toList _ hknown
        fun known hknown r hr => ?_)
      split
      · next hempty =>
        refine List.forall_mem_cons.mpr
          ⟨hrule r (Array.mem_toList_iff.mp hr) fun x hx => ?_, hknown⟩
        have hall := List.all_eq_true.mp (Bool.and_eq_true_iff.mp hempty).2 x hx
        cases x with
        | terminal t => exact nomatch hall
        | nonterminal n => exact ⟨n, rfl, hknown n (List.contains_iff_mem.mp hall)⟩
      · exact hknown

/-! ## Crossings -/

section Crossings

variable {moves : Array (List (Symbol × Nat))} {c : Crossings} {nullable : List Nonterminal}
  {i p q : Nat} {n : Nonterminal}

theorem mem_crossings {p : Nat} {n : Nonterminal} :
    (p, n) ∈ (Crossings.ofMoves moves).list ↔ ∃ ms q, moves[p]? = some ms ∧
      (Symbol.nonterminal n, q) ∈ ms := by
  unfold Crossings.ofMoves
  dsimp only
  rw [List.mem_toArray, List.mem_flatMap]
  constructor
  · rintro ⟨⟨ms, p'⟩, hms, hin⟩
    obtain ⟨⟨x, q⟩, hx, heq⟩ := List.mem_filterMap.mp hin
    cases x with
    | terminal t => exact nomatch heq
    | nonterminal m =>
      obtain ⟨rfl, rfl⟩ := Prod.mk.inj (Option.some.inj heq)
      rw [List.mem_zipIdx_iff_getElem?] at hms
      exact ⟨ms, q, by simpa using hms, hx⟩
  · rintro ⟨ms, q, hms, hx⟩
    exact ⟨(ms, p), List.mem_zipIdx_iff_getElem?.mpr (by simpa using hms),
      List.mem_filterMap.mpr ⟨_, hx, rfl⟩⟩

/-- A crossing is a transition. -/
theorem exists_lookup_of_place (h : (Crossings.ofMoves moves).list[i]? = some (p, n)) :
    ∃ q, (moves[p]?.getD []).lookup (.nonterminal n) = some q := by
  obtain ⟨ms, q, hms, hq⟩ := mem_crossings.mp (Array.mem_of_getElem? h)
  rw [hms]
  exact exists_lookup_of_mem hq

variable (moves) in
/-- The number of a transition is one of its places. -/
theorem number?_cases (p : Nat) (n : Nonterminal) :
    (∃ i, (Crossings.ofMoves moves).number? p n = some i ∧
      (Crossings.ofMoves moves).list[i]? = some (p, n)) ∨
    (Crossings.ofMoves moves).number? p n = none ∧
      ∀ i : Nat, (Crossings.ofMoves moves).list[i]? ≠ some (p, n) := by
  have hplace : ∀ j : Nat, ((p, n), j) ∈ (Crossings.ofMoves moves).list.toList.zipIdx ↔
      (Crossings.ofMoves moves).list[j]? = some (p, n) := fun j => by
    rw [List.mem_zipIdx_iff_getElem?, Array.getElem?_toList]
  rcases getElem?_foldl_insert (id : Nat → Nat) (Crossings.ofMoves moves).list.toList.zipIdx ∅
    (p, n) with ⟨i, hi, heq⟩ | ⟨heq, hnone⟩
  · exact .inl ⟨i, heq, (hplace i).mp hi⟩
  · exact .inr ⟨heq.trans Std.HashMap.getElem?_empty, fun i hi => hnone i ((hplace i).mpr hi)⟩

theorem place_of_number (h : (Crossings.ofMoves moves).number? p n = some i) :
    (Crossings.ofMoves moves).list[i]? = some (p, n) := by
  rcases number?_cases moves p n with ⟨j, hj, hplace⟩ | ⟨hnone, -⟩
  · rw [Option.some.inj (h.symm.trans hj)]
    exact hplace
  · rw [h] at hnone
    exact nomatch hnone

/-- Every transition over a nonterminal has a number. -/
theorem exists_number (h : (moves[p]?.getD []).lookup (.nonterminal n) = some q) :
    ∃ i, (Crossings.ofMoves moves).number? p n = some i := by
  rcases number?_cases moves p n with ⟨i, hi, -⟩ | ⟨-, hnone⟩
  · exact ⟨i, hi⟩
  · have hmem : (p, n) ∈ (Crossings.ofMoves moves).list := by
      cases hms : moves[p]? with
      | none =>
        rw [hms] at h
        cases h
      | some ms =>
        rw [hms] at h
        exact mem_crossings.mpr ⟨ms, q, hms, mem_of_lookup h⟩
    obtain ⟨i, hi⟩ := List.mem_iff_getElem?.mp (Array.mem_toList_iff.mpr hmem)
    exact absurd (by simpa using hi) (hnone i)

/-- The transition over a symbol, if nothing after it need be there. -/
def lastHere (c : Crossings) (nullable : List Nonterminal) (p : Nat) (x : Symbol)
    (xs : List Symbol) : List Nat :=
  match x with
  | .nonterminal a => if emptyable nullable xs then (c.number? p a).toList else []
  | .terminal _ => []

theorem mem_lastHere {x : Symbol} {xs : List Symbol} : i ∈ lastHere c nullable p x xs ↔
    ∃ a, x = .nonterminal a ∧ emptyable nullable xs = true ∧ c.number? p a = some i := by
  cases x with
  | terminal t => simp [lastHere]
  | nonterminal a =>
    unfold lastHere
    dsimp only
    split <;> simp_all

theorem lastCrossings_cons (x : Symbol) (xs : List Symbol) :
    lastCrossings moves c nullable p (x :: xs) = match (moves[p]?.getD []).lookup x with
      | some q => lastHere c nullable p x xs ++ lastCrossings moves c nullable q xs
      | none => lastHere c nullable p x xs := rfl

theorem mem_lastCrossings_cons {x : Symbol} {xs : List Symbol} :
    i ∈ lastCrossings moves c nullable p (x :: xs) ↔
      (∃ a, x = .nonterminal a ∧ emptyable nullable xs = true ∧ c.number? p a = some i) ∨
      ∃ q, (moves[p]?.getD []).lookup x = some q ∧ i ∈ lastCrossings moves c nullable q xs := by
  rw [lastCrossings_cons, ← mem_lastHere]
  cases (moves[p]?.getD []).lookup x with
  | none => simp
  | some q => simp

/-- The last transitions of a rule are those with nothing after them that may not be empty. -/
theorem mem_lastCrossings {xs : List Symbol} : i ∈ lastCrossings moves c nullable p xs ↔
    ∃ front n rest q, xs = front ++ .nonterminal n :: rest ∧ emptyable nullable rest = true ∧
      walk moves p front = some q ∧ c.number? q n = some i := by
  induction xs generalizing p with
  | nil =>
    refine iff_of_false List.not_mem_nil ?_
    rintro ⟨front, n, rest, q, heq, -⟩
    exact absurd heq.symm (by simp)
  | cons x xs ih =>
    rw [mem_lastCrossings_cons]
    constructor
    · rintro (⟨a, rfl, hempty, hi⟩ | ⟨q, hq, hi⟩)
      · exact ⟨[], a, xs, p, rfl, hempty, rfl, hi⟩
      · obtain ⟨front, n, rest, q', rfl, hempty, hwalk, hi⟩ := ih.mp hi
        refine ⟨x :: front, n, rest, q', rfl, hempty, ?_, hi⟩
        rw [walk, hq]
        exact hwalk
    · rintro ⟨front, n, rest, q, heq, hempty, hwalk, hi⟩
      cases front with
      | nil =>
        obtain ⟨rfl, rfl⟩ := List.cons.inj heq
        obtain rfl := Option.some.inj hwalk
        exact .inl ⟨n, rfl, hempty, hi⟩
      | cons y front =>
        obtain ⟨rfl, rfl⟩ := List.cons.inj heq
        rw [walk] at hwalk
        split at hwalk
        · next q' hq' => exact .inr ⟨q', hq', ih.mpr ⟨front, n, rest, q, rfl, hempty, hwalk, hi⟩⟩
        · exact nomatch hwalk

end Crossings

/-! ## Endings -/

section Endings

variable {g : Source} {moves : Array (List (Symbol × Nat))} {c : Crossings}
  {nullable : List Nonterminal} {i j p r : Nat} {b : Nonterminal}

/-- Notes that what follows the transition `i` follows `j`, too. -/
def addEnding (i : Nat) (edges : Array (List Nat)) (j : Nat) : Array (List Nat) :=
  edges.modify j (i :: ·)

/-- Notes the last transitions of the rules of a nonterminal that are begun in some state. -/
def addEndings (g : Source) (moves : Array (List (Symbol × Nat))) (c : Crossings)
    (nullable : List Nonterminal) (edges : Array (List Nat)) (x : (Nat × Nonterminal) × Nat) :
    Array (List Nat) :=
  (g.byLhs.getD x.1.2 []).foldl
    (fun edges r => (lastCrossings moves c nullable x.1.1 (g.rhs r)).foldl (addEnding x.2) edges)
    edges

theorem endings_eq : g.endings moves c nullable =
    c.list.toList.zipIdx.foldl (addEndings g moves c nullable)
      (Array.replicate c.list.size []) := rfl

theorem mem_addEnding {i' j' : Nat} {edges : Array (List Nat)} :
    i ∈ (addEnding i' edges j')[j]?.getD [] ↔
      i ∈ edges[j]?.getD [] ∨ j' = j ∧ j < edges.size ∧ i = i' := by
  have heq : i ∈ (addEnding i' edges j')[j]?.getD [] ↔
      i ∈ (if j' = j then edges[j]?.map (i' :: ·) else edges[j]?).getD [] := by
    unfold addEnding
    rw [Array.getElem?_modify]
  rw [heq]
  by_cases hj : j' = j
  · rw [if_pos hj]
    cases he : edges[j]? with
    | none =>
      have hle := Array.getElem?_eq_none_iff.mp he
      simp [Nat.not_lt.mpr hle]
    | some es =>
      have hlt := (Array.getElem?_eq_some_iff.mp he).1
      simp [hj, hlt, or_comm]
  · rw [if_neg hj]
    simp [hj]

theorem addEndings_keeps {x : (Nat × Nonterminal) × Nat} {edges : Array (List Nat)}
    (h : i ∈ edges[j]?.getD []) : i ∈ (addEndings g moves c nullable edges x)[j]?.getD [] :=
  foldl_keeps (I := fun edges : Array (List Nat) => i ∈ edges[j]?.getD [])
    (fun _ _ h => foldl_keeps (I := fun edges : Array (List Nat) => i ∈ edges[j]?.getD [])
      (fun _ _ h => mem_addEnding.mpr (.inl h)) _ h) _ h

theorem addEndings_size {n : Nat} {x : (Nat × Nonterminal) × Nat} {edges : Array (List Nat)}
    (h : edges.size = n) : (addEndings g moves c nullable edges x).size = n :=
  foldl_keeps (I := fun edges : Array (List Nat) => edges.size = n)
    (fun _ _ h => foldl_keeps (I := fun edges : Array (List Nat) => edges.size = n)
      (fun _ _ h => (Array.size_modify ..).trans h) _ h) _ h

/-- What follows `B` where a rule of `B` is begun follows the last transitions of the rule. -/
theorem mem_endings (hi : c.list[i]? = some (p, b)) (hr : r ∈ g.byLhs.getD b [])
    (hj : j ∈ lastCrossings moves c nullable p (g.rhs r)) (hlt : j < c.list.size) :
    i ∈ (g.endings moves c nullable)[j]?.getD [] := by
  have hplace : ((p, b), i) ∈ c.list.toList.zipIdx :=
    List.mem_zipIdx_iff_getElem?.mpr (by simpa using hi)
  have hinner : ∀ edges : Array (List Nat), edges.size = c.list.size →
      i ∈ ((lastCrossings moves c nullable p (g.rhs r)).foldl (addEnding i) edges)[j]?.getD [] := by
    intro edges hsize
    exact foldl_of_mem (f := addEnding i)
      (I := fun edges : Array (List Nat) => edges.size = c.list.size)
      (P := fun edges => i ∈ edges[j]?.getD []) (fun _ _ h => (Array.size_modify ..).trans h)
      (fun _ _ _ h => mem_addEnding.mpr (.inl h))
      (fun edges hsize => mem_addEnding.mpr (.inr ⟨rfl, hsize ▸ hlt, rfl⟩)) hj hsize
  have hrule : ∀ edges : Array (List Nat), edges.size = c.list.size →
      i ∈ (addEndings g moves c nullable edges ((p, b), i))[j]?.getD [] := by
    intro edges hsize
    exact foldl_of_mem (I := fun edges : Array (List Nat) => edges.size = c.list.size)
      (P := fun edges => i ∈ edges[j]?.getD [])
      (fun _ _ h => foldl_keeps (I := fun edges : Array (List Nat) => edges.size = c.list.size)
        (fun _ _ h => (Array.size_modify ..).trans h) _ h)
      (fun _ _ _ h => foldl_keeps (I := fun edges : Array (List Nat) => i ∈ edges[j]?.getD [])
        (fun _ _ h => mem_addEnding.mpr (.inl h)) _ h) hinner hr hsize
  rw [endings_eq]
  exact foldl_of_mem (f := addEndings g moves c nullable)
    (I := fun edges : Array (List Nat) => edges.size = c.list.size)
    (P := fun edges => i ∈ edges[j]?.getD []) (fun _ _ => addEndings_size)
    (fun _ _ _ => addEndings_keeps) hrule hplace (Array.size_replicate ..)

/-- Nothing else follows because of an ending. -/
theorem of_mem_endings (h : i ∈ (g.endings moves c nullable)[j]?.getD []) :
    ∃ p b r, c.list[i]? = some (p, b) ∧ r ∈ g.byLhs.getD b [] ∧
      j ∈ lastCrossings moves c nullable p (g.rhs r) := by
  let Within (edges : Array (List Nat)) : Prop := i ∈ edges[j]?.getD [] →
    ∃ p b r, c.list[i]? = some (p, b) ∧ r ∈ g.byLhs.getD b [] ∧
      j ∈ lastCrossings moves c nullable p (g.rhs r)
  rw [endings_eq] at h
  refine List.foldlRecOn (motive := Within) _ _ (fun h => ?_) (fun edges hedges x hx =>
    List.foldlRecOn (motive := Within) _ _ hedges fun edges hedges r hr =>
      List.foldlRecOn (motive := Within) _ _ hedges fun edges hedges j' hj' h => ?_) h
  · rw [Array.getElem?_replicate] at h
    split at h
    · exact absurd h List.not_mem_nil
    · exact absurd h List.not_mem_nil
  · rcases mem_addEnding.mp h with h | ⟨rfl, -, rfl⟩
    · exact hedges h
    · rw [List.mem_zipIdx_iff_getElem?, Array.getElem?_toList] at hx
      exact ⟨x.1.1, x.1.2, r, hx, hr, hj'⟩

end Endings

/-! ## What follows -/

section Follows

variable (start : Nonterminal) (rules : List Rule)

/-- The transitions of a grammar over nonterminals. -/
def crossingsOf : Crossings := .ofMoves (statesOf start rules).moves

/-- The nonterminals of a grammar that may be empty. -/
def emptied : List Nonterminal :=
  (sourceOf start rules).nullable (sourceOf start rules).rules.size []

/-- What follows the transitions of a grammar over nonterminals. -/
def followersOf : Array Nat :=
  (sourceOf start rules).followers start (statesOf start rules).moves (crossingsOf start rules)

/-- `ReadAfter i a l`: after the nonterminal `a` is read in state `i`, and after some more that may
be empty, `l` is read, or the input ends after the start symbol. -/
inductive ReadAfter : Nat → Nonterminal → Lookahead → Prop
  | endOfInput {j : Nat} : MovesOver start rules 0 (.nonterminal start) j →
      ReadAfter 0 start .endOfInput
  | shift {i j k : Nat} {a : Nonterminal} {t : Terminal} :
      MovesOver start rules i (.nonterminal a) j → MovesOver start rules j (.terminal t) k →
      ReadAfter i a (.terminal t)
  | skip {i j k : Nat} {a b : Nonterminal} {l : Lookahead} :
      MovesOver start rules i (.nonterminal a) j → MovesOver start rules j (.nonterminal b) k →
      b ∈ emptied start rules → ReadAfter j b l → ReadAfter i a l

/-- `Follows i a l`: after the nonterminal `a` is read in state `i`, the lookahead may be `l`. -/
inductive Follows : Nat → Nonterminal → Lookahead → Prop
  | read {i : Nat} {a : Nonterminal} {l : Lookahead} : ReadAfter start rules i a l → Follows i a l
  | last {i j i₀ j₀ : Nat} {a : Nonterminal} {l : Lookahead} {r : Rule}
      {front rest : List Symbol} : r ∈ rules → r.rhs = front ++ .nonterminal a :: rest →
      emptyable (emptied start rules) rest = true →
      walk (statesOf start rules).moves i₀ front = some i →
      MovesOver start rules i (.nonterminal a) j →
      MovesOver start rules i₀ (.nonterminal r.lhs) j₀ →
      Follows i₀ r.lhs l → Follows i a l

variable {start rules}
variable {i j k m p q : Nat} {a b : Nonterminal} {l : Lookahead} {r : Rule}

/-- What follows a nonterminal follows it where it is read. -/
theorem Follows.movesOver (h : Follows start rules i a l) :
    ∃ j, MovesOver start rules i (.nonterminal a) j := by
  cases h with
  | read h =>
    cases h with
    | endOfInput hmove => exact ⟨_, hmove⟩
    | shift hmove _ => exact ⟨_, hmove⟩
    | skip hmove _ _ _ => exact ⟨_, hmove⟩
  | last _ _ _ _ hmove _ _ => exact ⟨_, hmove⟩

theorem exists_place (h : (crossingsOf start rules).list[i]? = some (p, a)) :
    ∃ q, MovesOver start rules p (.nonterminal a) q :=
  exists_lookup_of_place h

/-- The moves after a transition over a nonterminal. -/
def movesAfter (moves : Array (List (Symbol × Nat))) (x : Nat × Nonterminal) :
    List (Symbol × Nat) :=
  match (moves[x.1]?.getD []).lookup (.nonterminal x.2) with
  | some q => moves[q]?.getD []
  | none => []

/-- Adds the terminals that some moves read. -/
def addReads (s : Nat) (move : Symbol × Nat) : Nat :=
  match move.1 with
  | .terminal t => s ||| bit (.terminal t)
  | .nonterminal _ => s

theorem testBit_addReads (ms : List (Symbol × Nat)) (s : Nat) :
    (ms.foldl addReads s).testBit k = true ↔ s.testBit k = true ∨
      ∃ t q, (Symbol.terminal t, q) ∈ ms ∧ (bit (.terminal t)).testBit k = true := by
  induction ms generalizing s with
  | nil => simp
  | cons move ms ih =>
    obtain ⟨x, q⟩ := move
    rw [List.foldl_cons, ih]
    cases x with
    | nonterminal n => simp [addReads]
    | terminal t =>
      rw [addReads, Nat.testBit_or, Bool.or_eq_true, or_assoc]
      refine or_congr_right ⟨?_, ?_⟩
      · rintro (hk | ⟨t', q', hmem, hk⟩)
        · exact ⟨t, q, List.mem_cons_self, hk⟩
        · exact ⟨t', q', List.mem_cons_of_mem _ hmem, hk⟩
      · rintro ⟨t', q', hmem, hk⟩
        rcases List.mem_cons.mp hmem with heq | hmem
        · obtain ⟨ht, -⟩ := Prod.mk.inj heq
          exact .inl (Symbol.terminal.inj ht ▸ hk)
        · exact .inr ⟨t', q', hmem, hk⟩

/-- The terminals that can be read directly after a transition. -/
def directly (start : Nonterminal) (moves : Array (List (Symbol × Nat))) (x : Nat × Nonterminal) :
    Nat :=
  (movesAfter moves x).foldl addReads (if x.1 == 0 && x.2 == start then bit .endOfInput else 0)

/-- The transitions after a transition over what may be empty. -/
def skips (moves : Array (List (Symbol × Nat))) (c : Crossings) (nullable : List Nonterminal)
    (x : Nat × Nonterminal) : List Nat :=
  match (moves[x.1]?.getD []).lookup (.nonterminal x.2) with
  | none => []
  | some q => (movesAfter moves x).filterMap fun (y, _) =>
    match y with
    | .nonterminal m => if nullable.contains m then c.number? q m else none
    | .terminal _ => none

/-- What the first propagation ends with: what is read after each transition. -/
def readsOf (start : Nonterminal) (rules : List Rule) : Array Nat :=
  propagate ((crossingsOf start rules).list.map
      (skips (statesOf start rules).moves (crossingsOf start rules) (emptied start rules)))
    (crossingsOf start rules).list.size
    ((crossingsOf start rules).list.map (directly start (statesOf start rules).moves))

/-- The second propagation goes on from the first. -/
theorem followersOf_eq : followersOf start rules =
    propagate ((sourceOf start rules).endings (statesOf start rules).moves (crossingsOf start rules)
      (emptied start rules)) (crossingsOf start rules).list.size (readsOf start rules) := rfl

theorem size_readsOf : (readsOf start rules).size = (crossingsOf start rules).list.size := by
  unfold readsOf
  rw [propagate_size, Array.size_map]

theorem exists_mem_movesAfter {x : Symbol} :
    (∃ q, (x, q) ∈ movesAfter (statesOf start rules).moves (p, a)) ↔
      ∃ j q, MovesOver start rules p (.nonterminal a) j ∧ MovesOver start rules j x q := by
  unfold movesAfter MovesOver
  cases h : ((statesOf start rules).moves[p]?.getD []).lookup (.nonterminal a) with
  | none => simp
  | some j =>
    constructor
    · rintro ⟨q, hq⟩
      obtain ⟨q', hq'⟩ := exists_lookup_of_mem hq
      exact ⟨j, q', rfl, hq'⟩
    · rintro ⟨j', q, hj, hq⟩
      obtain rfl := Option.some.inj hj
      exact ⟨q, mem_of_lookup hq⟩

theorem testBit_directly :
    (directly start (statesOf start rules).moves (p, a)).testBit k = true ↔
      (p = 0 ∧ a = start ∧ (bit .endOfInput).testBit k = true) ∨
      ∃ t j q, MovesOver start rules p (.nonterminal a) j ∧
        MovesOver start rules j (.terminal t) q ∧
        (bit (.terminal t)).testBit k = true := by
  unfold directly
  rw [testBit_addReads]
  refine or_congr ?_ (exists_congr fun t => ?_)
  · by_cases h : p = 0 ∧ a = start
    · simp [h.1, h.2]
    · have hne : (p == 0 && a == start) = false := by simpa using h
      rw [hne, if_neg Bool.false_ne_true, Nat.zero_testBit]
      exact iff_of_false Bool.false_ne_true fun hall => h ⟨hall.1, hall.2.1⟩
  · rw [exists_and_right, exists_mem_movesAfter]
    simp only [← and_assoc, exists_and_right]

theorem mem_skips : i ∈ skips (statesOf start rules).moves (crossingsOf start rules)
      (emptied start rules) (p, a) ↔
    ∃ j b q, MovesOver start rules p (.nonterminal a) j ∧
      MovesOver start rules j (.nonterminal b) q ∧ b ∈ emptied start rules ∧
      (crossingsOf start rules).number? j b = some i := by
  unfold skips
  dsimp only
  cases h : ((statesOf start rules).moves[p]?.getD []).lookup (.nonterminal a) with
  | none =>
    refine iff_of_false List.not_mem_nil ?_
    rintro ⟨j, b, q, hj, -⟩
    exact nomatch h.symm.trans hj
  | some j =>
    dsimp only
    rw [List.mem_filterMap]
    constructor
    · rintro ⟨⟨x, q⟩, hq, hi⟩
      cases x with
      | terminal t => exact nomatch hi
      | nonterminal b =>
        dsimp only at hi
        split at hi
        · next hb =>
          obtain ⟨j', q', hj', hq'⟩ := exists_mem_movesAfter.mp ⟨q, hq⟩
          obtain rfl := Option.some.inj (h.symm.trans hj')
          exact ⟨j, b, q', hj', hq', List.contains_iff_mem.mp hb, hi⟩
        · exact nomatch hi
    · rintro ⟨j', b, q, hj, hq, hb, hi⟩
      obtain rfl := Option.some.inj (h.symm.trans hj)
      obtain ⟨q', hq'⟩ := exists_mem_movesAfter.mpr ⟨j, q, hj, hq⟩
      refine ⟨_, hq', ?_⟩
      dsimp only
      rw [if_pos (List.contains_iff_mem.mpr hb)]
      exact hi

/-- The first propagation adds only what is read after a transition. -/
theorem readAfter_of_hasBit (hl : (l, k) ∈ lookaheads.zipIdx)
    (h : HasBit (readsOf start rules) i k) :
    ∃ p a, (crossingsOf start rules).list[i]? = some (p, a) ∧ ReadAfter start rules p a l := by
  refine propagate_within _ (P := fun i => ∃ p a,
    (crossingsOf start rules).list[i]? = some (p, a) ∧ ReadAfter start rules p a l)
    (fun i hi j hj hbefore => ?_) (fun i hi => ?_) i h
  · rw [Array.size_map] at hi
    have hplace := Array.getElem?_eq_getElem hi
    rw [Array.getElem?_map, hplace] at hj
    obtain ⟨j', b, q, hmove, hskip, hb, hnumber⟩ := mem_skips.mp hj
    obtain ⟨p', b', hplace', hread⟩ := hbefore
    obtain ⟨rfl, rfl⟩ :=
      Prod.mk.inj (Option.some.inj ((place_of_number hnumber).symm.trans hplace'))
    exact ⟨_, _, hplace, .skip hmove hskip hb hread⟩
  · obtain ⟨⟨p, a⟩, hplace, hbit⟩ := hasBit_map.mp hi
    refine ⟨p, a, hplace, ?_⟩
    rcases testBit_directly.mp hbit with ⟨rfl, rfl, hk⟩ | ⟨t, j, q, hmove, hshift, hk⟩
    · obtain ⟨q, hq⟩ := exists_place hplace
      rw [← eq_of_bit hl hk]
      exact .endOfInput hq
    · rw [← eq_of_bit hl hk]
      exact .shift hmove hshift

theorem hasBit_of_directly (hi : (crossingsOf start rules).number? p a = some i)
    (h : (directly start (statesOf start rules).moves (p, a)).testBit k = true) :
    HasBit (readsOf start rules) i k :=
  propagate_keeps _ (hasBit_map.mpr ⟨_, place_of_number hi, h⟩)

/-- The first propagation leaves out nothing that is read after a transition. -/
theorem hasBit_of_readAfter (hk : (bit l).testBit k = true) (h : ReadAfter start rules p a l)
    (hi : (crossingsOf start rules).number? p a = some i) : HasBit (readsOf start rules) i k := by
  induction h generalizing i with
  | endOfInput hmove => exact hasBit_of_directly hi (testBit_directly.mpr (.inl ⟨rfl, rfl, hk⟩))
  | shift hmove hshift =>
    exact hasBit_of_directly hi (testBit_directly.mpr (.inr ⟨_, _, _, hmove, hshift, hk⟩))
  | @skip p _ _ a _ _ hmove hskip hb hread ih =>
    obtain ⟨j, hj⟩ := exists_number hskip
    have hplace : (crossingsOf start rules).list[i]? = some (p, a) := place_of_number hi
    have hlt := (Array.getElem?_eq_some_iff.mp hplace).1
    refine propagate_closed _ (by rw [Array.size_map]; exact Nat.le_add_right ..)
      (by rwa [Array.size_map]) ?_ (ih hk hj)
    rw [Array.getElem?_map, hplace]
    exact mem_skips.mpr ⟨_, _, _, hmove, hskip, hb, hj⟩

/-- The sets hold only what follows the transitions. -/
theorem follows_of_hasBit (hl : (l, k) ∈ lookaheads.zipIdx)
    (h : HasBit (followersOf start rules) i k) :
    ∃ p a, (crossingsOf start rules).list[i]? = some (p, a) ∧ Follows start rules p a l := by
  rw [followersOf_eq] at h
  refine propagate_within _ (P := fun i => ∃ p a,
    (crossingsOf start rules).list[i]? = some (p, a) ∧ Follows start rules p a l)
    (fun i hi j hj hbefore => ?_) (fun i hi => ?_) i h
  · obtain ⟨p, b, m, hplace, hm, hlast⟩ := of_mem_endings hj
    obtain ⟨front, a, rest, q, hrhs, hempty, hwalk, hnumber⟩ := mem_lastCrossings.mp hlast
    obtain ⟨p', b', hplace', hfollows⟩ := hbefore
    obtain ⟨rfl, rfl⟩ := Prod.mk.inj (Option.some.inj (hplace.symm.trans hplace'))
    obtain ⟨r, hr, rfl⟩ := mem_byLhs.mp hm
    obtain ⟨-, hrhsm, -⟩ := source_of_rules start hr
    obtain ⟨s, hs⟩ := exists_place hplace
    obtain ⟨u, hu⟩ := exists_place (place_of_number hnumber)
    exact ⟨q, a, place_of_number hnumber, .last (List.mem_of_getElem? hr) (hrhsm.symm.trans hrhs)
      hempty hwalk hu hs hfollows⟩
  · obtain ⟨p, a, hplace, hread⟩ := readAfter_of_hasBit hl hi
    exact ⟨p, a, hplace, .read hread⟩

/-- The sets leave out nothing that follows a transition. -/
theorem hasBit_of_follows (hk : (bit l).testBit k = true) (h : Follows start rules p a l)
    (hi : (crossingsOf start rules).number? p a = some i) :
    HasBit (followersOf start rules) i k := by
  rw [followersOf_eq]
  induction h generalizing i with
  | read hread => exact propagate_keeps _ (hasBit_of_readAfter hk hread hi)
  | last hr hrhs hempty hwalk hmove hover hfollows ih =>
    obtain ⟨i₀, hi₀⟩ := exists_number hover
    obtain ⟨m, hm⟩ := List.mem_iff_getElem?.mp hr
    obtain ⟨-, hrhsm, hbegins⟩ := source_of_rules start hm
    have hlt := (Array.getElem?_eq_some_iff.mp (place_of_number hi)).1
    refine propagate_closed _ (by rw [size_readsOf]; exact Nat.le_add_right ..)
      (by rwa [size_readsOf]) (mem_endings (place_of_number hi₀) hbegins ?_ hlt) (ih hk hi₀)
    exact mem_lastCrossings.mpr ⟨_, _, _, _, hrhsm.trans hrhs, hempty, hwalk, hi⟩

end Follows

end Automaton
end Wdl
