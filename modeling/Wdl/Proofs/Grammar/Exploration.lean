import Mathlib.Data.Finset.Powerset
import Mathlib.Data.List.NodupEquivFin
import Wdl.Proofs.Grammar.Items

/-!
The exploration of a grammar comes to an end.

A state is a list of items in order and without repetitions, so there are at most as many states as
sets of items.  That many are explored, and so every state that is found is explored,
`isExplored`.  In the same way the search for the nonterminals that can begin what is read next
ends with all of them, and a state that reads a nonterminal next can begin all rules of it,
`Reads.opens`.
-/

namespace Wdl
namespace Automaton

variable {start : Nonterminal} {rules : List Rule}

/-! ## Rules by number -/

theorem foldl_byLhs (numbered : List (Rule × Nat)) (m : Std.HashMap Nonterminal (List Nat))
    (n : Nonterminal) :
    (numbered.foldl (fun m (r, i) => m.insert r.lhs (i :: m.getD r.lhs [])) m).getD n [] =
      ((numbered.filter fun x => x.1.lhs == n).map Prod.snd).reverse ++ m.getD n [] := by
  induction numbered generalizing m with
  | nil => rfl
  | cons x numbered ih =>
    obtain ⟨r, k⟩ := x
    rw [List.foldl_cons, ih, Std.HashMap.getD_insert, List.filter_cons]
    by_cases hn : r.lhs = n
    · subst hn
      simp
    · simp [hn]

theorem nodup_byLhs (n : Nonterminal) : ((sourceOf start rules).byLhs.getD n []).Nodup := by
  have heq : (sourceOf start rules).byLhs.getD n [] =
      ((rules.zipIdx.filter fun x => x.1.lhs == n).map Prod.snd).reverse := by
    refine (foldl_byLhs rules.zipIdx ∅ n).trans ?_
    rw [Std.HashMap.getD_empty, List.append_nil]
  rw [heq, List.nodup_reverse]
  refine (List.filter_sublist.map _).nodup ?_
  rw [List.zipIdx_map_snd]
  exact List.nodup_range'

/-- The rules of a nonterminal have it on the left. -/
theorem rule_of_byLhs {n : Nonterminal} {i : Nat} (h : i ∈ (sourceOf start rules).byLhs.getD n []) :
    ∃ r, (sourceOf start rules).rules[i]? = some r ∧ r.lhs = n := by
  obtain ⟨r, hr, hlhs⟩ := mem_byLhs.mp h
  exact ⟨r, (source_of_rules start hr).1, hlhs⟩

/-! ## Nonterminals that can begin -/

/-- The nonterminals that begin rules of a nonterminal. -/
def Source.firsts (g : Source) (n : Nonterminal) : List Nonterminal :=
  (g.byLhs.getD n []).filterMap fun i =>
    match g.next? ⟨i, 0⟩ with
    | some (.nonterminal m) => some m
    | _ => none

theorem begun_cons (g : Source) (fuel : Nat) (seen todo : List Nonterminal) (n : Nonterminal) :
    g.begun (fuel + 1) seen (n :: todo) =
      if seen.contains n then g.begun fuel seen todo
      else g.begun fuel (n :: seen) (g.firsts n ++ todo) := rfl

/-- The rules of nonterminals that have not been seen. -/
def Source.unseen (g : Source) (seen : List Nonterminal) : List Nat :=
  (List.range g.rules.size).filter fun i => !((g.rules[i]?.map (·.lhs)).any seen.contains)

variable (start rules) in
theorem unseen_cons {seen : List Nonterminal} {n : Nonterminal} (hn : n ∉ seen) :
    ((sourceOf start rules).firsts n).length + ((sourceOf start rules).unseen (n :: seen)).length ≤
      ((sourceOf start rules).unseen seen).length := by
  have hfirsts : ((sourceOf start rules).firsts n).length ≤
      ((sourceOf start rules).byLhs.getD n []).length := List.length_filterMap_le ..
  refine Nat.le_trans (Nat.add_le_add_right hfirsts _) ?_
  rw [← List.length_append]
  refine List.Subperm.length_le (List.subperm_of_subset (List.nodup_append'.mpr ⟨nodup_byLhs n,
    List.nodup_range.filter _, fun i hi hi' => ?_⟩) (List.append_subset.mpr ⟨fun i hi => ?_,
      fun i hi => ?_⟩))
  · obtain ⟨r, hr, rfl⟩ := rule_of_byLhs hi
    have hunseen := (List.mem_filter.mp hi').2
    rw [hr] at hunseen
    simp at hunseen
  · obtain ⟨r, hr, rfl⟩ := rule_of_byLhs hi
    refine List.mem_filter.mpr ⟨List.mem_range.mpr (Array.getElem?_eq_some_iff.mp hr).1, ?_⟩
    rw [hr]
    simpa using hn
  · obtain ⟨hrange, hunseen⟩ := List.mem_filter.mp hi
    refine List.mem_filter.mpr ⟨hrange, ?_⟩
    cases hr : (sourceOf start rules).rules[i]? with
    | none => rfl
    | some r =>
      rw [hr] at hunseen
      simp only [Option.map_some, Option.any_some, List.contains_cons, Bool.not_or,
        Bool.and_eq_true] at hunseen ⊢
      exact hunseen.2

variable (start rules) in
/-- With enough fuel all that is to be done is done: what has been seen begins only with what is in
the end seen. -/
theorem begun_covers (fuel : Nat) (seen todo : List Nonterminal)
    (hfuel : todo.length + ((sourceOf start rules).unseen seen).length ≤ fuel)
    (hseen : ∀ n ∈ seen, ∀ m ∈ (sourceOf start rules).firsts n, m ∈ seen ∨ m ∈ todo) :
    (∀ n, n ∈ seen ∨ n ∈ todo → n ∈ (sourceOf start rules).begun fuel seen todo) ∧
      ∀ n ∈ (sourceOf start rules).begun fuel seen todo,
        ∀ m ∈ (sourceOf start rules).firsts n, m ∈ (sourceOf start rules).begun fuel seen todo := by
  induction fuel generalizing seen todo with
  | zero =>
    obtain rfl : todo = [] := List.length_eq_zero_iff.mp (by omega)
    simp only [List.not_mem_nil, or_false] at hseen ⊢
    exact ⟨fun n => id, hseen⟩
  | succ fuel ih =>
    cases todo with
    | nil =>
      simp only [List.not_mem_nil, or_false] at hseen ⊢
      exact ⟨fun n => id, hseen⟩
    | cons a todo =>
      rw [List.length_cons] at hfuel
      rw [begun_cons]
      by_cases ha : a ∈ seen
      · rw [if_pos (List.contains_iff_mem.mpr ha)]
        have hdrop : ∀ m, m ∈ seen ∨ m ∈ a :: todo → m ∈ seen ∨ m ∈ todo := by
          rintro m (hm | hm)
          · exact .inl hm
          · rcases List.mem_cons.mp hm with rfl | hm
            · exact .inl ha
            · exact .inr hm
        obtain ⟨hcovers, hclosed⟩ := ih seen todo (by omega)
          fun n hn m hm => hdrop m (hseen n hn m hm)
        exact ⟨fun n hn => hcovers n (hdrop n hn), hclosed⟩
      · rw [if_neg (by simpa using ha)]
        have hcount := unseen_cons start rules ha
        have hkeep : ∀ m, m ∈ seen ∨ m ∈ a :: todo →
            m ∈ a :: seen ∨ m ∈ (sourceOf start rules).firsts a ++ todo := by
          rintro m (hm | hm)
          · exact .inl (List.mem_cons_of_mem _ hm)
          · rcases List.mem_cons.mp hm with rfl | hm
            · exact .inl List.mem_cons_self
            · exact .inr (List.mem_append_right _ hm)
        obtain ⟨hcovers, hclosed⟩ := ih (a :: seen) ((sourceOf start rules).firsts a ++ todo)
          (by rw [List.length_append]; omega) fun n hn m hm => by
            rcases List.mem_cons.mp hn with rfl | hn
            · exact .inr (List.mem_append_left _ hm)
            · exact hkeep m (hseen n hn m hm)
        exact ⟨fun n hn => hcovers n (hkeep n hn), hclosed⟩

variable (start rules) in
theorem opened_covers (kernel : List Item) :
    (∀ item ∈ kernel, ∀ n, (sourceOf start rules).next? item = some (.nonterminal n) →
        n ∈ (sourceOf start rules).opened kernel) ∧
      ∀ n ∈ (sourceOf start rules).opened kernel,
        ∀ m ∈ (sourceOf start rules).firsts n, m ∈ (sourceOf start rules).opened kernel := by
  have hunseen : ((sourceOf start rules).unseen []).length ≤ (sourceOf start rules).rules.size :=
    Nat.le_trans (List.length_filter_le ..) (Nat.le_of_eq List.length_range)
  obtain ⟨hcovers, hclosed⟩ := begun_covers start rules _ []
    (kernel.filterMap fun item =>
      match (sourceOf start rules).next? item with
      | some (.nonterminal n) => some n
      | _ => none) (Nat.add_le_add_left hunseen _) (List.forall_mem_nil _)
  refine ⟨fun item hitem n hn =>
    hcovers n (.inr (List.mem_filterMap.mpr ⟨item, hitem, ?_⟩)), hclosed⟩
  rw [hn]

/-- A rule of a nonterminal that can begin what is read next is among the items. -/
theorem exists_mem_closure {kernel : List Item} {r : Rule} (hr : r ∈ rules)
    (hopened : r.lhs ∈ (sourceOf start rules).opened kernel) :
    ∃ n, (sourceOf start rules).rules[n]? = some r ∧
      (⟨n, 0⟩ : Item) ∈ (sourceOf start rules).closure kernel := by
  obtain ⟨n, hn⟩ := List.mem_iff_getElem?.mp hr
  obtain ⟨hrule, -, hbegins⟩ := source_of_rules start hn
  refine ⟨n, hrule, mem_closure.mpr ?_⟩
  by_cases hin : (⟨n, 0⟩ : Item) ∈ kernel
  · exact .inl hin
  · exact .inr ⟨hin, rfl, r.lhs, hopened, hbegins⟩

/-- A state that reads a nonterminal next can begin all of its rules. -/
theorem Reads.opens {i : Nat} {r r' : Rule} {d : Nat} (h : Reads start rules i r d)
    (hx : r.rhs[d]? = some (.nonterminal r'.lhs)) (hr' : r' ∈ rules) :
    Reads start rules i r' 0 := by
  obtain ⟨kernel, n, hkernel, hn, hitem⟩ := h
  have hnext : (sourceOf start rules).next? ⟨n, d⟩ = some (.nonterminal r'.lhs) :=
    next?_eq_some.mpr ⟨r, hn, hx⟩
  obtain ⟨hcovers, hclosed⟩ := opened_covers start rules kernel
  have hopened : r'.lhs ∈ (sourceOf start rules).opened kernel := by
    rcases mem_closure.mp hitem with hin | ⟨-, hdot, a, ha, hrule⟩
    · exact hcovers _ hin _ hnext
    · obtain rfl : d = 0 := hdot
      exact hclosed a ha _ (List.mem_filterMap.mpr ⟨n, hrule, by rw [hnext]⟩)
  obtain ⟨n', hn', hitem'⟩ := exists_mem_closure hr' hopened
  exact ⟨kernel, n', hkernel, hn', hitem'⟩

/-! ## Kernels -/

variable {g : Source} {kernel kernel' : List Item}

theorem mem_items {item : Item} {r : Rule} (hr : g.rules[item.rule]? = some r)
    (hdot : item.dot ≤ r.rhs.length) : item ∈ g.items := by
  refine List.mem_flatMap.mpr ⟨(r, item.rule), ?_, List.mem_map.mpr ⟨item.dot, ?_, rfl⟩⟩
  · rw [List.mem_zipIdx_iff_getElem?]
    simpa using hr
  · exact List.mem_range.mpr (Nat.lt_succ_of_le hdot)

/-- A kernel lists some of the items, in order and each once. -/
structure Source.Tidy (g : Source) (kernel : List Item) : Prop where
  nodup : kernel.Nodup
  sorted : kernel.Pairwise fun a b => a.le b = true
  subset : kernel ⊆ g.items

theorem Item.le_iff (a b : Item) :
    a.le b = true ↔ a.rule < b.rule ∨ a.rule = b.rule ∧ a.dot ≤ b.dot := by
  simp [Item.le]

theorem Item.le_antisymm {a b : Item} (h : a.le b = true) (h' : b.le a = true) : a = b := by
  rw [le_iff] at h h'
  obtain ⟨r, d⟩ := a
  obtain ⟨r', d'⟩ := b
  simp only [Item.mk.injEq] at h h' ⊢
  omega

/-- A kernel is known by its members. -/
theorem Source.Tidy.ext (h : g.Tidy kernel) (h' : g.Tidy kernel')
    (hmem : ∀ item, item ∈ kernel ↔ item ∈ kernel') : kernel = kernel' :=
  ((List.perm_ext_iff_of_nodup h.nodup h'.nodup).mpr hmem).eq_of_pairwise
    (fun _ _ _ _ => Item.le_antisymm) h.sorted h'.sorted

theorem nodup_begun (fuel : Nat) (seen todo : List Nonterminal) (h : seen.Nodup) :
    (g.begun fuel seen todo).Nodup := by
  induction fuel generalizing seen todo with
  | zero => exact h
  | succ fuel ih =>
    cases todo with
    | nil => exact h
    | cons n todo =>
      rw [begun_cons]
      split
      · exact ih seen todo h
      · next hn => exact ih _ _ (List.nodup_cons.mpr ⟨by simpa using hn, h⟩)

theorem nodup_closure (h : kernel.Nodup) : ((sourceOf start rules).closure kernel).Nodup := by
  have heq : (sourceOf start rules).closure kernel = kernel ++
      (((sourceOf start rules).opened kernel).flatMap fun n =>
        ((sourceOf start rules).byLhs.getD n []).map (⟨·, 0⟩)).filter
          fun item => !kernel.contains item := rfl
  rw [heq]
  refine List.nodup_append'.mpr ⟨h, ?_, fun item hitem hnew => ?_⟩
  · refine List.Nodup.filter _ (List.nodup_flatMap.mpr ⟨fun n _ => ?_, ?_⟩)
    · exact (nodup_byLhs n).map fun a b hab => congrArg Item.rule hab
    · refine (nodup_begun _ [] _ .nil).imp fun {a b} hne => ?_
      -- a rule has one left-hand side
      intro item ha hb
      obtain ⟨n, hn, rfl⟩ := List.mem_map.mp ha
      obtain ⟨m, hm, heq⟩ := List.mem_map.mp hb
      obtain rfl : m = n := congrArg Item.rule heq
      obtain ⟨r, hr, rfl⟩ := rule_of_byLhs hn
      obtain ⟨r', hr', rfl⟩ := rule_of_byLhs hm
      rw [Option.some.inj (hr.symm.trans hr')] at hne
      exact hne rfl
  · have := (List.mem_filter.mp hnew).2
    simp [hitem] at this

/-- What the groups hold is what has been collected, the last item first. -/
theorem getD_foldl_collect (items : List Item)
    (groups : Array Symbol × Std.HashMap Symbol (List Item)) (x : Symbol) :
    (items.foldl g.collect groups).2.getD x [] =
      ((items.filter fun item => g.next? item = some x).map Item.advance).reverse ++
        groups.2.getD x [] := by
  induction items generalizing groups with
  | nil => rfl
  | cons item items ih =>
    rw [List.foldl_cons, ih, List.filter_cons]
    cases hy : g.next? item with
    | none =>
      have heq : g.collect groups item = groups := by
        unfold Source.collect
        rw [hy]
      simp [heq]
    | some y =>
      rw [collect_of_next? hy, Std.HashMap.getD_insert]
      by_cases hxy : y = x
      · subst hxy
        simp
      · simp [hxy]

theorem tidy_successor {x : Symbol} {next : List Item} (h : kernel.Nodup)
    (hnext : (x, next) ∈
      (sourceOf start rules).successors ((sourceOf start rules).closure kernel)) :
    (sourceOf start rules).Tidy next := by
  have hmem := (mem_successors _ _).2 x next hnext
  rw [successors_eq] at hnext
  obtain ⟨y, -, heq⟩ := List.mem_map.mp hnext
  obtain ⟨rfl, rfl⟩ := Prod.mk.inj heq
  refine ⟨?_, ?_, fun item hitem => ?_⟩
  · rw [(List.mergeSort_perm _ _).nodup_iff, getD_foldl_collect, Std.HashMap.getD_empty,
      List.append_nil, List.nodup_reverse]
    refine ((nodup_closure h).filter _).map fun a b hab => ?_
    obtain ⟨r, d⟩ := a
    obtain ⟨r', d'⟩ := b
    simpa [Item.advance] using hab
  · refine List.pairwise_mergeSort (fun a b c hab hbc => ?_) (fun a b => ?_) _
    · rw [Item.le_iff] at hab hbc ⊢
      omega
    · rw [Bool.or_eq_true, Item.le_iff, Item.le_iff]
      omega
  · obtain ⟨before, -, hread, rfl⟩ := (hmem item).mp hitem
    obtain ⟨r, hr, hx⟩ := next?_eq_some.mp hread
    exact mem_items hr (List.getElem?_eq_some_iff.mp hx).1

/-! ## The exploration -/

namespace Exploration

variable {e : Exploration}

/-- States are numbered by their kernels. -/
structure Kempt (g : Source) (e : Exploration) : Prop where
  numbered : e.Numbered
  tidy : ∀ (i : Nat) (kernel : List Item), e.kernels[i]? = some kernel → g.Tidy kernel

theorem Kempt.step (h : e.Kempt (sourceOf start rules)) {n : Nat}
    (hkernel : e.kernels[n]? = some kernel) {e' : Exploration} {ms : List (Symbol × Nat)}
    (hnumbers : Numbers e
      ((sourceOf start rules).successors ((sourceOf start rules).closure kernel)) [] e' ms) :
    Kempt (sourceOf start rules) { e' with moves := e'.moves.push ms } := by
  refine ⟨hnumbers.numbered, fun i found hfound => ?_⟩
  rcases hnumbers.adds i found hfound with hold | ⟨x, hx⟩
  · exact h.tidy i found hold
  · exact tidy_successor (h.tidy n kernel hkernel).nodup hx

theorem Kempt.explore (h : e.Kempt (sourceOf start rules)) (fuel n : Nat) :
    ((sourceOf start rules).explore fuel n e).Kempt (sourceOf start rules) := by
  induction fuel generalizing n e with
  | zero => exact h
  | succ fuel ih =>
    unfold Source.explore
    split
    · exact h
    · next kernel hkernel =>
      exact ih (h.step hkernel (numbers_foldl _ h.numbered [])) (n + 1)

/-- A state with moves has a kernel. -/
theorem Explored.size_le {opening : List Item} {n : Nat} (h : e.Explored g opening n) :
    e.moves.size ≤ e.kernels.size := by
  cases hsize : e.moves.size with
  | zero => exact Nat.zero_le _
  | succ k =>
    obtain ⟨kernel, hkernel, -⟩ := h.moved k _ (Array.getElem?_eq_getElem (by omega))
    exact (Array.getElem?_eq_some_iff.mp hkernel).1

/-- An exploration ends with all states explored, or when its fuel is used up. -/
theorem Explored.size_explore {opening : List Item} {n : Nat} (h : e.Explored g opening n)
    (fuel : Nat) : (g.explore fuel n e).moves.size = (g.explore fuel n e).kernels.size ∨
      (g.explore fuel n e).moves.size = n + fuel := by
  induction fuel generalizing n e with
  | zero => exact .inr h.size
  | succ fuel ih =>
    unfold Source.explore
    split
    · next hnone =>
      have hle := Array.getElem?_eq_none_iff.mp hnone
      have hge := h.size_le
      rw [h.size] at hge ⊢
      exact .inl (Nat.le_antisymm hge hle)
    · next kernel hkernel =>
      have hnext := ih (h.step hkernel (numbers_foldl _ h.numbered []))
      rwa [Nat.add_right_comm, Nat.add_assoc] at hnext

/-- There are no more states than sets of items. -/
theorem Kempt.size_le (h : e.Kempt g) : e.kernels.size ≤ Nat.pow 2 g.items.length := by
  have hmem : ∀ kernel ∈ e.kernels.toList, g.Tidy kernel := fun kernel hkernel => by
    obtain ⟨i, hi⟩ := List.mem_iff_getElem?.mp hkernel
    exact h.tidy i kernel (by simpa using hi)
  have hnodup : e.kernels.toList.Nodup := by
    rw [List.nodup_iff_getElem?_ne_getElem?]
    intro i j hij hj heq
    have hlt : j < e.kernels.size := by simpa using hj
    have hi := Array.getElem?_eq_getElem hlt
    have hi' : e.kernels[i]? = some e.kernels[j] := by simpa [hi] using heq
    have hsame := ((h.numbered _ i).mpr hi').symm.trans ((h.numbered _ j).mpr hi)
    exact absurd (Option.some.inj hsame) (Nat.ne_of_lt hij)
  have hsets : (e.kernels.toList.map List.toFinset).Nodup := by
    refine List.Nodup.map_on (fun k hk k' hk' heq => ?_) hnodup
    exact (hmem k hk).ext (hmem k' hk') fun item => by
      rw [← List.mem_toFinset, heq, List.mem_toFinset]
  calc e.kernels.size = (e.kernels.toList.map List.toFinset).toFinset.card := by
        rw [List.toFinset_card_of_nodup hsets, List.length_map, Array.length_toList]
    _ ≤ g.items.toFinset.powerset.card := by
        refine Finset.card_le_card fun s hs => ?_
        obtain ⟨kernel, hkernel, rfl⟩ := List.mem_map.mp (List.mem_toFinset.mp hs)
        rw [Finset.mem_powerset]
        intro item hitem
        exact List.mem_toFinset.mpr ((hmem kernel hkernel).subset (List.mem_toFinset.mp hitem))
    _ = 2 ^ g.items.toFinset.card := Finset.card_powerset _
    _ ≤ Nat.pow 2 g.items.length := Nat.pow_le_pow_right (by decide) (List.toFinset_card_le _)

end Exploration

variable (start rules) in
theorem size_statesOf :
    (statesOf start rules).moves.size = (statesOf start rules).kernels.size := by
  have hopening := openingStates_explored start rules
  have hkempt : (openingStates rules).Kempt (sourceOf start rules) := by
    refine ⟨hopening.numbered, fun i kernel hkernel => ?_⟩
    change #[openingItems rules][i]? = some kernel at hkernel
    obtain rfl := List.mem_singleton.mp (List.mem_of_getElem? (List.getElem?_toArray ▸ hkernel))
    refine ⟨List.nodup_singleton _, List.pairwise_singleton _ _, ?_⟩
    intro item hitem
    obtain rfl := List.mem_singleton.mp hitem
    refine mem_items (r := openingRule start) ?_ (Nat.zero_le _)
    show (rules.toArray.push (openingRule start))[rules.length]? = _
    simp
  obtain ⟨n, hexplored⟩ := statesOf_explored start rules
  have hbound := (hkempt.explore (Nat.pow 2 (sourceOf start rules).items.length) 0).size_le
  have hsize := hopening.size_explore (Nat.pow 2 (sourceOf start rules).items.length)
  have hle := hexplored.size_le
  rw [← statesOf_eq] at hbound hsize
  omega

/-- Every state that is found is explored. -/
theorem isExplored {i : Nat} (h : (statesOf start rules).kernels[i]? = some kernel) :
    IsExplored start rules i := by
  unfold IsExplored
  rw [size_statesOf]
  exact (Array.getElem?_eq_some_iff.mp h).1

theorem Reads.isExplored {i : Nat} {r : Rule} {d : Nat} (h : Reads start rules i r d) :
    IsExplored start rules i := by
  obtain ⟨kernel, -, hkernel, -⟩ := h
  exact Automaton.isExplored hkernel

/-- A state moves over every symbol that it can read next. -/
theorem Reads.goesOn {i : Nat} {r : Rule} {d : Nat} {x : Symbol} (h : Reads start rules i r d)
    (hx : r.rhs[d]? = some x) : ∃ j, MovesOver start rules i x j :=
  h.exists_move hx h.isExplored

end Automaton
end Wdl
