import Mathlib.Data.Nat.Bitwise
import Wdl.Grammar.Rules
import Wdl.Proofs.Grammar.Lookahead

/-!
States by their items, and what may follow a nonterminal in them.

A state is the set of items that lead into it.  `Shows i items` says that state `i` is the one with
the items of a list; from them alone the items after one more symbol can be computed, `after`, and
so it is known where the state moves to, `Shows.move`, over what it does not move, `Shows.stays`,
and which rules have been read in it, `Shows.complete`.

A table says what can begin the nonterminals of a grammar, which of them may be empty and what may
follow them.  If it is kept to by every rule, then it bounds what follows any nonterminal in any
state, `Succession.bounds`.  For the language it is enough to know where the runs of text in
commands and strings may stand, `follows_mayFollow`.

Sets of nonterminals are numbers with a bit for each of them, as sets of lookaheads are.
-/

namespace Wdl
namespace Automaton

/-! ## Sets of nonterminals -/

/-- The set of one nonterminal. -/
def mark (n : Nonterminal) : Nat := Nat.pow 2 n.ctorIdx

/-- Whether a nonterminal is not in a set. -/
def lacks (s : Nat) (n : Nonterminal) : Bool := Nat.beq (Nat.land s (mark n)) 0

/-- Whether a nonterminal is in a set. -/
def Has (s : Nat) (n : Nonterminal) : Prop := s.testBit n.ctorIdx = true

instance (s : Nat) (n : Nonterminal) : Decidable (Has s n) :=
  inferInstanceAs (Decidable (s.testBit n.ctorIdx = true))

theorem lacks_iff {s : Nat} {n : Nonterminal} : lacks s n = true ↔ ¬ Has s n := by
  have hand : Nat.land s (mark n) = (s.testBit n.ctorIdx).toNat * 2 ^ n.ctorIdx :=
    Nat.and_two_pow s n.ctorIdx
  unfold lacks Has
  rw [Nat.beq_eq, hand]
  cases s.testBit n.ctorIdx with
  | false => simp
  | true => simp

theorem has_mark {n m : Nonterminal} : Has (mark n) m ↔ n = m := by
  unfold Has mark
  rw [Nat.pow_eq, Nat.testBit_two_pow, decide_eq_true_iff]
  refine ⟨fun h => ?_, congrArg _⟩
  rw [← Nonterminal.ofNat_ctorIdx n, h, Nonterminal.ofNat_ctorIdx]

theorem has_lor {s t : Nat} {n : Nonterminal} : Has (Nat.lor s t) n ↔ Has s n ∨ Has t n := by
  unfold Has
  rw [show Nat.lor s t = s ||| t from rfl, Nat.testBit_or, Bool.or_eq_true]

theorem not_has_zero {n : Nonterminal} : ¬ Has 0 n := by
  unfold Has
  rw [Nat.zero_testBit]
  exact Bool.false_ne_true

/-! ## What can begin -/

/-- A rule of which the first `dot` symbols have been read. -/
structure Dotted where
  rule : Rule
  dot : Nat
  deriving DecidableEq, Repr

namespace Dotted

/-- The symbol after the dot. -/
def next? (d : Dotted) : Option Symbol := d.rule.rhs[d.dot]?

def advance (d : Dotted) : Dotted := ⟨d.rule, d.dot + 1⟩

end Dotted

/-- The nonterminals that can begin what some items read next. -/
inductive Opens (rules : List Rule) (items : List Dotted) : Nonterminal → Prop
  | next {d : Dotted} {n : Nonterminal} : d ∈ items → d.next? = some (.nonterminal n) →
      Opens rules items n
  | first {r : Rule} {n : Nonterminal} : r ∈ rules → Opens rules items r.lhs →
      r.rhs[0]? = some (.nonterminal n) → Opens rules items n

/-- The nonterminals that begin rules, each with the nonterminal of the rule before it. -/
def corners (rules : List Rule) : List (Nonterminal × Nonterminal) :=
  rules.filterMap fun r =>
    match r.rhs with
    | .nonterminal n :: _ => bif Nat.beq r.lhs.ctorIdx n.ctorIdx then none else some (r.lhs, n)
    | _ => none

/-- Adds to a set what begins the rules of its nonterminals. -/
def widen : List (Nonterminal × Nonterminal) → Nat → Nat
  | [], s => s
  | c :: cs, s => bif lacks s c.1 then widen cs s else widen cs (Nat.lor s (mark c.2))

/-- Widens a set until it stays as it is. -/
def widest (cs : List (Nonterminal × Nonterminal)) : Nat → Nat → Option Nat
  | 0, _ => none
  | fuel + 1, s => bif Nat.beq (widen cs s) s then some s else widest cs fuel (widen cs s)

/-- The nonterminals that some items read next. -/
def nexts : List Dotted → Nat
  | [] => 0
  | d :: ds =>
    match d.next? with
    | some (.nonterminal n) => Nat.lor (mark n) (nexts ds)
    | _ => nexts ds

/-- The set of nonterminals that can begin what is read next, unless it is not found in a few
passes. -/
def opened (rules : List Rule) (items : List Dotted) : Option Nat :=
  bif Nat.beq (nexts items) 0 then some 0 else widest (corners rules) 32 (nexts items)

section Opening

variable {rules : List Rule} {items : List Dotted} {n m : Nonterminal} {s : Nat}
  {cs : List (Nonterminal × Nonterminal)}

theorem corner_cases {r : Rule} (hr : r ∈ rules) (hx : r.rhs[0]? = some (.nonterminal n)) :
    r.lhs = n ∨ (r.lhs, n) ∈ corners rules := by
  by_cases heq : r.lhs = n
  · exact .inl heq
  refine .inr (List.mem_filterMap.mpr ⟨r, hr, ?_⟩)
  have hne : Nat.beq r.lhs.ctorIdx n.ctorIdx = false := by
    rw [← Bool.not_eq_true, Nat.beq_eq]
    intro h
    exact heq (by rw [← Nonterminal.ofNat_ctorIdx r.lhs, h, Nonterminal.ofNat_ctorIdx])
  cases hrhs : r.rhs with
  | nil =>
    rw [hrhs] at hx
    exact nomatch hx
  | cons x xs =>
    rw [hrhs] at hx
    obtain rfl : x = .nonterminal n := Option.some.inj hx
    dsimp only
    rw [hne]
    rfl

theorem rule_of_corner (h : (m, n) ∈ corners rules) :
    ∃ r ∈ rules, r.lhs = m ∧ r.rhs[0]? = some (.nonterminal n) := by
  obtain ⟨r, hr, heq⟩ := List.mem_filterMap.mp h
  refine ⟨r, hr, ?_⟩
  split at heq
  · next n' xs hrhs =>
    cases hb : Nat.beq r.lhs.ctorIdx n'.ctorIdx with
    | true =>
      rw [hb] at heq
      exact nomatch heq
    | false =>
      rw [hb] at heq
      obtain ⟨rfl, rfl⟩ := Prod.mk.inj (Option.some.inj heq)
      rw [hrhs]
      exact ⟨rfl, rfl⟩
  · exact nomatch heq

theorem widen_cons (c : Nonterminal × Nonterminal) :
    widen (c :: cs) s = if Has s c.1 then widen cs (Nat.lor s (mark c.2)) else widen cs s := by
  rw [widen]
  by_cases h : Has s c.1
  · rw [if_pos h, Bool.eq_false_iff.mpr fun hl => lacks_iff.mp hl h, cond_false]
  · rw [if_neg h, lacks_iff.mpr h, cond_true]

theorem widen_keeps (h : Has s n) : Has (widen cs s) n := by
  induction cs generalizing s with
  | nil => exact h
  | cons c cs ih =>
    rw [widen_cons]
    split
    · exact ih (has_lor.mpr (.inl h))
    · exact ih h

theorem widen_adds {c : Nonterminal × Nonterminal} (hc : c ∈ cs) (h : Has s c.1) :
    Has (widen cs s) c.2 := by
  induction cs generalizing s with
  | nil => exact absurd hc List.not_mem_nil
  | cons c' cs ih =>
    rw [widen_cons]
    rcases List.mem_cons.mp hc with rfl | hc
    · rw [if_pos h]
      exact widen_keeps (has_lor.mpr (.inr (has_mark.mpr rfl)))
    · split
      · exact ih hc (has_lor.mpr (.inl h))
      · exact ih hc h

/-- What holds of a set and goes over to what begins the rules of a nonterminal holds after it is
widened. -/
theorem widen_within {P : Nonterminal → Prop} (hcs : ∀ c ∈ cs, P c.1 → P c.2)
    (hs : ∀ n, Has s n → P n) : ∀ n, Has (widen cs s) n → P n := by
  induction cs generalizing s with
  | nil => exact hs
  | cons c cs ih =>
    obtain ⟨hc, hcs⟩ := List.forall_mem_cons.mp hcs
    rw [widen_cons]
    split
    · next hhas =>
      refine ih hcs fun n hn => ?_
      rcases has_lor.mp hn with hn | hn
      · exact hs n hn
      · exact has_mark.mp hn ▸ hc (hs _ hhas)
    · exact ih hcs hs

/-- The widest set holds what it began with, is closed, and holds nothing else. -/
theorem widest_spec {P : Nonterminal → Prop} (hcs : ∀ c ∈ cs, P c.1 → P c.2) {fuel t : Nat}
    (h : widest cs fuel s = some t) (hs : ∀ n, Has s n → P n) :
    (∀ n, Has s n → Has t n) ∧ (∀ c ∈ cs, Has t c.1 → Has t c.2) ∧ ∀ n, Has t n → P n := by
  induction fuel generalizing s with
  | zero => exact nomatch h
  | succ fuel ih =>
    rw [widest] at h
    cases hb : Nat.beq (widen cs s) s with
    | true =>
      rw [hb, cond_true] at h
      obtain rfl := Option.some.inj h
      rw [Nat.beq_eq] at hb
      exact ⟨fun n => id, fun c hc hhas => hb ▸ widen_adds hc hhas, hs⟩
    | false =>
      rw [hb, cond_false] at h
      obtain ⟨hkeeps, hclosed, hwithin⟩ := ih h (widen_within hcs hs)
      exact ⟨fun n hn => hkeeps n (widen_keeps hn), hclosed, hwithin⟩

theorem has_nexts : Has (nexts items) n ↔ ∃ d ∈ items, d.next? = some (.nonterminal n) := by
  induction items with
  | nil => simp [nexts, not_has_zero]
  | cons d ds ih =>
    rw [List.exists_mem_cons_iff, ← ih, nexts]
    split
    · next m hm =>
      rw [has_lor, has_mark, hm]
      simp
    · next hm =>
      exact ⟨.inr, fun h => h.resolve_left fun hn => hm n hn⟩

theorem has_opened (h : opened rules items = some s) : Has s n ↔ Opens rules items n := by
  have hnone : Nat.beq (nexts items) 0 = true → ∀ n, ¬ Opens rules items n := by
    intro hb n hn
    rw [Nat.beq_eq] at hb
    induction hn with
    | next hd hnext =>
      have := has_nexts.mpr ⟨_, hd, hnext⟩
      rw [hb] at this
      exact not_has_zero this
    | first _ _ _ ih => exact ih
  unfold opened at h
  cases hb : Nat.beq (nexts items) 0 with
  | true =>
    rw [hb, cond_true] at h
    obtain rfl := Option.some.inj h
    exact iff_of_false not_has_zero (hnone hb n)
  | false =>
    rw [hb, cond_false] at h
    obtain ⟨hkeeps, hclosed, hwithin⟩ := widest_spec (P := Opens rules items)
      (fun c hc hopens => by
        obtain ⟨r, hr, hlhs, hx⟩ := rule_of_corner (m := c.1) (n := c.2) hc
        exact .first hr (hlhs ▸ hopens) hx) h fun n hn => by
        obtain ⟨d, hd, hnext⟩ := has_nexts.mp hn
        exact .next hd hnext
    refine ⟨hwithin n, fun hopens => ?_⟩
    induction hopens with
    | next hd hnext => exact hkeeps _ (has_nexts.mpr ⟨_, hd, hnext⟩)
    | first hr _ hx ih =>
      rcases corner_cases hr hx with rfl | hc
      · exact ih
      · exact hclosed _ hc ih

end Opening

/-! ## The items after a symbol -/

/-- The rules that begin with a symbol and can begin what is read next, after it. -/
def begunBy (rules : List Rule) (x : Symbol) (s : Nat) : List Dotted :=
  bif Nat.beq s 0 then []
  else
    (rules.filter fun r => r.rhs.head? == some x).filterMap fun r =>
      bif lacks s r.lhs then none else some ⟨r, 1⟩

/-- The items after one more symbol. -/
def after (rules : List Rule) (x : Symbol) (items : List Dotted) : Option (List Dotted) :=
  (opened rules items).map fun s =>
    (items.filter fun d => d.next? == some x).map Dotted.advance ++ begunBy rules x s

theorem mem_begunBy {rules : List Rule} {x : Symbol} {s : Nat} {d : Dotted} :
    d ∈ begunBy rules x s ↔
      d.rule ∈ rules ∧ d.rule.rhs[0]? = some x ∧ Has s d.rule.lhs ∧ d.dot = 1 := by
  unfold begunBy
  cases hb : Nat.beq s 0 with
  | true =>
    rw [Nat.beq_eq] at hb
    rw [cond_true, hb]
    exact iff_of_false List.not_mem_nil fun h => not_has_zero h.2.2.1
  | false =>
    rw [cond_false, List.mem_filterMap]
    constructor
    · rintro ⟨r, hr, heq⟩
      obtain ⟨hr, hx⟩ := List.mem_filter.mp hr
      cases hl : lacks s r.lhs with
      | true =>
        rw [hl] at heq
        exact nomatch heq
      | false =>
        rw [hl] at heq
        obtain rfl := Option.some.inj heq
        rw [beq_iff_eq, List.head?_eq_getElem?] at hx
        refine ⟨hr, hx, ?_, rfl⟩
        by_contra hnot
        rw [lacks_iff.mpr hnot] at hl
        exact nomatch hl
    · rintro ⟨hr, hx, hhas, hdot⟩
      obtain ⟨r, dot⟩ := d
      obtain rfl : dot = 1 := hdot
      refine ⟨r, List.mem_filter.mpr ⟨hr, ?_⟩, ?_⟩
      · rw [beq_iff_eq, List.head?_eq_getElem?]
        exact hx
      · rw [Bool.eq_false_iff.mpr fun hl => lacks_iff.mp hl hhas]
        rfl

variable (start : Nonterminal) (rules : List Rule)

/-- The items of a list are those that lead into a state. -/
def Shows (i : Nat) (items : List Dotted) : Prop :=
  ∃ kernel, (statesOf start rules).kernels[i]? = some kernel ∧ ∀ d : Dotted,
    d ∈ items ↔ ∃ n, (sourceOf start rules).rules[n]? = some d.rule ∧
      (⟨n, d.dot⟩ : Item) ∈ kernel

/-- The first state is about to read the start symbol. -/
theorem shows_zero : Shows start rules 0 [⟨openingRule start, 0⟩] := by
  obtain ⟨n, hexplored⟩ := statesOf_explored start rules
  refine ⟨_, hexplored.first, fun d => ?_⟩
  have hopening : (sourceOf start rules).rules[rules.length]? = some (openingRule start) := by
    show (rules.toArray.push (openingRule start))[rules.length]? = _
    simp
  rw [List.mem_singleton]
  constructor
  · rintro rfl
    exact ⟨rules.length, hopening, List.mem_singleton.mpr rfl⟩
  · rintro ⟨n, hn, hitem⟩
    obtain ⟨rfl, hdot⟩ := Item.mk.inj (List.mem_singleton.mp hitem)
    obtain ⟨r, dot⟩ := d
    obtain rfl := Option.some.inj (hopening.symm.trans hn)
    obtain rfl : dot = 0 := hdot
    rfl

section States

variable {start rules}
variable {i j : Nat} {items items' : List Dotted} {x : Symbol} {r : Rule} {d : Nat}

/-- What a state can read is told by its items. -/
theorem Shows.reads (h : Shows start rules i items) : Reads start rules i r d ↔
    ⟨r, d⟩ ∈ items ∨ d = 0 ∧ r ∈ rules ∧ Opens rules items r.lhs := by
  obtain ⟨kernel, hkernel, hitems⟩ := h
  constructor
  · rintro ⟨kernel', n, hkernel', hn, hitem⟩
    obtain rfl := Option.some.inj (hkernel.symm.trans hkernel')
    rcases mem_closure.mp hitem with hin | ⟨-, hdot, a, ha, hrule⟩
    · exact .inl ((hitems ⟨r, d⟩).mpr ⟨n, hn, hin⟩)
    · obtain ⟨r', hr', rfl⟩ := mem_byLhs.mp hrule
      obtain ⟨hn', -, -⟩ := source_of_rules start hr'
      obtain rfl := Option.some.inj (hn.symm.trans hn')
      refine .inr ⟨hdot, List.mem_of_getElem? hr', ?_⟩
      refine opened_induction (P := Opens rules items) (fun item hin m hm => ?_)
        (fun m hm k hk m' hm' => ?_) _ ha
      · obtain ⟨r', hr', hx⟩ := next?_eq_some.mp hm
        exact .next ((hitems ⟨r', item.dot⟩).mpr ⟨item.rule, hr', hin⟩) hx
      · obtain ⟨r', hr', rfl⟩ := mem_byLhs.mp hk
        obtain ⟨r'', hr'', hx⟩ := next?_eq_some.mp hm'
        obtain ⟨hk', -, -⟩ := source_of_rules start hr'
        obtain rfl := Option.some.inj (hk'.symm.trans hr'')
        exact .first (List.mem_of_getElem? hr') hm hx
  · have hopened : ∀ n, Opens rules items n → n ∈ (sourceOf start rules).opened kernel := by
      intro n hn
      obtain ⟨hcovers, hclosed⟩ := opened_covers start rules kernel
      induction hn with
      | next hd hnext =>
        obtain ⟨n, hn, hin⟩ := (hitems _).mp hd
        exact hcovers _ hin _ (next?_eq_some.mpr ⟨_, hn, hnext⟩)
      | @first r n hr _ hx ih =>
        obtain ⟨m, hm⟩ := List.mem_iff_getElem?.mp hr
        obtain ⟨hrule, -, hbegins⟩ := source_of_rules start hm
        refine hclosed _ ih _ (List.mem_filterMap.mpr ⟨m, hbegins, ?_⟩)
        rw [next?_eq_some.mpr ⟨r, hrule, hx⟩]
    rintro (hin | ⟨rfl, hr, hopens⟩)
    · obtain ⟨n, hn, hitem⟩ := (hitems _).mp hin
      exact ⟨kernel, n, hkernel, hn, mem_closure.mpr (.inl hitem)⟩
    · obtain ⟨n, hn, hitem⟩ := exists_mem_closure hr (hopened _ hopens)
      exact ⟨kernel, n, hkernel, hn, hitem⟩

/-- The items after a symbol are those that have read it. -/
theorem Shows.mem_after (h : Shows start rules i items) (hafter : after rules x items = some items')
    (d : Dotted) : d ∈ items' ↔
      ∃ b, d.dot = b + 1 ∧ Reads start rules i d.rule b ∧ d.rule.rhs[b]? = some x := by
  obtain ⟨s, hs, rfl⟩ := Option.map_eq_some_iff.mp hafter
  obtain ⟨r, dot⟩ := d
  rw [List.mem_append, mem_begunBy, has_opened hs]
  constructor
  · rintro (hin | ⟨hr, hx, hopens, hdot⟩)
    · obtain ⟨d, hd, heq⟩ := List.mem_map.mp hin
      obtain ⟨hd, hx⟩ := List.mem_filter.mp hd
      obtain ⟨rfl, rfl⟩ := Dotted.mk.inj heq
      exact ⟨d.dot, rfl, h.reads.mpr (.inl hd), beq_iff_eq.mp hx⟩
    · exact ⟨0, hdot, h.reads.mpr (.inr ⟨rfl, hr, hopens⟩), hx⟩
  · rintro ⟨b, rfl, hreads, hx⟩
    rcases h.reads.mp hreads with hin | ⟨rfl, hr, hopens⟩
    · exact .inl (List.mem_map.mpr ⟨⟨r, b⟩, List.mem_filter.mpr ⟨hin, beq_iff_eq.mpr hx⟩, rfl⟩)
    · exact .inr ⟨hr, hx, hopens, rfl⟩

/-- Where a state moves to. -/
theorem Shows.move (h : Shows start rules i items) (hafter : after rules x items = some items')
    (hmove : MovesOver start rules i x j) : Shows start rules j items' := by
  obtain ⟨kernel, next, hkernel, hnext, hj⟩ := hmove.successor
  refine ⟨next, hj, fun d => ?_⟩
  rw [h.mem_after hafter]
  constructor
  · rintro ⟨b, hdot, ⟨kernel', n, hkernel', hn, hitem⟩, hx⟩
    obtain rfl := Option.some.inj (hkernel.symm.trans hkernel')
    refine ⟨n, hn, ((mem_successors _ _).2 x next hnext _).mpr
      ⟨⟨n, b⟩, hitem, next?_eq_some.mpr ⟨d.rule, hn, hx⟩, ?_⟩⟩
    rw [hdot]
    rfl
  · rintro ⟨n, hn, hin⟩
    obtain ⟨⟨n', b⟩, hitem, hread, heq⟩ := ((mem_successors _ _).2 x _ hnext _).mp hin
    obtain ⟨rfl, hdot⟩ := Item.mk.inj heq
    obtain ⟨r, hr, hx⟩ := next?_eq_some.mp hread
    obtain rfl := Option.some.inj (hn.symm.trans hr)
    exact ⟨b, hdot, ⟨kernel, n, hkernel, hn, hitem⟩, hx⟩

/-- A state moves over a symbol that some of its items read. -/
theorem Shows.exists_move (h : Shows start rules i items)
    (hafter : after rules x items = some items') (hne : items' ≠ []) :
    ∃ j, MovesOver start rules i x j := by
  obtain ⟨d, hd⟩ := List.exists_mem_of_ne_nil _ hne
  obtain ⟨b, -, hreads, hx⟩ := (h.mem_after hafter d).mp hd
  exact hreads.goesOn hx

/-- A state does not move over a symbol that none of its items reads. -/
theorem Shows.stays (h : Shows start rules i items) (hafter : after rules x items = some []) :
    ¬ MovesOver start rules i x j := by
  intro hmove
  obtain ⟨r, d, hreads, hx⟩ := hmove.exists_reads
  exact List.not_mem_nil ((h.mem_after hafter ⟨r, d + 1⟩).mpr ⟨d, rfl, hreads, hx⟩)

/-- A walk along the rest of a rule reads it. -/
theorem Reads.walk {p q : Nat} {xs : List Symbol} (h : Reads start rules p r d)
    (hxs : r.rhs.drop d = xs) (hd : d ≤ r.rhs.length)
    (hwalk : walk (statesOf start rules).moves p xs = some q) :
    Reads start rules q r r.rhs.length := by
  induction xs generalizing p d with
  | nil =>
    obtain rfl : d = r.rhs.length := Nat.le_antisymm hd (List.drop_eq_nil_iff.mp hxs)
    exact Option.some.inj hwalk ▸ h
  | cons x xs ih =>
    have hx : r.rhs[d]? = some x := by
      rw [← List.head?_drop, hxs]
      rfl
    rw [Automaton.walk] at hwalk
    split at hwalk
    · next s hs =>
      refine ih (h.move hx hs) ?_ (List.getElem?_eq_some_iff.mp hx).1 hwalk
      rw [← List.tail_drop, hxs]
      rfl
    · cases hwalk

/-- A rule that has been read is told by the items of the state. -/
theorem Shows.complete {p q : Nat} {l : Lookahead} (h : Shows start rules q items) (hr : r ∈ rules)
    (hwalk : Automaton.walk (statesOf start rules).moves p r.rhs = some q)
    (hfollows : Follows start rules p r.lhs l) :
    ⟨r, r.rhs.length⟩ ∈ items ∨ r.rhs = [] ∧ Opens rules items r.lhs := by
  obtain ⟨j, hj⟩ := hfollows.movesOver
  obtain ⟨r', d, hreads, hx⟩ := hj.exists_reads
  have hbegun := hreads.opens hx hr
  rcases h.reads.mp (hbegun.walk rfl (Nat.zero_le _) hwalk) with hin | ⟨hlength, -, hopens⟩
  · exact .inl hin
  · exact .inr ⟨List.length_eq_zero_iff.mp hlength, hopens⟩

end States

end Automaton

/-! ## What may follow -/

namespace Automaton

/-- What can begin nonterminals, which of them may be empty, and what may follow them. -/
structure Succession where
  begins : Nonterminal → Terminal → Bool
  empties : List Nonterminal
  follows : Nonterminal → Lookahead → Bool

namespace Succession

variable (t : Succession)

/-- Whether a lookahead may come first in a symbol. -/
def leads (x : Symbol) (l : Lookahead) : Bool :=
  match x, l with
  | .terminal u, l => l == .terminal u
  | .nonterminal n, .terminal u => t.begins n u
  | .nonterminal _, .endOfInput => false

/-- Whether what one nonterminal may be followed by may follow another. -/
def passes (a b : Nonterminal) : Bool :=
  lookaheads.all fun l => !t.follows a l || t.follows b l

/-- Whether what comes after a nonterminal in a rule may follow it. -/
def precedes (a : Nonterminal) (x : Symbol) : Bool :=
  lookaheads.all (fun l => !t.leads x l || t.follows a l) &&
    match x with
    | .terminal _ => true
    | .nonterminal _ => t.empties.all fun b => t.passes b a

/-- Whether the rest of a rule of `n` keeps to the table: what comes next may follow each of its
nonterminals, and what follows the rule may follow those with nothing after them. -/
def keepsRest (n : Nonterminal) : List Symbol → Bool
  | [] => true
  | .terminal _ :: xs => keepsRest n xs
  | .nonterminal a :: xs =>
    xs.head?.all (t.precedes a) && (!emptyable t.empties xs || t.passes n a) && keepsRest n xs

/-- Whether a rule keeps to the table. -/
def keeps (r : Rule) : Bool :=
  (!emptyable t.empties r.rhs || t.empties.contains r.lhs) &&
    r.rhs.head?.all (fun x =>
      Terminal.all.all fun u => !t.leads x (.terminal u) || t.begins r.lhs u)
    && t.keepsRest r.lhs r.rhs

variable {t}

theorem leads_terminal {u : Terminal} {l : Lookahead} :
    t.leads (.terminal u) l = true ↔ l = .terminal u := by
  unfold leads
  exact beq_iff_eq

theorem passes_iff {a b : Nonterminal} :
    t.passes a b = true ↔ ∀ l, t.follows a l = true → t.follows b l = true := by
  unfold passes
  rw [List.all_eq_true]
  refine ⟨fun h l hl => ?_, fun h l _ => ?_⟩
  · simpa [hl] using h l (mem_lookaheads l)
  · cases hl : t.follows a l with
    | false => rfl
    | true => rw [h l hl]; rfl

theorem precedes_leads {a : Nonterminal} {x : Symbol} (h : t.precedes a x = true) {l : Lookahead}
    (hl : t.leads x l = true) : t.follows a l = true := by
  have hall := List.all_eq_true.mp (Bool.and_eq_true_iff.mp h).1 l (mem_lookaheads l)
  simpa [hl] using hall

theorem precedes_passes {a b n : Nonterminal} (h : t.precedes a (.nonterminal n) = true)
    (hb : b ∈ t.empties) {l : Lookahead} (hl : t.follows b l = true) : t.follows a l = true :=
  passes_iff.mp (List.all_eq_true.mp (Bool.and_eq_true_iff.mp h).2 b hb) l hl

theorem keepsRest_spec {n a : Nonterminal} {xs front rest : List Symbol}
    (h : t.keepsRest n xs = true) (hxs : xs = front ++ .nonterminal a :: rest) :
    (∀ x, rest.head? = some x → t.precedes a x = true) ∧
      (emptyable t.empties rest = true → t.passes n a = true) := by
  induction front generalizing xs with
  | nil =>
    subst hxs
    simp only [List.nil_append, keepsRest, Bool.and_eq_true, Bool.or_eq_true,
      Bool.not_eq_true'] at h
    refine ⟨fun x hx => ?_, fun hempty => h.1.2.resolve_left (by simp [hempty])⟩
    have hhead := h.1.1
    rwa [hx, Option.all_some] at hhead
  | cons y front ih =>
    subst hxs
    refine ih ?_ rfl
    cases y with
    | terminal u => exact h
    | nonterminal b => exact (Bool.and_eq_true_iff.mp h).2

section Rules

variable {start : Nonterminal} {rules : List Rule} {r : Rule} {a b : Nonterminal} {l : Lookahead}
  {d i : Nat} {x : Symbol}

theorem keeps_spec (hkeeps : rules.all t.keeps = true) (hr : r ∈ rules) :
    (emptyable t.empties r.rhs = true → r.lhs ∈ t.empties) ∧
      (∀ x, r.rhs[0]? = some x → ∀ u, t.leads x (.terminal u) = true → t.begins r.lhs u = true) ∧
      t.keepsRest r.lhs r.rhs = true := by
  have h := List.all_eq_true.mp hkeeps r hr
  unfold keeps at h
  rw [Bool.and_eq_true, Bool.and_eq_true] at h
  obtain ⟨⟨hempty, hbegins⟩, hrest⟩ := h
  refine ⟨fun hall => ?_, fun x hx u hu => ?_, hrest⟩
  · simpa [hall] using hempty
  · rw [List.head?_eq_getElem?, hx, Option.all_some, List.all_eq_true] at hbegins
    simpa [hu] using hbegins u (mem_terminals_all u)

/-- What may be empty is listed as such. -/
theorem mem_empties (hkeeps : rules.all t.keeps = true) (hb : b ∈ emptied start rules) :
    b ∈ t.empties := by
  refine nullable_induction (P := (· ∈ t.empties)) (fun r hr hall => ?_) _ []
    (List.forall_mem_nil _) b hb
  rcases Array.mem_push.mp hr with hr | rfl
  · refine (keeps_spec hkeeps (List.mem_toArray.mp hr)).1 (List.all_eq_true.mpr fun x hx => ?_)
    obtain ⟨n, rfl, hn⟩ := hall x hx
    exact List.contains_iff_mem.mpr hn
  · obtain ⟨n, hn, hmem⟩ := hall (.nonterminal start) List.mem_cons_self
    exact (Symbol.nonterminal.inj hn).symm ▸ hmem

theorem precedes_of_reads (hkeeps : rules.all t.keeps = true) (h : Reads start rules i r d)
    (ha : r.rhs[d]? = some (.nonterminal a)) (hx : r.rhs[d + 1]? = some x) :
    t.precedes a x = true := by
  obtain ⟨-, n, -, hn, -⟩ := h
  rcases rules_sourceOf hn with hold | ⟨-, rfl⟩
  · have hsplit : r.rhs = r.rhs.take d ++ .nonterminal a :: r.rhs.drop (d + 1) := by
      obtain ⟨hd, heq⟩ := List.getElem?_eq_some_iff.mp ha
      rw [← heq, ← List.drop_eq_getElem_cons hd, List.take_append_drop]
    refine (keepsRest_spec (keeps_spec hkeeps (List.mem_of_getElem? hold)).2.2 hsplit).1 x ?_
    rw [List.head?_drop]
    exact hx
  · exact nomatch hx

/-- What is read after a nonterminal may follow it. -/
theorem follows_of_readAfter (hkeeps : rules.all t.keeps = true)
    (hstart : t.follows start .endOfInput = true) (h : ReadAfter start rules i a l) :
    t.follows a l = true := by
  induction h with
  | endOfInput _ => exact hstart
  | @shift i j k a u hmove hshift =>
    obtain ⟨r, d, hreads, hx⟩ := hshift.exists_reads
    cases d with
    | succ d =>
      obtain ⟨hbefore, ha⟩ := hreads.of_move hmove
      exact precedes_leads (precedes_of_reads hkeeps hbefore ha hx) (leads_terminal.mpr rfl)
    | zero =>
      -- a nonterminal that comes after `a` begins with what is shifted
      have hbegun := hreads.begun
        (P := fun n => t.begins n u = true → t.follows a (.terminal u) = true) hmove
        (fun r' d n hr' hn hu => ?_) fun r' hr' hlhs m hm hu =>
          hlhs ((keeps_spec hkeeps hr').2.1 _ hm u hu)
      · obtain ⟨-, n, -, hn, -⟩ := hreads
        rcases rules_sourceOf hn with hold | ⟨-, rfl⟩
        · exact hbegun ((keeps_spec hkeeps (List.mem_of_getElem? hold)).2.1 _ hx u
            (leads_terminal.mpr rfl))
        · exact nomatch Option.some.inj hx
      · obtain ⟨hbefore, ha⟩ := hr'.of_move hmove
        exact precedes_leads (precedes_of_reads hkeeps hbefore ha hn) hu
  | @skip i j k a b l hmove hskip hb _ ih =>
    have hempty := mem_empties hkeeps hb
    obtain ⟨r, d, hreads, hx⟩ := hskip.exists_reads
    have hnext : ∀ r' d n, Reads start rules j r' (d + 1) →
        r'.rhs[d + 1]? = some (.nonterminal n) → t.follows a l = true := fun r' d n hr' hn => by
      obtain ⟨hbefore, ha⟩ := hr'.of_move hmove
      exact precedes_passes (precedes_of_reads hkeeps hbefore ha hn) hempty ih
    cases d with
    | succ d => exact hnext r d b hreads hx
    | zero =>
      exact hreads.begun (P := fun _ => t.follows a l = true) hmove hnext fun _ _ h _ _ => h

/-- What follows a nonterminal in any state is what the table says may follow it. -/
theorem bounds (hkeeps : rules.all t.keeps = true) (hstart : t.follows start .endOfInput = true)
    (h : Follows start rules i a l) : t.follows a l = true := by
  induction h with
  | read hread => exact follows_of_readAfter hkeeps hstart hread
  | last hr hrhs hempty _ _ _ _ ih =>
    obtain ⟨-, hlast⟩ := keepsRest_spec (keeps_spec hkeeps hr).2.2 hrhs
    refine passes_iff.mp (hlast (List.all_eq_true.mpr fun x hx => ?_)) _ ih
    have hx' := List.all_eq_true.mp hempty x hx
    cases x with
    | terminal u => exact nomatch hx'
    | nonterminal n =>
      exact List.contains_iff_mem.mpr (mem_empties hkeeps (List.contains_iff_mem.mp hx'))

end Rules

end Succession
end Automaton

namespace Grammar

open Automaton

/-- Whether a terminal can begin a nonterminal, as far as runs of text and versions go. -/
def mayBegin (n : Nonterminal) : Terminal → Bool
  | .singleFragment => n == .singlePart
  | .doubleFragment => n == .doublePart
  | .braceFragment => n == .braceParts
  | .heredocFragment => n == .heredocParts
  | .versionNumber => false
  | _ => true

/-- Whether a lookahead may follow a nonterminal, as far as runs of text, versions and the names of
options go. -/
def mayFollow (n : Nonterminal) (l : Lookahead) : Bool :=
  if n == .placeholderName then l == .terminal .equal
  else
    match l with
    | .terminal .singleFragment => n == .singleExprPart
    | .terminal .doubleFragment => n == .doubleExprPart
    | .terminal .braceFragment => n == .bracePlaceholder || n == .braceParts
    | .terminal .heredocFragment => n == .heredocPlaceholder || n == .heredocParts
    | .terminal .versionNumber => false
    | _ => true

/-- The table of the language. -/
def succession : Succession where
  begins := mayBegin
  empties := [.document, .callInputs, .singlePart, .doublePart]
  follows := mayFollow

theorem rules_keepSuccession : rules.all succession.keeps = true := by decide +kernel

/-- Runs of text follow only what stands between them, no version follows anything, and the name of
an option comes before an equals sign. -/
theorem follows_mayFollow {start : Nonterminal} (hstart : start ≠ .placeholderName) {i : Nat}
    {a : Nonterminal} {l : Lookahead} (h : Follows start rules i a l) : mayFollow a l = true := by
  refine succession.bounds rules_keepSuccession ?_ h
  show mayFollow start .endOfInput = true
  unfold mayFollow
  rw [if_neg (by simpa using hstart)]

end Grammar

end Wdl
