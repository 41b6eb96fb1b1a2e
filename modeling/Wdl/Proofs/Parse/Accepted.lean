import Wdl.Parse.Recovery
import Wdl.Proofs.Grammar.Automaton
import Wdl.Proofs.Lexer.Tokens

/-!
The stack of a parse.

The entries on the stack are derived from the tokens that have been shifted, in order: this holds at
the start, and shifting and reducing keep it.  What is accepted is derived from tokens, too.

What is skipped never reaches the stack, and what is put in at the end is shifted like any token.
So the stack is built from tokens after every step, whether something could be read or not, and a
tree that is handed out beside errors is still one that the grammar makes.
-/

namespace Wdl
namespace Parse

variable {start : Nonterminal} {rules : List Rule}

/-! ## The stack -/

/-- A stack whose entries are derived from tokens, those of the last entry at the end. -/
inductive Built (rules : List Rule) : Stack → List Token → Prop
  | nil : Built rules [] []
  | cons {l : Level} {s : Stack} {front back : List Token} :
      Built rules s front → l.entry.Derives rules back → Built rules (l :: s) (front ++ back)

/-- The last entries of a stack, with the tokens that they are derived from. -/
theorem Built.parts {s : Stack} {ks : List Token} (h : Built rules s ks) (n : Nat) :
    ∃ (parts : List (Entry × List Token)) (front : List Token),
      parts.map Prod.fst = (s.take n).reverse.map Level.entry ∧
      (∀ p ∈ parts, p.1.Derives rules p.2) ∧ Built rules (s.drop n) front ∧
      ks = front ++ parts.flatMap Prod.snd := by
  induction n generalizing s ks with
  | zero => exact ⟨[], ks, rfl, List.forall_mem_nil _, h, (List.append_nil ks).symm⟩
  | succ n ih =>
    cases h with
    | nil => exact ⟨[], [], rfl, List.forall_mem_nil _, .nil, rfl⟩
    | @cons l s front back hs hl =>
      obtain ⟨parts, first, hparts, hderives, hbuilt, rfl⟩ := ih hs
      refine ⟨parts ++ [(l.entry, back)], first, ?_, ?_, hbuilt, ?_⟩
      · simp [hparts]
      · intro p hp
        rcases List.mem_append.mp hp with hp | hp
        · exact hderives p hp
        · rw [List.mem_singleton.mp hp]
          exact hl
      · simp

/-- The opening rule changes nothing. -/
theorem combine_opening {entries : List Entry}
    (h : entries.map Entry.symbol = (Automaton.openingRule start).rhs) :
    entries = [Stack.combine (Automaton.openingRule start) entries] := by
  match entries, h with
  | [], h => cases h
  | [.token k], h => cases (List.cons.inj h).1
  | [.reduced n extent ts], h =>
    obtain rfl : n = start := Symbol.nonterminal.inj (List.cons.inj h).1
    cases extent <;> simp [Stack.combine, Automaton.openingRule, Extent.hull, Entry.extent?,
      Entry.trees]
  | _ :: _ :: _, h => cases (List.cons.inj h).2

/-- A reduction keeps the tokens, and what it makes is of the nonterminal of its rule. -/
theorem Built.reduce {a : Automaton} {rule : Rule} {s s' : Stack} {ks : List Token}
    (h : Built rules s ks) (hrule : rule ∈ rules ∨ rule = Automaton.openingRule start)
    (hs : s.reduce? a rule = some s') :
    Built rules s' ks ∧ ∃ top below, s' = top :: below ∧
      top.entry.symbol = .nonterminal rule.lhs ∧
      a.goto? (Stack.state below) rule.lhs = some top.state := by
  unfold Stack.reduce? at hs
  dsimp only at hs
  split at hs
  · rename_i hsymbols
    obtain ⟨q, hq, rfl⟩ := Option.map_eq_some_iff.mp hs
    obtain ⟨parts, front, hparts, hderives, hbuilt, rfl⟩ := h.parts rule.rhs.length
    refine ⟨.cons hbuilt ?_, _, _, rfl, symbol_combine rule _, hq⟩
    rw [beq_iff_eq, ← hparts, List.map_map] at hsymbols
    rw [← hparts]
    rcases hrule with hmem | rfl
    · exact .combine hmem parts hsymbols hderives
    · rw [← List.map_map] at hsymbols
      have hone := combine_opening hsymbols
      obtain ⟨p, rfl⟩ : ∃ p, parts = [p] := by
        rw [← List.length_eq_one_iff, ← List.length_map Prod.fst, hone, List.length_singleton]
      rw [← (List.cons.inj hone).1, List.flatMap_singleton]
      exact hderives p List.mem_cons_self
  · exact nomatch hs

/-- What is left of a stack that was offered a lookahead. -/
def Stack.Outcome.Fine (start : Nonterminal) (rules : List Rule) (ks : List Token)
    (t? : Option Token) : Stack.Outcome → Prop
  | .shifted s => ∃ t, t? = some t ∧ Built rules s (ks ++ [t])
  | .accepted e => ∃ front back, ks = front ++ back ∧ e.Derives rules back ∧
      e.symbol = .nonterminal start
  | .refused s => Built rules s ks

theorem Stack.offer_fine {a : Automaton} (ha : a.Faithful start rules) (l : Lookahead)
    (t? : Option Token) {s : Stack} {ks : List Token} (h : Built rules s ks) (fuel : Nat) :
    (s.offer a l t? fuel).Fine start rules ks t? := by
  induction fuel generalizing s with
  | zero => exact h
  | succ fuel ih =>
    unfold Stack.offer
    split
    · exact h
    · split
      · exact ⟨_, rfl, .cons h (.token _)⟩
      · exact h
    · rename_i rule haction
      split
      · exact h
      · rename_i s' hs'
        obtain ⟨hbuilt, top, below, rfl, hsymbol, hgoto⟩ :=
          h.reduce (ha.reduces _ _ _ haction) hs'
        dsimp only
        split
        · rename_i hend
          rw [Bool.and_eq_true, beq_iff_eq, beq_iff_eq] at hend
          rw [hend.2] at hgoto
          rw [ha.accepts _ _ hgoto] at hsymbol
          cases hbuilt with
          | @cons _ _ front back hbelow htop => exact ⟨front, back, rfl, htop, hsymbol⟩
        · exact ih hbuilt

variable {m : Machine} {o : Origin} {p : Progress}

/-! ## Errors stay -/

theorem report_ne (errors : List SyntaxError) (e : SyntaxError) : report errors e ≠ [] := by
  unfold report
  split
  · rename_i h
    rintro rfl
    exact nomatch h
  · exact List.cons_ne_nil _ _

/-- Where a step ends. -/
def Step.progress : Step → Progress
  | .read p | .done p _ | .stuck p _ => p

theorem step_errors (m : Machine) (p : Progress) : (step m p).progress.errors = p.errors := by
  unfold step
  dsimp only
  split
  · split <;> rfl
  · split <;> rfl
  · split
    · rfl
    · split <;> rfl

/-- Errors stay. -/
theorem run_errors_ne {limit fuel : Nat} (h : p.errors ≠ []) :
    (run m o limit fuel p).1 ≠ [] := by
  induction fuel generalizing p with
  | zero => exact h
  | succ fuel ih =>
    have herrors := step_errors m p
    unfold run
    split
    · rename_i p' hstep
      rw [hstep] at herrors
      exact ih (herrors ▸ h)
    · rename_i p' e hstep
      rw [hstep] at herrors
      exact herrors ▸ h
    · dsimp only
      split
      · exact report_ne _ _
      · split
        · exact ih (report_ne _ _)
        · exact report_ne _ _
        · split
          · exact ih (report_ne _ _)
          · exact ih (report_ne _ _)

end Parse
end Wdl

/-! ## Texts with errors -/

namespace Wdl
namespace Parse

variable {start : Nonterminal} {rules : List Rule} {m : Machine} {o : Origin} {p : Progress}

/-- What a step leaves of a stack that is built from tokens. -/
def Step.Grounded (start : Nonterminal) (rules : List Rule) : Step → Prop
  | .read p | .stuck p _ => ∃ ks, Built rules p.stack ks
  | .done _ e => ∃ ks, e.Derives rules ks ∧ e.symbol = .nonterminal start

theorem step_grounded (hm : m.automaton.Faithful start rules) {ks : List Token}
    (h : Built rules p.stack ks) : (step m p).Grounded start rules := by
  unfold step
  dsimp only
  split
  · next k after _ =>
    have hfine := Stack.offer_fine hm (.terminal k.terminal) (some k) h p.stack.patience
    rw [← Stack.shift] at hfine
    split
    · next s hs =>
      rw [hs] at hfine
      obtain ⟨t, -, hbuilt⟩ := hfine
      exact ⟨_, hbuilt⟩
    · next s hs =>
      rw [hs] at hfine
      exact ⟨_, hfine⟩
    · exact ⟨_, h⟩
  · have hfine := Stack.offer_fine hm .endOfInput none h p.stack.patience
    rw [← Stack.finish] at hfine
    split
    · next e he =>
      rw [he] at hfine
      obtain ⟨front, back, -, hderives, hsymbol⟩ := hfine
      exact ⟨_, hderives, hsymbol⟩
    · next s hs =>
      rw [hs] at hfine
      exact ⟨_, hfine⟩
    · next s hs =>
      rw [hs] at hfine
      obtain ⟨t, ht, -⟩ := hfine
      exact nomatch ht
  · split
    · exact ⟨_, h⟩
    · split <;> exact ⟨_, h⟩

/-- Closing what is open makes an entry of the start symbol, if it makes one. -/
theorem close?_derives {a : Automaton} (ha : a.Faithful start rules) {extent : Extent} {fuel : Nat}
    {s : Stack} {ks : List Token} {e : Entry} (h : Built rules s ks)
    (he : close? a extent fuel s = some e) :
    ∃ ks, e.Derives rules ks ∧ e.symbol = .nonterminal start := by
  induction fuel generalizing s ks with
  | zero => exact nomatch he
  | succ fuel ih =>
    unfold close? at he
    split at he
    · next e' hfinish =>
      obtain rfl := Option.some.inj he
      have hfine := Stack.offer_fine ha .endOfInput none h s.patience
      rw [← Stack.finish, hfinish] at hfine
      obtain ⟨front, back, -, hderives, hsymbol⟩ := hfine
      exact ⟨_, hderives, hsymbol⟩
    · dsimp only at he
      split at he
      · next s' hshifted =>
        obtain ⟨t, -, ht⟩ := List.exists_of_findSome?_eq_some hshifted
        split at ht
        · next s'' hshift =>
          obtain rfl := Option.some.inj ht
          have hfine := Stack.offer_fine ha (.terminal t)
            (some ⟨t, closerText t, extent.start, extent.stop⟩) h s.patience
          rw [Stack.shift] at hshift
          rw [hshift] at hfine
          obtain ⟨k, -, hbuilt⟩ := hfine
          exact ih hbuilt he
        · exact nomatch ht
      · exact nomatch he

theorem run_derives (hm : m.automaton.Faithful start rules) {limit fuel : Nat} {e : Entry}
    (h : ∃ ks, Built rules p.stack ks) (he : (run m o limit fuel p).2 = some e) :
    ∃ ks, e.Derives rules ks ∧ e.symbol = .nonterminal start := by
  induction fuel generalizing p with
  | zero => exact nomatch he
  | succ fuel ih =>
    obtain ⟨ks, h⟩ := h
    have hstep := step_grounded hm h
    unfold run at he
    split at he
    · next p' hread =>
      rw [hread] at hstep
      exact ih hstep he
    · next p' e' hdone =>
      rw [hdone] at hstep
      obtain rfl := Option.some.inj he
      exact hstep
    · next p' trouble hstuck =>
      rw [hstuck] at hstep
      -- where the cursor goes and what is recorded does not matter to the stack
      have hcontinue : ∀ cursor errors,
          (run m o limit fuel { p' with cursor, errors }).2 = some e →
            ∃ ks, e.Derives rules ks ∧ e.symbol = .nonterminal start := by
        intro cursor errors hrun
        refine ih ?_ hrun
        exact hstep
      dsimp only at he
      split at he
      · exact nomatch he
      · split at he
        · exact hcontinue _ _ he
        · obtain ⟨_, hbuilt⟩ := hstep
          exact close?_derives hm hbuilt he
        · split at he
          · exact hcontinue _ _ he
          · exact hcontinue _ _ he

/-- A tree that is handed out, with or without errors, is made by the grammar. -/
theorem parse_derives {terminals : List Terminal} {limit : Int} {text : List Char} {t : Tree}
    (h : (parse (.ofGrammar start rules terminals) o limit text).2 = some t) :
    ∃ (e : Entry) (ks : List Token), e.Derives rules ks ∧ e.symbol = .nonterminal start ∧
      (e.trees false).head? = some t := by
  unfold parse at h
  dsimp only at h
  obtain ⟨e, he, hhead⟩ := Option.bind_eq_some_iff.mp h
  have hfaithful : (Machine.ofGrammar start rules terminals).automaton.Faithful start rules :=
    Automaton.ofRules_faithful start rules
  obtain ⟨ks, hderives, hsymbol⟩ := run_derives hfaithful ⟨[], Built.nil⟩ he
  exact ⟨e, ks, hderives, hsymbol, hhead⟩

end Parse
end Wdl
