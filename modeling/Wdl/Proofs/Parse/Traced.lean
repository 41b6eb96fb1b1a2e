import Mathlib.Data.List.Chain
import Wdl.Proofs.Grammar.Lookahead
import Wdl.Proofs.Lexer.Gaps
import Wdl.Proofs.Parse.Accepted

/-!
Parses with the states of the automaton.

Which terminals are tried for a token depends on the state before it.  So what a parse accepts is
described with the states: a `Strand` is an entry with the states around it and with the tokens that
it was made from, each with the state that was entered over it.  Shifting and reducing keep the
stack a sequence of such strands.  Between two tokens there is only ignored text, and nothing at all
where a run of text of a command was allowed.
-/

namespace Wdl

open Automaton

/-- A token that was shifted, and the state that was entered with it. -/
abbrev Shift := Token × Nat

/-- A token that is found in a text as its terminal takes it. -/
structure Token.Found (text : List Char) (k : Token) : Prop extends k.Within text where
  taken : k.terminal.match? (text.drop k.start.offset) = some (k.stop.offset - k.start.offset)

namespace Parse

/-- An entry, the tokens that it was made from, and the states before and after it. -/
structure Strand where
  before : Nat
  entry : Entry
  shifts : List Shift
  after : Nat

/-- Strands that lead from one state to another. -/
def Leads : Nat → List Strand → Nat → Prop
  | i, [], j => i = j
  | i, x :: xs, j => x.before = i ∧ Leads x.after xs j

theorem leads_append {i j : Nat} {xs ys : List Strand} :
    Leads i (xs ++ ys) j ↔ ∃ m, Leads i xs m ∧ Leads m ys j := by
  induction xs generalizing i with
  | nil => simp [Leads]
  | cons x xs ih => simp [Leads, ih, and_assoc]

section Strands

variable (start : Nonterminal) (rules : List Rule)

/-- A strand that the automaton of the rules makes. -/
inductive Strand.Traced : Strand → Prop
  | token {i j : Nat} {k : Token} : MovesOver start rules i (.terminal k.terminal) j →
    Traced ⟨i, .token k, [(k, j)], j⟩
  | combine {i m j : Nat} {rule : Rule} (mem : rule ∈ rules) (parts : List Strand)
      (symbols : parts.map (fun p => p.entry.symbol) = rule.rhs) (traced : ∀ p ∈ parts, p.Traced)
      (leads : Leads i parts m) (goto : MovesOver start rules i (.nonterminal rule.lhs) j) :
    Traced ⟨i, Stack.combine rule (parts.map Strand.entry), parts.flatMap Strand.shifts, j⟩

/-- A stack of strands, those of the last entry at the end. -/
inductive Stack.Traced : Stack → List Shift → Prop
  | nil : Traced [] []
  | cons {l : Level} {s : Stack} {front back : List Shift} : Traced s front →
    Strand.Traced start rules ⟨s.state, l.entry, back, l.state⟩ → Traced (l :: s) (front ++ back)

variable {start rules}

/-- Without its states a strand is a derivation. -/
theorem Strand.Traced.derives {x : Strand} (h : x.Traced start rules) :
    x.entry.Derives rules (x.shifts.map Prod.fst) := by
  induction h with
  | token _ => exact .token _
  | @combine i m j rule mem parts symbols _ _ _ ih =>
    have hd := Entry.Derives.combine mem (parts.map fun p => (p.entry, p.shifts.map Prod.fst))
      (by rw [← symbols, List.map_map]; rfl) (List.forall_mem_map.mpr ih)
    simpa [List.map_flatMap, List.flatMap_map, Function.comp_def] using hd

theorem Strand.Traced.moves {x : Strand} (h : x.Traced start rules) :
    MovesOver start rules x.before x.entry.symbol x.after := by
  cases h with
  | token hmove => exact hmove
  | combine _ _ _ _ _ hgoto =>
    rw [symbol_combine]
    exact hgoto

/-- A strand of a terminal is a token. -/
theorem Strand.Traced.of_terminal {x : Strand} (h : x.Traced start rules) {a : Terminal}
    (ha : x.entry.symbol = .terminal a) :
    ∃ k, k.terminal = a ∧ x.entry = .token k ∧ x.shifts = [(k, x.after)] := by
  cases h with
  | token _ => exact ⟨_, Symbol.terminal.inj ha, rfl, rfl⟩
  | combine =>
    rw [symbol_combine] at ha
    exact nomatch ha

/-- A strand is made by a rule from others. -/
structure Strand.MadeBy (start : Nonterminal) (rules : List Rule) (x : Strand) (rule : Rule)
    (parts : List Strand) (m : Nat) : Prop where
  symbols : parts.map (fun p => p.entry.symbol) = rule.rhs
  traced : ∀ p ∈ parts, p.Traced start rules
  leads : Leads x.before parts m
  entry : x.entry = Stack.combine rule (parts.map Strand.entry)
  shifts : x.shifts = parts.flatMap Strand.shifts

theorem Strand.Traced.of_nonterminal {x : Strand} (h : x.Traced start rules) {n : Nonterminal}
    (hn : x.entry.symbol = .nonterminal n) :
    ∃ rule ∈ rules, rule.lhs = n ∧ ∃ parts m, x.MadeBy start rules rule parts m := by
  cases h with
  | token _ => exact nomatch hn
  | @combine i m j rule mem parts symbols traced leads _ =>
    rw [symbol_combine] at hn
    exact ⟨rule, mem, Symbol.nonterminal.inj hn, parts, m, symbols, traced, leads, rfl, rfl⟩

/-- Strands follow the moves over their symbols. -/
theorem walk_of_leads {i m : Nat} {parts : List Strand} (h : Leads i parts m)
    (htraced : ∀ p ∈ parts, p.Traced start rules) :
    Automaton.walk (statesOf start rules).moves i (parts.map fun p => p.entry.symbol) =
      some m := by
  induction parts generalizing i with
  | nil => exact congrArg some h
  | cons p parts ih =>
    obtain ⟨rfl, h⟩ := h
    obtain ⟨hp, hparts⟩ := List.forall_mem_cons.mp htraced
    have hmove := hp.moves
    unfold MovesOver at hmove
    rw [List.map_cons, Automaton.walk, hmove]
    exact ih h hparts

/-- The last entries of a stack, as strands. -/
theorem Stack.Traced.parts {s : Stack} {xs : List Shift} (h : s.Traced start rules xs) (n : Nat) :
    ∃ (parts : List Strand) (front : List Shift),
      parts.map Strand.entry = (s.take n).reverse.map Level.entry ∧
      (∀ p ∈ parts, p.Traced start rules) ∧ Leads (Stack.state (s.drop n)) parts s.state ∧
      Stack.Traced start rules (s.drop n) front ∧ xs = front ++ parts.flatMap Strand.shifts := by
  induction n generalizing s xs with
  | zero => exact ⟨[], xs, rfl, List.forall_mem_nil _, rfl, h, (List.append_nil xs).symm⟩
  | succ n ih =>
    cases h with
    | nil => exact ⟨[], [], rfl, List.forall_mem_nil _, rfl, .nil, rfl⟩
    | @cons l s front back hs hl =>
      obtain ⟨parts, first, hparts, htraced, hleads, hbelow, rfl⟩ := ih hs
      refine ⟨parts ++ [⟨s.state, l.entry, back, l.state⟩], first, ?_, ?_, ?_, hbelow, ?_⟩
      · simp [hparts]
      · exact List.forall_mem_append.mpr ⟨htraced, List.forall_mem_singleton.mpr hl⟩
      · exact leads_append.mpr ⟨s.state, hleads, rfl, rfl⟩
      · simp

/-- A move leads to one state. -/
theorem movesOver_unique {i j k : Nat} {x : Symbol} (h : MovesOver start rules i x j)
    (h' : MovesOver start rules i x k) : j = k :=
  Option.some.inj (h.symm.trans h')

/-- A reduction keeps the tokens with their states. -/
theorem Stack.Traced.reduce {rule : Rule} {s s' : Stack} {xs : List Shift} {l : Lookahead}
    (h : s.Traced start rules xs)
    (haction : (ofRules start rules).action? s.state l = some (.reduce rule))
    (hs : s.reduce? (ofRules start rules) rule = some s') :
    s'.Traced start rules xs ∧ ∃ top below, s' = top :: below ∧
      top.entry.symbol = .nonterminal rule.lhs ∧
      (ofRules start rules).goto? (Stack.state below) rule.lhs = some top.state := by
  unfold Stack.reduce? at hs
  dsimp only at hs
  split at hs
  · next hsymbols =>
    obtain ⟨q, hq, rfl⟩ := Option.map_eq_some_iff.mp hs
    obtain ⟨parts, front, hparts, htraced, hleads, hbelow, rfl⟩ := h.parts rule.rhs.length
    refine ⟨.cons hbelow ?_, _, _, rfl, symbol_combine rule _, hq⟩
    rw [beq_iff_eq, ← hparts, List.map_map] at hsymbols
    rw [← hparts]
    rcases (ofRules_faithful start rules).reduces _ _ _ haction with hmem | rfl
    · exact .combine hmem parts hsymbols htraced hleads (movesOver_of_goto? hq)
    · -- the opening rule leaves the one entry as it is, after the same move
      rw [← List.map_map] at hsymbols
      have hone := combine_opening hsymbols
      obtain ⟨p, rfl⟩ : ∃ p, parts = [p] := by
        rw [← List.length_eq_one_iff, ← List.length_map Strand.entry, hone, List.length_singleton]
      rw [← (List.cons.inj hone).1, List.flatMap_singleton]
      have hp := htraced p List.mem_cons_self
      obtain ⟨hbefore, hafter⟩ := hleads
      have hsymbol : p.entry.symbol = .nonterminal start := (List.cons.inj hsymbols).1
      cases hp with
      | token => exact nomatch hsymbol
      | @combine i m j rule' mem parts symbols traced leads goto =>
        rw [symbol_combine] at hsymbol
        obtain rfl := hbefore
        rw [Symbol.nonterminal.inj hsymbol] at goto
        obtain rfl := movesOver_unique goto (movesOver_of_goto? hq)
        exact .combine mem parts symbols traced leads
          (by rw [Symbol.nonterminal.inj hsymbol]; exact goto)
  · exact nomatch hs

/-- What is left of a stack that was offered a lookahead. -/
inductive Stack.Outcome.Follows (start : Nonterminal) (rules : List Rule) (xs : List Shift)
    (t? : Option Token) : Stack.Outcome → Prop
  | shifted {s : Stack} {t : Token} : t? = some t →
    Stack.Traced start rules s (xs ++ [(t, s.state)]) → Follows start rules xs t? (.shifted s)
  | accepted {front : List Shift} {p : Strand} : xs = front ++ p.shifts → p.Traced start rules →
    p.entry.symbol = .nonterminal start → Follows start rules xs t? (.accepted p.entry)
  | refused (s : Stack) : Follows start rules xs t? (.refused s)

theorem Stack.offer_follows (l : Lookahead) (t? : Option Token) (ht : ∀ t, t? = some t →
    l = .terminal t.terminal) {s : Stack} {xs : List Shift} (h : s.Traced start rules xs)
    (fuel : Nat) : (s.offer (ofRules start rules) l t? fuel).Follows start rules xs t? := by
  induction fuel generalizing s with
  | zero => exact .refused s
  | succ fuel ih =>
    unfold Stack.offer
    split
    · exact .refused s
    · next q haction =>
      split
      · next t =>
        obtain ⟨a, ha, hmove⟩ := movesOver_of_action? haction
        obtain rfl := Lookahead.terminal.inj ((ht t rfl).symm.trans ha)
        exact .shifted rfl (.cons h (.token hmove))
      · exact .refused s
    · next rule haction =>
      split
      · exact .refused s
      · next s' hs' =>
        obtain ⟨htraced, top, below, rfl, hsymbol, hgoto⟩ := h.reduce haction hs'
        dsimp only
        split
        · next hend =>
          rw [Bool.and_eq_true, beq_iff_eq, beq_iff_eq] at hend
          rw [hend.2] at hgoto
          rw [(ofRules_faithful start rules).accepts _ _ hgoto] at hsymbol
          cases htraced with
          | cons _ htop => exact .accepted rfl htop hsymbol
        · exact ih htraced

end Strands

/-! ## Seams -/

/-- What lies between a token and the next one: ignored text, and nothing after what ends where no
ignored text can begin, or where a run of text of a command was allowed. -/
def Seam (start : Nonterminal) (rules : List Rule) (text : List Char) (x y : Shift) : Prop :=
  Passes (text.drop x.1.stop.offset) (text.drop y.1.start.offset) ∧
    (Bound (text.drop x.1.stop.offset) → y.1.start = x.1.stop) ∧
    ∀ c : CommandStyle, c.fragment ∈ (ofRules start rules).terminals x.2 → y.1.start = x.1.stop

/-- Tokens of a text, one after the other, with such seams between them. -/
structure Sewn (start : Nonterminal) (rules : List Rule) (text : List Char) (xs : List Shift) :
    Prop where
  found : ∀ x ∈ xs, x.1.Found text
  ordered : xs.Pairwise fun x y => x.1.stop.offset ≤ y.1.start.offset
  seams : xs.IsChain (Seam start rules text)

section Scans

variable {start : Nonterminal} {rules : List Rule} {terminals : List Terminal} {text : List Char}

theorem Sewn.part {xs ys : List Shift} (h : Sewn start rules text ys) (hxs : xs <:+: ys) :
    Sewn start rules text xs :=
  ⟨fun x hx => h.found x (hxs.subset hx), h.ordered.sublist hxs.sublist, h.seams.infix hxs⟩

/-- A token that a scanner finds is taken by its terminal. -/
theorem found_of_scan {s : Scanner} {c after : Cursor} {k : Token} (hc : c.At text)
    (h : s.scan c = .token k after) : k.Found text := by
  obtain ⟨hafter, hplace, -, hwithin⟩ := Scanner.scan_token hc h
  obtain ⟨-, -, n, hmatch, hrest⟩ := Scanner.scan_gap hc h
  refine ⟨hwithin, hmatch.trans (congrArg some ?_)⟩
  have hle := (Terminal.match?_bounds _ _ _ hmatch).2
  have hstop := hwithin.stop_le
  have hlt := hwithin.start_lt
  have hlength : after.rest.length = text.length - k.stop.offset := by
    rw [hafter.rest, hplace, List.length_drop]
  rw [List.length_drop] at hle
  rw [hrest, List.length_drop, List.length_drop] at hlength
  omega

/-- Every state of the automaton has its own scanner. -/
theorem scanner_ofGrammar {i : Nat} (hi : i < (ofRules start rules).states.size) :
    (Machine.ofGrammar start rules terminals).scanner i =
      Scanner.ofTerminals ((ofRules start rules).terminals i) := by
  unfold Machine.scanner Machine.ofGrammar
  dsimp only
  rw [Array.getElem?_map, Array.getElem?_range, if_pos hi]
  rfl

/-- The scanner of a state that allows a run of text tries it first. -/
theorem start_eq_of_fragment {c after : Cursor} {k : Token} {i : Nat} {style : CommandStyle}
    (hi : style.fragment ∈ (ofRules start rules).terminals i)
    (h : ((Machine.ofGrammar start rules terminals).scanner i).scan c = .token k after) :
    k.start = c.place := by
  have hlt : i < (ofRules start rules).states.size := by
    refine Nat.lt_of_not_le fun hge => ?_
    rw [Automaton.terminals, Automaton.allowed, Automaton.state, Array.getElem?_eq_none hge] at hi
    exact List.not_mem_nil hi
  rw [scanner_ofGrammar hlt] at h
  obtain ⟨before, later, htried, hbefore⟩ := Scanner.ofTerminals_tried hi
  exact Scanner.next_of_tried htried hbefore h

end Scans

/-! ## Steps -/

/-- A parse in progress without errors: the stack is built from tokens of the text, one after the
other up to the cursor, and the state on top is the one that the last of them led to. -/
structure Progress.Tracked (start : Nonterminal) (rules : List Rule) (text : List Char)
    (xs : List Shift) (p : Progress) : Prop where
  traced : p.stack.Traced start rules xs
  cursor : p.cursor.At text
  sewn : Sewn start rules text xs
  passed : ∀ x ∈ xs, x.1.stop.offset ≤ p.cursor.place.offset
  resting : ∀ x ∈ xs.getLast?, x.2 = p.stack.state ∧ x.1.stop = p.cursor.place

variable {start : Nonterminal} {rules : List Rule} {terminals : List Terminal} {o : Origin}
  {text : List Char} {xs : List Shift} {p : Progress}

/-- Reading the next token. -/
theorem Progress.Tracked.read (h : p.Tracked start rules text xs) {k : Token} {after : Cursor}
    {s : Stack}
    (hscan : ((Machine.ofGrammar start rules terminals).scanner p.stack.state).scan p.cursor =
      .token k after)
    (htraced : s.Traced start rules (xs ++ [(k, Stack.state s)])) :
    Tracked start rules text (xs ++ [(k, Stack.state s)])
      { p with stack := s, cursor := after, last := some k } := by
  obtain ⟨hafter, hplace, hle, -⟩ := Scanner.scan_token h.cursor hscan
  obtain ⟨hpasses, hbound, -⟩ := Scanner.scan_gap h.cursor hscan
  have hfound := found_of_scan h.cursor hscan
  refine ⟨htraced, hafter, ⟨List.forall_mem_append.mpr ⟨h.sewn.found,
    List.forall_mem_singleton.mpr hfound⟩, ?_, ?_⟩, fun x hx => ?_, fun x hx => ?_⟩
  · refine List.pairwise_append.mpr
      ⟨h.sewn.ordered, List.pairwise_singleton _ _, fun x hx y hy => ?_⟩
    rw [List.mem_singleton.mp hy]
    exact Nat.le_trans (h.passed x hx) hle
  · refine List.isChain_append.mpr ⟨h.sewn.seams, List.isChain_singleton _, fun x hx y hy => ?_⟩
    obtain ⟨hstate, hstop⟩ := h.resting x hx
    obtain rfl := Option.some.inj (show some _ = some y from hy)
    rw [Seam, hstop, ← h.cursor.rest]
    exact ⟨h.cursor.rest ▸ hpasses, hbound, fun c hc => start_eq_of_fragment (hstate ▸ hc) hscan⟩
  · dsimp only
    rw [hplace]
    rcases List.mem_append.mp hx with hx | hx
    · exact Nat.le_trans (h.passed x hx) (Nat.le_trans hle (Nat.le_of_lt hfound.start_lt))
    · rw [List.mem_singleton.mp hx]
  · rw [List.getLast?_concat] at hx
    obtain rfl := Option.some.inj hx
    exact ⟨rfl, hplace.symm⟩

/-- What one step does to a parse without errors. -/
inductive Step.Follows (start : Nonterminal) (rules : List Rule) (text : List Char)
    (xs : List Shift) : Step → Prop
  | read {p : Progress} {xs' : List Shift} : p.Tracked start rules text xs' →
    Follows start rules text xs (.read p)
  | done {p : Progress} {front : List Shift} {x : Strand} : xs = front ++ x.shifts →
    x.Traced start rules → x.entry.symbol = .nonterminal start →
      Follows start rules text xs (.done p x.entry)
  | stuck (p : Progress) (t : Trouble) : Follows start rules text xs (.stuck p t)

theorem step_follows (h : p.Tracked start rules text xs) :
    (step (.ofGrammar start rules terminals) p).Follows start rules text xs := by
  have hshift : ∀ t : Token,
      (p.stack.shift (ofRules start rules) t).Follows start rules xs (some t) := fun t =>
    Stack.offer_follows _ _ (fun _ ht => congrArg (Lookahead.terminal ·.terminal)
      (Option.some.inj ht)) h.traced _
  have hfinish : (p.stack.finish (ofRules start rules)).Follows start rules xs none :=
    Stack.offer_follows .endOfInput none (fun _ ht => nomatch ht) h.traced _
  unfold step
  dsimp only
  split
  · next k after hscan =>
    replace hshift := hshift k
    split
    · next s hs =>
      have hs : p.stack.shift (ofRules start rules) k = .shifted s := hs
      rw [hs] at hshift
      cases hshift with
      | shifted ht htraced =>
        obtain rfl := Option.some.inj ht
        exact .read (h.read hscan htraced)
    · exact .stuck _ _
    · exact .stuck _ _
  · split
    · next e he =>
      have he : p.stack.finish (ofRules start rules) = .accepted e := he
      rw [he] at hfinish
      cases hfinish with
      | accepted hxs htraced hsymbol => exact .done hxs htraced hsymbol
    · exact .stuck _ _
    · exact .stuck _ _
  · split
    · exact .stuck _ _
    · split <;> exact .stuck _ _

/-! ## The run -/

/-- A strand of the start symbol that a parse without errors has read from a text. -/
structure Read (start : Nonterminal) (rules : List Rule) (text : List Char) (x : Strand) :
    Prop where
  traced : x.Traced start rules
  symbol : x.entry.symbol = .nonterminal start
  sewn : Sewn start rules text x.shifts

theorem run_read {limit fuel : Nat} {e : Entry} (h : p.Tracked start rules text xs)
    (hrun : run (.ofGrammar start rules terminals) o limit fuel p = ([], some e)) :
    ∃ x, Read start rules text x ∧ x.entry = e := by
  induction fuel generalizing p xs with
  | zero => exact nomatch (Prod.mk.inj hrun).2
  | succ fuel ih =>
    have hfollows : (step (.ofGrammar start rules terminals) p).Follows start rules text xs :=
      step_follows h
    unfold run at hrun
    split at hrun
    · next p' hstep =>
      rw [hstep] at hfollows
      cases hfollows with
      | read htracked => exact ih htracked hrun
    · next p' e' hstep =>
      rw [hstep] at hfollows
      obtain rfl := Option.some.inj (Prod.mk.inj hrun).2
      cases hfollows with
      | @done _ front x hxs htraced hsymbol =>
        subst hxs
        exact ⟨x, ⟨htraced, hsymbol, h.sewn.part (List.suffix_append _ _).isInfix⟩, rfl⟩
    · -- an error that is found once is never lost
      dsimp only at hrun
      split at hrun
      · exact absurd (Prod.mk.inj hrun).1 (report_ne _ _)
      · split at hrun
        · exact absurd (congrArg Prod.fst hrun) (run_errors_ne (report_ne _ _))
        · exact absurd (Prod.mk.inj hrun).1 (report_ne _ _)
        · split at hrun
          · exact absurd (congrArg Prod.fst hrun) (run_errors_ne (report_ne _ _))
          · exact absurd (congrArg Prod.fst hrun) (run_errors_ne (report_ne _ _))

/-- A tree that is handed out without errors is that of a strand that was read from the text. -/
theorem parse_read {limit : Int} {t : Tree}
    (h : parse (.ofGrammar start rules terminals) o limit text = ([], some t)) :
    ∃ x, Read start rules text x ∧ (x.entry.trees false).head? = some t := by
  unfold parse at h
  dsimp only at h
  obtain ⟨herrors, htree⟩ := Prod.mk.inj h
  obtain ⟨e, he, hhead⟩ := Option.bind_eq_some_iff.mp htree
  have htracked : Progress.Tracked start rules text []
      { stack := [], cursor := .ofText text, last := none, errors := [] } :=
    ⟨.nil, Cursor.ofText_at text, ⟨List.forall_mem_nil _, .nil, .nil⟩, List.forall_mem_nil _, nofun⟩
  obtain ⟨x, hread, rfl⟩ :=
    run_read htracked (Prod.ext (List.reverse_eq_nil_iff.mp herrors) he)
  exact ⟨x, hread, hhead⟩

/-- A tree that is handed out without errors is made by the grammar from tokens of the text, one
after the other. -/
theorem parse_accepts {limit : Int} {t : Tree}
    (h : parse (.ofGrammar start rules terminals) o limit text = ([], some t)) :
    ∃ (e : Entry) (ks : List Token), e.Derives rules ks ∧ e.symbol = .nonterminal start ∧
      (e.trees false).head? = some t ∧ (∀ k ∈ ks, k.Within text) ∧
      ks.Pairwise fun a b => a.stop.offset ≤ b.start.offset := by
  obtain ⟨x, hread, hhead⟩ := parse_read h
  exact ⟨x.entry, x.shifts.map Prod.fst, hread.traced.derives, hread.symbol, hhead,
    List.forall_mem_map.mpr fun y hy => (hread.sewn.found y hy).toWithin,
    List.pairwise_map.mpr hread.sewn.ordered⟩

end Parse
end Wdl
