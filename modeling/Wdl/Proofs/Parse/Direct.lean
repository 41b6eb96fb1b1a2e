import Wdl.Proofs.Grammar.ItemSets
import Wdl.Proofs.Parse.Traced

/-!
Parsing without the tables of the automaton.

The items of the states along a text can be computed while it is read, with no need for the whole
automaton: a lookahead is shifted if an item reads it, and otherwise the rule is reduced that has
been read and that the lookahead may follow.  Where that leaves only one thing to do, the parser
does it, `settle_spec`.  The one question that items do not answer is whether a lookahead does
follow a rule.  That is known once the lookahead is shifted at last, and so the proof goes
backwards through the reductions that are made for it.

A text that is read in this way to its end is parsed without errors, `parse_of_readText`.
-/

namespace Wdl
namespace Parse

open Automaton

/-! ## Stacks by their items -/

/-- An entry with the items of the state after it. -/
structure Cell where
  items : List Dotted
  entry : Entry

/-- The entries read so far, the last one first. -/
abbrev Pile := List Cell

/-- The items of the state on top. -/
def Pile.items (start : Nonterminal) : Pile → List Dotted
  | [] => [⟨openingRule start, 0⟩]
  | c :: _ => c.items

section Pictures

variable (start : Nonterminal) (rules : List Rule)

/-- A pile has the entries of a stack and the items of its states, each of which is entered from the
one below it. -/
inductive Pictures : Pile → Stack → Prop
  | nil : Pictures [] []
  | cons {c : Cell} {p : Pile} {l : Level} {s : Stack} : Pictures p s →
      Shows start rules l.state c.items → c.entry = l.entry →
      MovesOver start rules s.state l.entry.symbol l.state → Pictures (c :: p) (l :: s)

variable {start rules}
variable {p : Pile} {s : Stack}

theorem Pictures.shows (h : Pictures start rules p s) :
    Shows start rules s.state (p.items start) := by
  cases h with
  | nil => exact shows_zero start rules
  | cons _ hshows _ _ => exact hshows

theorem Pictures.length (h : Pictures start rules p s) : p.length = s.length := by
  induction h with
  | nil => rfl
  | cons _ _ _ _ ih => rw [List.length_cons, List.length_cons, ih]

theorem Pictures.drop (h : Pictures start rules p s) (n : Nat) :
    Pictures start rules (p.drop n) (s.drop n) := by
  induction h generalizing n with
  | nil => rw [List.drop_nil, List.drop_nil]; exact .nil
  | cons h hshows hentry hmove ih =>
    cases n with
    | zero => exact .cons h hshows hentry hmove
    | succ n => exact ih n

theorem Pictures.entries (h : Pictures start rules p s) (n : Nat) :
    (p.take n).map Cell.entry = (s.take n).map Level.entry := by
  induction h generalizing n with
  | nil => rw [List.take_nil, List.take_nil]; rfl
  | cons _ _ hentry _ ih =>
    cases n with
    | zero => rfl
    | succ n =>
      rw [List.take_succ_cons, List.take_succ_cons, List.map_cons, List.map_cons, ih, hentry]

theorem Pictures.entries_reverse (h : Pictures start rules p s) (n : Nat) :
    (p.take n).reverse.map Cell.entry = (s.take n).reverse.map Level.entry := by
  rw [List.map_reverse, List.map_reverse, h.entries]

theorem walk_concat {moves : Array (List (Symbol × Nat))} {i j : Nat} {xs : List Symbol}
    {x : Symbol} (h : walk moves i xs = some j) :
    walk moves i (xs ++ [x]) = (moves[j]?.getD []).lookup x := by
  induction xs generalizing i with
  | nil =>
    obtain rfl := Option.some.inj h
    rw [List.nil_append, walk]
    cases (moves[i]?.getD []).lookup x <;> rfl
  | cons y ys ih =>
    rw [walk] at h
    split at h
    · next q hq =>
      rw [List.cons_append, walk, hq]
      exact ih h
    · cases h

/-- The entries on top lead from the state below them to the state on top. -/
theorem Pictures.walk (h : Pictures start rules p s) (n : Nat) :
    Automaton.walk (statesOf start rules).moves (Stack.state (s.drop n))
      ((s.take n).reverse.map fun l => l.entry.symbol) = some s.state := by
  induction h generalizing n with
  | nil => rw [List.drop_nil, List.take_nil]; rfl
  | cons _ _ _ hmove ih =>
    cases n with
    | zero => rfl
    | succ n =>
      rw [List.take_succ_cons, List.reverse_cons, List.map_append, List.drop_succ_cons]
      exact (walk_concat (ih n)).trans hmove

end Pictures

/-! ## Settling a lookahead -/

/-- What the parser sees next. -/
def lookahead : Option Token → Lookahead
  | some t => .terminal t.terminal
  | none => .endOfInput

section Settle

variable (start : Nonterminal) (rules : List Rule) (follows : Nonterminal → Lookahead → Bool)

/-- The items that a lookahead is read by. -/
def reading (l : Lookahead) (items : List Dotted) : Option (List Dotted) :=
  match l with
  | .terminal t => after rules (.terminal t) items
  | .endOfInput => some []

/-- The items of rules that have been read and that a lookahead may follow. -/
def completed (l : Lookahead) (items : List Dotted) : List Dotted :=
  items.filter fun d => d.next?.isNone && follows d.rule.lhs l

/-- Whether a rule without symbols may be reduced. -/
def mayInsert (l : Lookahead) (items : List Dotted) : Bool :=
  match opened rules items with
  | none => true
  | some s =>
    bif Nat.beq s 0 then false
    else (rules.filter fun r => r.rhs.isEmpty).any fun r => !lacks s r.lhs && follows r.lhs l

/-- What a lookahead leads to. -/
inductive Settled
  /-- the token was shifted -/
  | shifted (p : Pile)
  /-- the input was accepted, with this entry for the start symbol -/
  | accepted (e : Entry)

/-- The one rule that may be reduced, with the pile after it, its top apart. -/
def reduction? (l : Lookahead) (p : Pile) : Option (Rule × Cell × Pile) :=
  if mayInsert rules follows l (p.items start) then none
  else
    match completed follows l (p.items start) with
    | [d] =>
      let entries := (p.take d.rule.rhs.length).reverse.map Cell.entry
      let below := p.drop d.rule.rhs.length
      if d.rule != openingRule start && !d.rule.rhs.isEmpty &&
          entries.map Entry.symbol == d.rule.rhs then
        match after rules (.nonterminal d.rule.lhs) (Pile.items start below) with
        | some (k :: ks) => some (d.rule, ⟨k :: ks, Stack.combine d.rule entries⟩, below)
        | _ => none
      else none
    | _ => none

/-- Reduces until the lookahead can be shifted or the input ends, as long as there is only one thing
to do. -/
def settle (t? : Option Token) : Nat → Pile → Option Settled
  | 0, _ => none
  | fuel + 1, p =>
    match reading rules (lookahead t?) (p.items start) with
    | none => none
    | some (d :: ds) => t?.map fun t => .shifted (⟨d :: ds, .token t⟩ :: p)
    | some [] =>
      match reduction? start rules follows (lookahead t?) p with
      | none => none
      | some (r, c, below) =>
        if t?.isNone && r.lhs == start then
          if below.isEmpty then some (.accepted c.entry) else none
        else settle t? fuel (c :: below)

end Settle

section Settling

variable {start : Nonterminal} {rules : List Rule} {follows : Nonterminal → Lookahead → Bool}
  {p : Pile} {s : Stack} {items : List Dotted} {l : Lookahead} {t? : Option Token}

/-- What a stack does next with a lookahead that is shifted or accepted in the end. -/
inductive Ready (start : Nonterminal) (rules : List Rule) (s : Stack) (l : Lookahead) : Prop
  | shift {t : Terminal} {j : Nat} : l = .terminal t →
      MovesOver start rules s.state (.terminal t) j → Ready start rules s l
  | reduce {r : Rule} : r ∈ rules → r.rhs ≠ [] →
      (s.take r.rhs.length).reverse.map (fun l => l.entry.symbol) = r.rhs →
      Follows start rules (Stack.state (s.drop r.rhs.length)) r.lhs l → Ready start rules s l

/-- A state allows a lookahead that it goes on with. -/
theorem Ready.mem_terminals {t : Terminal} (h : Ready start rules s (.terminal t))
    (hp : Pictures start rules p s) : t ∈ (ofRules start rules).terminals s.state := by
  cases h with
  | shift ht hmove =>
    obtain rfl := Lookahead.terminal.inj ht
    exact mem_terminals_of_action? hmove.action?
  | @reduce r hr _ hsymbols hfollows =>
    have hwalk := hp.walk r.rhs.length
    rw [hsymbols] at hwalk
    exact mem_terminals_of_follows hr hwalk hfollows

/-- What a stack goes on with after a reduction follows the nonterminal of the rule. -/
theorem Ready.follows_entry {l' : Level} {a : Nonterminal} (h : Ready start rules (l' :: s) l)
    (hp : Pictures start rules p s) (ha : l'.entry.symbol = .nonterminal a)
    (hmove : MovesOver start rules s.state (.nonterminal a) l'.state) :
    Follows start rules s.state a l := by
  cases h with
  | shift ht hshift =>
    subst ht
    exact .read (.shift hmove hshift)
  | @reduce r hr hne hsymbols hfollows =>
    obtain ⟨n, hn⟩ := Nat.exists_eq_succ_of_ne_zero fun h => hne (List.length_eq_zero_iff.mp h)
    rw [hn, List.take_succ_cons, List.reverse_cons, List.map_append] at hsymbols
    rw [hn, List.drop_succ_cons] at hfollows
    obtain ⟨j, hj⟩ := hfollows.movesOver
    have hrhs : r.rhs = (s.take n).reverse.map (·.entry.symbol) ++ [.nonterminal a] := by
      rw [← hsymbols, List.map_singleton, ha]
    exact .last hr hrhs rfl (hp.walk n) hmove hj hfollows

theorem completed_of_reduce (hshows : Shows start rules s.state items)
    (hfollows : ∀ i a l, Follows start rules i a l → follows a l = true)
    (hinsert : mayInsert rules follows l items = false) {r : Rule}
    (h : (l, .reduce r) ∈ ((ofRules start rules).state s.state).actions) :
    ⟨r, r.rhs.length⟩ ∈ completed follows l items := by
  obtain ⟨-, hr, i, hwalk, hfollow⟩ := mem_reduces.mp h
  have hl := hfollows _ _ _ hfollow
  rcases hshows.complete hr hwalk hfollow with hin | ⟨hempty, hopens⟩
  · refine List.mem_filter.mpr ⟨hin, ?_⟩
    have hnone : Dotted.next? ⟨r, r.rhs.length⟩ = none := List.getElem?_eq_none (Nat.le_refl _)
    rw [hnone, hl]
    rfl
  · -- there is no rule without symbols to be reduced
    unfold mayInsert at hinsert
    split at hinsert
    · exact nomatch hinsert
    · next set hset =>
      have hhas := (has_opened hset).mpr hopens
      cases hz : Nat.beq set 0 with
      | true =>
        rw [Nat.beq_eq] at hz
        rw [hz] at hhas
        exact absurd hhas not_has_zero
      | false =>
        rw [hz, cond_false, List.any_eq_false] at hinsert
        refine absurd ?_ (hinsert r (List.mem_filter.mpr ⟨hr, by rw [hempty]; rfl⟩))
        rw [Bool.eq_false_iff.mpr fun hlacks => lacks_iff.mp hlacks hhas, hl]
        rfl

theorem mem_rules_of_shows (hshows : Shows start rules s.state items) {d : Dotted} (hd : d ∈ items)
    (hopening : d.rule ≠ openingRule start) : d.rule ∈ rules := by
  obtain ⟨kernel, -, hitems⟩ := hshows
  obtain ⟨n, hn, -⟩ := (hitems d).mp hd
  exact List.mem_of_getElem? ((rules_sourceOf hn).resolve_right fun h => hopening h.2)

/-- A reduction of the pile is one of the stack: it leads to the state over the nonterminal of the
rule, and it is what the state does if the lookahead follows this nonterminal. -/
structure Reduces (start : Nonterminal) (rules : List Rule) (l : Lookahead) (s : Stack) (r : Rule)
    (c : Cell) (p : Pile) (top : Level) (rest : Stack) : Prop where
  reduce : s.reduce? (ofRules start rules) r = some (top :: rest)
  symbol : top.entry.symbol = .nonterminal r.lhs
  entry : c.entry = top.entry
  moves : MovesOver start rules rest.state (.nonterminal r.lhs) top.state
  below : Pictures start rules p rest
  pictures : Pictures start rules (c :: p) (top :: rest)
  ready : Follows start rules rest.state r.lhs l → Ready start rules s l
  action : Ready start rules s l → (ofRules start rules).action? s.state l = some (.reduce r)

/-- The only rule that may be reduced is reduced. -/
theorem action?_of_completed (hp : Pictures start rules p s)
    (hfollows : ∀ i a l, Follows start rules i a l → follows a l = true)
    (hinsert : mayInsert rules follows l (p.items start) = false) {d : Dotted}
    (hcompleted : completed follows l (p.items start) = [d])
    (hshift : NoShift start rules s.state l) (hready : Ready start rules s l) :
    (ofRules start rules).action? s.state l = some (.reduce d.rule) := by
  have hreduces : ∀ r, (l, .reduce r) ∈ ((ofRules start rules).state s.state).actions →
      r = d.rule := by
    intro r hr
    have hin := completed_of_reduce hp.shows hfollows hinsert hr
    rw [hcompleted, List.mem_singleton] at hin
    rw [← hin]
  cases hready with
  | shift hl hmove => exact absurd hmove (hshift _ hl _)
  | @reduce r hr _ hsymbols hfollow =>
    have hwalk := hp.walk r.rhs.length
    rw [hsymbols] at hwalk
    obtain ⟨x, hx⟩ := exists_lookup_of_mem (mem_reduces.mpr ⟨hshift, hr, _, hwalk, hfollow⟩)
    have hx' : (ofRules start rules).action? s.state l = some x := hx
    cases x with
    | shift j =>
      obtain ⟨t, ht, hmove⟩ := movesOver_of_action? hx'
      exact absurd hmove (hshift t ht j)
    | reduce r' => rw [hx', hreduces r' (mem_of_lookup hx)]

theorem reduces_of_reduction? (hp : Pictures start rules p s)
    (hfollows : ∀ i a l, Follows start rules i a l → follows a l = true)
    (hshift : NoShift start rules s.state l) {r : Rule} {c : Cell} {below : Pile}
    (h : reduction? start rules follows l p = some (r, c, below)) :
    ∃ top rest, Reduces start rules l s r c below top rest := by
  unfold reduction? at h
  split at h
  · exact nomatch h
  next hinsert =>
  split at h
  · next d hcompleted =>
    dsimp only at h
    split at h
    · next hcheck =>
      split at h
      · next k ks hafter =>
        obtain ⟨rfl, heq⟩ := Prod.mk.inj (Option.some.inj h)
        obtain ⟨rfl, rfl⟩ := Prod.mk.inj heq
        rw [Bool.and_eq_true, Bool.and_eq_true, bne_iff_ne, Bool.not_eq_true',
          List.isEmpty_eq_false_iff, beq_iff_eq] at hcheck
        obtain ⟨⟨hopening, hne⟩, hsymbols⟩ := hcheck
        have hd : d ∈ completed follows l (p.items start) := by
          rw [hcompleted]
          exact List.mem_singleton.mpr rfl
        have hr := mem_rules_of_shows hp.shows (List.mem_filter.mp hd).1 hopening
        have hbelow := hp.drop d.rule.rhs.length
        obtain ⟨j, hj⟩ := hbelow.shows.exists_move hafter (List.cons_ne_nil _ _)
        have hsymbol := symbol_combine d.rule
          ((p.take d.rule.rhs.length).reverse.map Cell.entry)
        refine ⟨⟨j, _⟩, s.drop d.rule.rhs.length, ?_, hsymbol, rfl, hj, hbelow,
          .cons hbelow (hbelow.shows.move hafter hj) rfl (hsymbol ▸ hj), .reduce hr hne ?_,
          action?_of_completed hp hfollows (Bool.eq_false_iff.mpr hinsert) hcompleted hshift⟩
        · unfold Stack.reduce?
          dsimp only
          rw [← hp.entries_reverse, if_pos (beq_iff_eq.mpr hsymbols), hj.goto?]
          rfl
        · rw [hp.entries_reverse, List.map_map] at hsymbols
          exact hsymbols
      · exact nomatch h
    · exact nomatch h
  · exact nomatch h

/-- What is settled is what comes of a stack. -/
inductive Settled.Meets (start : Nonterminal) (rules : List Rule) : Settled → Stack.Outcome → Prop
  | shifted {p : Pile} {s : Stack} : Pictures start rules p s →
      Meets start rules (.shifted p) (.shifted s)
  | accepted (e : Entry) : Meets start rules (.accepted e) (.accepted e)

theorem Settled.Meets.accepted_eq {e : Entry} {out : Stack.Outcome}
    (h : (Settled.accepted e).Meets start rules out) : out = .accepted e := by
  cases h
  rfl

theorem Settled.Meets.exists_shifted {out : Stack.Outcome}
    (h : (Settled.shifted p).Meets start rules out) :
    ∃ s, out = .shifted s ∧ Pictures start rules p s := by
  cases h with
  | shifted hp => exact ⟨_, rfl, hp⟩

theorem offer_of_reduce {a : Automaton} {fuel : Nat} {r : Rule} {top : Level} {below : Stack}
    (haction : a.action? s.state l = some (.reduce r))
    (hreduce : s.reduce? a r = some (top :: below)) :
    s.offer a l t? (fuel + 1) =
      if l == .endOfInput && top.state == a.accepting then .accepted top.entry
      else Stack.offer a l t? fuel (top :: below) := by
  rw [Stack.offer, haction]
  dsimp only
  rw [hreduce]

/-- A reduction to the start symbol at the end of the input accepts it if nothing is below. -/
theorem Reduces.accepts {r : Rule} {c : Cell} {below : Pile} {top : Level}
    (h : Reduces start rules .endOfInput s r c below top []) (hstart : r.lhs = start)
    (fuel : Nat) :
    Ready start rules s .endOfInput ∧
      s.offer (ofRules start rules) .endOfInput none (fuel + 1) = .accepted c.entry := by
  subst hstart
  have hready := h.ready (.read (.endOfInput h.moves))
  refine ⟨hready, ?_⟩
  rw [offer_of_reduce (h.action hready) h.reduce, if_pos ?_, h.entry]
  rw [MovesOver.accepting h.moves, beq_self_eq_true, beq_self_eq_true]
  rfl

/-- After any other reduction the parser goes on with the stack that it leads to. -/
theorem Reduces.offer_eq {r : Rule} {c : Cell} {below : Pile} {top : Level} {rest : Stack}
    {fuel : Nat} (h : Reduces start rules (lookahead t?) s r c below top rest)
    (hend : ¬ (t?.isNone && r.lhs == start) = true)
    (hready : Ready start rules s (lookahead t?)) :
    s.offer (ofRules start rules) (lookahead t?) t? (fuel + 1) =
      Stack.offer (ofRules start rules) (lookahead t?) t? fuel (top :: rest) := by
  rw [offer_of_reduce (h.action hready) h.reduce, if_neg fun haccepts => hend ?_]
  -- the accepting state is entered over the start symbol only
  rw [Bool.and_eq_true, beq_iff_eq, beq_iff_eq] at haccepts
  have hgoto := h.moves.goto?
  rw [haccepts.2] at hgoto
  rw [eq_start_of_goto? hgoto, beq_self_eq_true, Bool.and_true]
  cases t? with
  | none => rfl
  | some t => exact nomatch haccepts.1

/-- The parser does what settling says. -/
theorem settle_spec (hfollows : ∀ i a l, Follows start rules i a l → follows a l = true)
    {fuel : Nat} {out : Settled} (hp : Pictures start rules p s)
    (h : settle start rules follows t? fuel p = some out) :
    Ready start rules s (lookahead t?) ∧
      out.Meets start rules (s.offer (ofRules start rules) (lookahead t?) t? fuel) := by
  induction fuel generalizing p s with
  | zero => exact nomatch h
  | succ fuel ih =>
    rw [settle] at h
    split at h
    · exact nomatch h
    · next d ds hreading =>
      -- an item reads the token
      obtain ⟨t, rfl, rfl⟩ := Option.map_eq_some_iff.mp h
      have hafter : after rules (.terminal t.terminal) (p.items start) = some (d :: ds) := hreading
      obtain ⟨j, hj⟩ := hp.shows.exists_move hafter (List.cons_ne_nil _ _)
      have haction : (ofRules start rules).action? s.state (lookahead (some t)) =
        some (.shift j) := hj.action?
      refine ⟨.shift rfl hj, ?_⟩
      rw [Stack.offer, haction]
      exact .shifted (.cons hp (hp.shows.move hafter hj) rfl hj)
    · next hreading =>
      have hshift : NoShift start rules s.state (lookahead t?) := by
        intro t ht j
        rw [ht] at hreading
        exact hp.shows.stays hreading
      split at h
      · exact nomatch h
      next r c below hreduction =>
      obtain ⟨top, rest, hreduces⟩ := reduces_of_reduction? hp hfollows hshift hreduction
      split at h
      · next hend =>
        rw [Bool.and_eq_true, Option.isNone_iff_eq_none, beq_iff_eq] at hend
        obtain ⟨rfl, hstart⟩ := hend
        split at h
        · next hbottom =>
          obtain rfl := Option.some.inj h
          have hnil : rest = [] := by
            rw [← List.length_eq_zero_iff, ← hreduces.below.length, List.isEmpty_iff.mp hbottom]
            rfl
          subst hnil
          obtain ⟨hready, hoffer⟩ := hreduces.accepts hstart fuel
          exact ⟨hready, hoffer ▸ .accepted _⟩
        · exact nomatch h
      · next hend =>
        -- that the lookahead follows the rule is known from what comes after the reduction
        obtain ⟨hnext, hmeets⟩ := ih hreduces.pictures h
        have hready := hreduces.ready
          (hnext.follows_entry hreduces.below hreduces.symbol hreduces.moves)
        exact ⟨hready, hreduces.offer_eq hend hready ▸ hmeets⟩

end Settling

/-! ## Finding a token -/

section Find

variable (may : Terminal → Bool)

/-- The terminals of a fixed text. -/
def fixedTexts : List Terminal := Terminal.all.filter fun t => t.literal?.isSome

/-- The two quotes, which are tried last. -/
def quotes : List Terminal := [.singleQuote, .doubleQuote]

/-- The first of some terminals that may be tried and matches. -/
def foremost (cs : List Char) : List Terminal → Option (Terminal × Nat)
  | [] => none
  | t :: ts =>
    match t.match? cs with
    | some n => if may t then some (t, n) else foremost cs ts
    | none => foremost cs ts

/-- Whether a fixed text is found whatever else is tried: the classes that match cover it, and no
other fixed text matches. -/
def prevails (cs : List Char) (n : Nat) (u : Terminal) : Bool :=
  u.match? cs == some n && u.literal? == some (String.ofList (cs.take n)) &&
    Terminal.classesInOrder.all (fun t => !may t ||
      if t.covers u then !t.isIgnored && t.match? cs == some n else t.match? cs == none) &&
    (fixedTexts ++ quotes).all fun t => t == u || !may t ||
      t.match? cs == none && t.literal? != u.literal? && !t.covers u

/-- The next token, if it is clear which one is found, or nothing at the end of the text. -/
def find : Nat → Cursor → Option (Option (Token × Cursor))
  | 0, _ => none
  | fuel + 1, c =>
    if c.rest.isEmpty then some none
    else
      match foremost may c.rest Terminal.classesInOrder with
      | some (cls, n) =>
        if cls.isIgnored then find fuel (c.skip n)
        else
          match fixedTexts.find? fun u =>
            u.literal? == some (String.ofList (c.rest.take n)) && cls.covers u && may u with
          | some u => if prevails may c.rest n u then some (some (c.token u n, c.skip n)) else none
          | none => some (some (c.token cls n, c.skip n))
      | none =>
        match foremost may c.rest fixedTexts with
        | some (u, n) =>
          if prevails may c.rest n u then some (some (c.token u n, c.skip n)) else none
        | none => none

end Find

section Found

open Scanner

variable {may : Terminal → Bool} {ts : List Terminal} {cs : List Char} {cls t u : Terminal}
  {n : Nat} {c : Cursor}

theorem mem_inOrder : t ∈ Terminal.inOrder ↔
    t ∈ Terminal.classesInOrder ∨ t ∈ fixedTexts ++ quotes := by
  unfold Terminal.inOrder fixedTexts quotes
  rw [List.append_assoc, List.mem_append, List.mem_append, List.mem_append, List.mem_mergeSort]

theorem literal?_of_isIgnored (h : t.isIgnored = true) : t.literal? = none := by
  cases t <;> first | rfl | exact nomatch h

theorem literal?_of_class (h : t ∈ Terminal.classesInOrder) : t.literal? = none := by
  have hall : Terminal.classesInOrder.all (fun t => t.literal?.isNone) = true := rfl
  exact Option.isNone_iff_eq_none.mp (List.all_eq_true.mp hall t h)

theorem covers_of_literal (h : u.literal? = none) : cls.covers u = false := by
  unfold Terminal.covers
  rw [h]

theorem mem_tried : t ∈ (ofTerminals ts).tried ↔ t ∈ Terminal.inOrder ∧
    (t ∈ ts ∨ t.isIgnored = true) ∧
    ∀ v ∈ Terminal.inOrder, v ∈ ts ∨ v.isIgnored = true → v.covers t = false := by
  unfold ofTerminals
  dsimp only
  rw [List.mem_filter, List.mem_filter, Bool.not_eq_true', List.any_eq_false]
  simp only [List.mem_filter, Bool.or_eq_true, List.contains_iff_mem, Bool.not_eq_true, and_imp,
    and_assoc]

theorem mem_covered : t ∈ (ofTerminals ts).covered ↔ t ∈ Terminal.inOrder ∧
    (t ∈ ts ∨ t.isIgnored = true) ∧
    ∃ v ∈ Terminal.inOrder, (v ∈ ts ∨ v.isIgnored = true) ∧ v.covers t = true := by
  unfold ofTerminals
  dsimp only
  rw [List.mem_filter, List.mem_filter, List.any_eq_true]
  simp only [List.mem_filter, Bool.or_eq_true, List.contains_iff_mem, and_assoc]

theorem foremost_eq_some {order : List Terminal} (h : foremost may cs order = some (t, n)) :
    ∃ before later, order = before ++ t :: later ∧ may t = true ∧ t.match? cs = some n ∧
      ∀ v ∈ before, may v = true → v.match? cs = none := by
  have hnext : ∀ {v : Terminal} {order : List Terminal}, (may v = true → v.match? cs = none) →
      (∃ before later, order = before ++ t :: later ∧ may t = true ∧ t.match? cs = some n ∧
        ∀ v ∈ before, may v = true → v.match? cs = none) →
      ∃ before later, v :: order = before ++ t :: later ∧ may t = true ∧ t.match? cs = some n ∧
        ∀ v ∈ before, may v = true → v.match? cs = none := by
    rintro v order hv ⟨before, later, rfl, ht, hmatch, hbefore⟩
    exact ⟨v :: before, later, rfl, ht, hmatch, List.forall_mem_cons.mpr ⟨hv, hbefore⟩⟩
  induction order with
  | nil => exact nomatch h
  | cons v order ih =>
    rw [foremost] at h
    split at h
    · next m hm =>
      split at h
      · next hmay =>
        obtain ⟨rfl, rfl⟩ := Prod.mk.inj (Option.some.inj h)
        exact ⟨[], order, rfl, hmay, hm, List.forall_mem_nil _⟩
      · next hmay => exact hnext (fun hv => absurd hv hmay) (ih h)
    · next hm => exact hnext (fun _ => hm) (ih h)

theorem firstMatch?_append {before later : List Terminal} (h : ∀ v ∈ before, v.match? cs = none) :
    firstMatch? cs (before ++ later) = firstMatch? cs later := by
  induction before with
  | nil => rfl
  | cons v before ih =>
    obtain ⟨hv, hbefore⟩ := List.forall_mem_cons.mp h
    rw [List.cons_append, firstMatch?, hv]
    exact ih hbefore

theorem exists_firstMatch? {order : List Terminal} (ht : t ∈ order) (h : t.match? cs = some n) :
    ∃ u m, firstMatch? cs order = some (u, m) ∧ u ∈ order := by
  induction order with
  | nil => exact absurd ht List.not_mem_nil
  | cons v order ih =>
    rw [firstMatch?]
    cases hv : v.match? cs with
    | some m => exact ⟨v, m, rfl, List.mem_cons_self⟩
    | none =>
      rcases List.mem_cons.mp ht with rfl | ht
      · rw [hv] at h
        cases h
      · obtain ⟨u, m, hfirst, hu⟩ := ih ht
        exact ⟨u, m, hfirst, List.mem_cons_of_mem _ hu⟩

/-- Everything that a scanner tries may be tried. -/
def Bounds (may : Terminal → Bool) (ts : List Terminal) : Prop :=
  ∀ t, t ∈ ts ∨ t.isIgnored = true → may t = true

/-- The first class that may be tried and matches is found, if it is tried. -/
theorem firstMatch?_of_foremost (hmay : Bounds may ts) (hcls : cls ∈ ts ∨ cls.isIgnored = true)
    (h : foremost may cs Terminal.classesInOrder = some (cls, n)) :
    firstMatch? cs (ofTerminals ts).tried = some (cls, n) := by
  obtain ⟨before, later, horder, -, hmatch, hbefore⟩ := foremost_eq_some h
  have hliteral : cls.literal? = none := literal?_of_class (by rw [horder]; simp)
  have hinOrder : Terminal.inOrder = before ++ cls :: (later ++
      ((Terminal.all.filter fun t => t.literal?.isSome).mergeSort
        (fun a b => (b.literal?.getD "").length ≤ (a.literal?.getD "").length) ++ quotes)) := by
    unfold Terminal.inOrder
    rw [horder, List.append_assoc, List.append_assoc, List.cons_append]
    rfl
  have hsplit : ∀ (p : Terminal → Bool) (l : List Terminal) (front back : List Terminal),
      p cls = true → l = front ++ cls :: back →
      l.filter p = front.filter p ++ cls :: back.filter p := by
    rintro p l front back hp rfl
    rw [List.filter_append, List.filter_cons, if_pos hp]
  have hpresent := hsplit (fun t => ts.contains t || t.isIgnored) _ _ _
    (by simpa [Bool.or_eq_true] using hcls) hinOrder
  obtain ⟨front, back, htried, hfront⟩ : ∃ front back,
      (ofTerminals ts).tried = front ++ cls :: back ∧
        ∀ t ∈ front, t ∈ before ∧ (t ∈ ts ∨ t.isIgnored = true) := by
    refine ⟨_, _, hsplit _ _ _ _ ?_ hpresent, fun t ht => ?_⟩
    · dsimp only
      rw [List.any_eq_false.mpr fun v _ => by
        rw [covers_of_literal hliteral]
        exact Bool.false_ne_true]
      rfl
    · obtain ⟨hbefore, hallowed⟩ := List.mem_filter.mp (List.mem_filter.mp ht).1
      exact ⟨hbefore, by simpa [Bool.or_eq_true] using hallowed⟩
  rw [htried, firstMatch?_append fun v hv => hbefore v (hfront v hv).1 (hmay v (hfront v hv).2),
    firstMatch?, hmatch]

/-- A token of a class keeps its terminal unless its text is a fixed one that may be read. -/
theorem named_of_free (hmay : Bounds may ts) {text : String}
    (h : ∀ u ∈ fixedTexts, u.literal? = some text → may u = true → cls.covers u = false) :
    (ofTerminals ts).named cls text = cls := by
  unfold named
  rw [List.find?_eq_none.mpr fun u hu hcheck => ?_]
  · rfl
  · obtain ⟨horder, hallowed, -⟩ := mem_covered.mp hu
    obtain ⟨hliteral, hcovers⟩ := Bool.and_eq_true_iff.mp hcheck
    rw [beq_iff_eq] at hliteral
    have hfixed : u ∈ fixedTexts := by
      rcases mem_inOrder.mp horder with hclass | hfixed
      · rw [literal?_of_class hclass] at hliteral
        exact nomatch hliteral
      · rcases List.mem_append.mp hfixed with hfixed | hquote
        · exact hfixed
        · have hnone : quotes.all (fun t => t.literal?.isNone) = true := rfl
          rw [Option.isNone_iff_eq_none.mp (List.all_eq_true.mp hnone u hquote)] at hliteral
          exact nomatch hliteral
    rw [h u hfixed hliteral (hmay u hallowed)] at hcovers
    exact nomatch hcovers

/-- What it means that a fixed text prevails. -/
structure Prevails (ts : List Terminal) (cs : List Char) (n : Nat) (u : Terminal) : Prop where
  matched : u.match? cs = some n
  literal : u.literal? = some (String.ofList (cs.take n))
  classes : ∀ t ∈ Terminal.classesInOrder, t ∈ ts ∨ t.isIgnored = true →
    t.covers u = true ∧ t.isIgnored = false ∧ t.match? cs = some n ∨
      t.covers u = false ∧ t.match? cs = none
  others : ∀ t ∈ fixedTexts ++ quotes, t ≠ u → t ∈ ts ∨ t.isIgnored = true →
    t.match? cs = none ∧ t.literal? ≠ u.literal? ∧ t.covers u = false

theorem prevails_spec (hmay : Bounds may ts) (h : prevails may cs n u = true) :
    Prevails ts cs n u := by
  unfold prevails at h
  rw [Bool.and_eq_true, Bool.and_eq_true, Bool.and_eq_true, beq_iff_eq, beq_iff_eq] at h
  obtain ⟨⟨⟨hmatch, hliteral⟩, hclasses⟩, hothers⟩ := h
  refine ⟨hmatch, hliteral, fun t ht hallowed => ?_, fun t ht hne hallowed => ?_⟩
  · have hcheck := List.all_eq_true.mp hclasses t ht
    rw [hmay t hallowed, Bool.not_true, Bool.false_or] at hcheck
    split at hcheck
    · next hcovers =>
      rw [Bool.and_eq_true, Bool.not_eq_true', beq_iff_eq] at hcheck
      exact .inl ⟨hcovers, hcheck⟩
    · next hcovers => exact .inr ⟨Bool.eq_false_iff.mpr hcovers, beq_iff_eq.mp hcheck⟩
  · have hcheck := List.all_eq_true.mp hothers t ht
    rw [hmay t hallowed, Bool.not_true, Bool.or_false, Bool.or_eq_true, beq_iff_eq] at hcheck
    have hcheck := hcheck.resolve_left hne
    rw [Bool.and_eq_true, Bool.and_eq_true, beq_iff_eq, bne_iff_ne, Bool.not_eq_true'] at hcheck
    exact ⟨hcheck.1.1, hcheck.1.2, hcheck.2⟩

namespace Prevails

variable (h : Prevails ts cs n u)

include h

theorem mem_order : u ∈ Terminal.inOrder := by
  refine mem_inOrder.mpr (.inr (List.mem_append_left _
    (List.mem_filter.mpr ⟨mem_terminals_all u, ?_⟩)))
  rw [h.literal]
  rfl

theorem not_covers (v : Terminal) : u.covers v = false := by
  unfold Terminal.covers
  rw [h.literal]
  split <;> simp

/-- What is tried and matches is the fixed text or a class that covers it. -/
theorem of_tried (ht : t ∈ (ofTerminals ts).tried) {m : Nat} (hmatch : t.match? cs = some m) :
    m = n ∧ t.isIgnored = false ∧ (t = u ∨ t.covers u = true) := by
  obtain ⟨horder, hallowed, -⟩ := mem_tried.mp ht
  rcases mem_inOrder.mp horder with hclass | hother
  · rcases h.classes t hclass hallowed with ⟨hcovers, hignored, hn⟩ | ⟨-, hnone⟩
    · exact ⟨Option.some.inj (hmatch.symm.trans hn), hignored, .inr hcovers⟩
    · exact nomatch hmatch.symm.trans hnone
  · by_cases heq : t = u
    · subst heq
      refine ⟨Option.some.inj (hmatch.symm.trans h.matched),
        Bool.eq_false_iff.mpr fun hignored => ?_, .inl rfl⟩
      exact nomatch h.literal.symm.trans (literal?_of_isIgnored hignored)
    · exact nomatch hmatch.symm.trans (h.others t hother heq hallowed).1

theorem exists_tried (hu : u ∈ ts) :
    ∃ t ∈ (ofTerminals ts).tried, t.match? cs = some n := by
  by_cases hcovered :
      ∃ v ∈ Terminal.inOrder, (v ∈ ts ∨ v.isIgnored = true) ∧ v.covers u = true
  · obtain ⟨v, horder, hallowed, hcovers⟩ := hcovered
    rcases mem_inOrder.mp horder with hclass | hother
    · rcases h.classes v hclass hallowed with ⟨-, -, hn⟩ | ⟨hnot, -⟩
      · exact ⟨v, mem_tried.mpr ⟨horder, hallowed, fun _ _ _ =>
          covers_of_literal (literal?_of_class hclass)⟩, hn⟩
      · rw [hnot] at hcovers
        exact nomatch hcovers
    · by_cases heq : v = u
      · rw [heq, h.not_covers u] at hcovers
        exact nomatch hcovers
      · rw [(h.others v hother heq hallowed).2.2] at hcovers
        exact nomatch hcovers
  · refine ⟨u, mem_tried.mpr ⟨h.mem_order, .inl hu, fun v horder hallowed => ?_⟩, h.matched⟩
    exact Bool.eq_false_iff.mpr fun hcovers => hcovered ⟨v, horder, hallowed, hcovers⟩

/-- A token of a class that covers the fixed text is named for it. -/
theorem named_eq (hu : u ∈ ts) (ht : t ∈ (ofTerminals ts).tried) (heq : t = u ∨ t.covers u = true) :
    (ofTerminals ts).named t (String.ofList (cs.take n)) = u := by
  unfold named
  rcases heq with rfl | hcovers
  · rw [List.find?_eq_none.mpr fun v _ => by simp [h.not_covers v]]
    rfl
  · obtain ⟨horder, hallowed, -⟩ := mem_tried.mp ht
    have hcovered : u ∈ (ofTerminals ts).covered :=
      mem_covered.mpr ⟨h.mem_order, .inl hu, t, horder, hallowed, hcovers⟩
    cases hfind : (ofTerminals ts).covered.find? fun v =>
        v.literal? == some (String.ofList (cs.take n)) && t.covers v with
    | none => exact absurd (by simp [h.literal, hcovers]) (List.find?_eq_none.mp hfind u hcovered)
    | some v =>
      have hnamed := List.find?_some hfind
      rw [Bool.and_eq_true, beq_iff_eq] at hnamed
      obtain ⟨hliteral, -⟩ := hnamed
      obtain ⟨hv, hvallowed, -⟩ := mem_covered.mp (List.mem_of_find?_eq_some hfind)
      rw [Option.getD_some]
      by_contra hne
      rcases mem_inOrder.mp hv with hclass | hother
      · exact nomatch hliteral.symm.trans (literal?_of_class hclass)
      · exact (h.others v hother hne hvallowed).2.1 (hliteral.trans h.literal.symm)

end Prevails

/-- A fixed text that prevails is the next token. -/
theorem Prevails.next_eq (h : Prevails ts c.rest n u) (hu : u ∈ ts) (hne : ¬ c.rest.isEmpty = true)
    (fuel : Nat) : (ofTerminals ts).next (fuel + 1) c = .token (c.token u n) (c.skip n) := by
  obtain ⟨v, hv, hmatch⟩ := h.exists_tried hu
  obtain ⟨w, m, hfirst, hw⟩ := exists_firstMatch? hv hmatch
  obtain ⟨rfl, hignored, hcases⟩ := h.of_tried hw (firstMatch?_match? hfirst)
  rw [next, if_neg hne, hfirst]
  dsimp only
  rw [if_neg (by rw [hignored]; exact Bool.false_ne_true), h.named_eq hu hw hcases]

/-- The first class that matches is the next token, if its text is no fixed one. -/
theorem next_of_class (hmay : Bounds may ts) (hcls : cls ∈ ts)
    (hforemost : foremost may c.rest Terminal.classesInOrder = some (cls, n))
    (hignored : ¬ cls.isIgnored = true)
    (hfree : ∀ u ∈ fixedTexts, u.literal? = some (String.ofList (c.rest.take n)) →
      may u = true → cls.covers u = false)
    (hne : ¬ c.rest.isEmpty = true) (fuel : Nat) :
    (ofTerminals ts).next (fuel + 1) c = .token (c.token cls n) (c.skip n) := by
  rw [next, if_neg hne, firstMatch?_of_foremost hmay (.inl hcls) hforemost]
  dsimp only
  rw [if_neg hignored, named_of_free hmay hfree]

/-- What is found is what the scanner of a state finds, if the state allows it. -/
theorem next_of_find (hmay : Bounds may ts) {fuel : Nat} {found : Option (Token × Cursor)}
    (h : find may fuel c = some found) (hfound : ∀ t c', found = some (t, c') → t.terminal ∈ ts) :
    (found = none → ∃ c', (ofTerminals ts).next fuel c = .nothing c') ∧
      ∀ t c', found = some (t, c') → (ofTerminals ts).next fuel c = .token t c' := by
  induction fuel generalizing c with
  | zero => exact nomatch h
  | succ fuel ih =>
    have hprevails : ∀ {u : Terminal} {n : Nat}, ¬ c.rest.isEmpty = true →
        (if prevails may c.rest n u then some (some (c.token u n, c.skip n)) else none) =
          some found →
        (found = none → ∃ c', (ofTerminals ts).next (fuel + 1) c = .nothing c') ∧
          ∀ t c', found = some (t, c') → (ofTerminals ts).next (fuel + 1) c = .token t c' := by
      intro u n hne h
      split at h
      · next hcheck =>
        obtain rfl := Option.some.inj h
        refine ⟨nofun, fun t c' heq => ?_⟩
        obtain ⟨rfl, rfl⟩ := Prod.mk.inj (Option.some.inj heq)
        exact (prevails_spec hmay hcheck).next_eq (hfound _ _ rfl) hne fuel
      · exact nomatch h
    rw [find] at h
    split at h
    · next hempty =>
      obtain rfl := Option.some.inj h
      refine ⟨fun _ => ⟨c, ?_⟩, nofun⟩
      rw [next, if_pos hempty]
    · next hne =>
      split at h
      · next cls n hforemost =>
        split at h
        · next hignored =>
          rw [next, if_neg hne, firstMatch?_of_foremost hmay (.inr hignored) hforemost]
          dsimp only
          rw [if_pos hignored]
          exact ih h
        · next hignored =>
          split at h
          · exact hprevails hne h
          · next hnone =>
            obtain rfl := Option.some.inj h
            refine ⟨nofun, fun t c' heq => ?_⟩
            obtain ⟨rfl, rfl⟩ := Prod.mk.inj (Option.some.inj heq)
            refine next_of_class hmay (hfound _ _ rfl) hforemost hignored
              (fun u hu hliteral hmayu => ?_) hne fuel
            have hcheck := List.find?_eq_none.mp hnone u hu
            rw [hliteral, beq_self_eq_true, hmayu, Bool.true_and, Bool.and_true] at hcheck
            exact Bool.eq_false_iff.mpr hcheck
      · split at h
        · exact hprevails hne h
        · exact nomatch h

end Found

/-! ## Reading a text -/

section Read

variable (start : Nonterminal) (rules : List Rule) (follows : Nonterminal → Lookahead → Bool)

/-- The terminals that may be tried in the state with some items: what an item reads, and what may
follow a rule that has been read. -/
def mayTry (items : List Dotted) (t : Terminal) : Bool :=
  t.isIgnored || (after rules (.terminal t) items != some []) ||
    mayInsert rules follows (.terminal t) items || !(completed follows (.terminal t) items).isEmpty

/-- Reads to the end of a text, as long as it is clear what there is to do. -/
def readOn : Nat → Pile → Cursor → Option Entry
  | 0, _, _ => none
  | fuel + 1, p, c =>
    match find (mayTry rules follows (p.items start)) (c.rest.length + 1) c with
    | none => none
    | some none =>
      match settle start rules follows none (32 * (p.length + 4)) p with
      | some (.accepted e) => some e
      | _ => none
    | some (some (t, c')) =>
      match settle start rules follows (some t) (32 * (p.length + 4)) p with
      | some (.shifted p') => readOn fuel p' c'
      | _ => none

/-- Reads a whole text. -/
def readText (text : List Char) : Option Entry :=
  readOn start rules follows (text.length + 2) [] (.ofText text)

variable {start rules follows}
variable {terminals : List Terminal} {o : Origin} {p : Pile} {s : Stack}

theorem bounds_mayTry (hfollows : ∀ i a l, Follows start rules i a l → follows a l = true)
    (hp : Pictures start rules p s) : Bounds (mayTry rules follows (p.items start))
      ((ofRules start rules).terminals s.state) := by
  rintro t (ht | hignored)
  · unfold mayTry
    obtain ⟨l, hl, heq⟩ := List.mem_filterMap.mp ht
    obtain ⟨⟨l, x⟩, hx, rfl⟩ := List.mem_map.mp hl
    cases l with
    | endOfInput => exact nomatch heq
    | terminal u =>
      obtain rfl : u = t := Option.some.inj heq
      obtain ⟨x, hx⟩ := exists_lookup_of_mem hx
      have haction : (ofRules start rules).action? s.state (.terminal u) = some x := hx
      cases x with
      | shift j =>
        obtain ⟨t, ht, hmove⟩ := movesOver_of_action? haction
        obtain rfl := Lookahead.terminal.inj ht
        have hafter : after rules (.terminal u) (p.items start) ≠ some [] := fun hafter =>
          hp.shows.stays hafter hmove
        simp [hafter]
      | reduce r =>
        cases hinsert : mayInsert rules follows (.terminal u) (p.items start) with
        | true => simp
        | false =>
          have hin := completed_of_reduce hp.shows hfollows hinsert (mem_of_lookup hx)
          have hne := List.isEmpty_eq_false_iff.mpr (List.ne_nil_of_mem hin)
          rw [hne]
          simp
  · unfold mayTry
    rw [hignored]
    rfl

variable (terminals) in
theorem scanner_of_pictures (hp : Pictures start rules p s) :
    (Machine.ofGrammar start rules terminals).scanner s.state =
      Scanner.ofTerminals ((ofRules start rules).terminals s.state) := by
  obtain ⟨kernel, hkernel, -⟩ := hp.shows
  have hlt : s.state < (statesOf start rules).moves.size := isExplored hkernel
  refine scanner_ofGrammar ?_
  rw [states_ofRules]
  simpa using hlt

/-- The parser reads on as it is read directly, and finds no error. -/
theorem run_of_readOn (hfollows : ∀ i a l, Follows start rules i a l → follows a l = true)
    {limit fuel : Nat} {c : Cursor} {e : Entry} (hp : Pictures start rules p s)
    (h : readOn start rules follows fuel p c = some e) (last : Option Token) :
    run (.ofGrammar start rules terminals) o limit fuel ⟨s, c, last, []⟩ = ([], some e) := by
  induction fuel generalizing p s c last with
  | zero => exact nomatch h
  | succ fuel ih =>
    have hmay := bounds_mayTry hfollows hp
    have hscanner := scanner_of_pictures terminals hp
    have hpatience : 32 * (p.length + 4) = s.patience := by
      rw [hp.length]
      rfl
    rw [readOn, hpatience] at h
    split at h
    · exact nomatch h
    · next hfind =>
      split at h
      · next e' hsettle =>
        obtain rfl := Option.some.inj h
        have hfinish : s.finish (Machine.ofGrammar start rules terminals).automaton =
            .accepted e' := (settle_spec hfollows hp hsettle).2.accepted_eq
        obtain ⟨c', hscan⟩ := (next_of_find hmay hfind nofun).1 rfl
        have hscan' : ((Machine.ofGrammar start rules terminals).scanner s.state).scan c =
            .nothing c' := hscanner ▸ hscan
        have hstep : step (.ofGrammar start rules terminals) ⟨s, c, last, []⟩ =
            .done ⟨s, c', last, []⟩ e' := by
          unfold step
          dsimp only
          rw [hscan']
          dsimp only
          rw [hfinish]
        rw [run, hstep]
      · exact nomatch h
    · next t c' hfind =>
      split at h
      · next p' hsettle =>
        obtain ⟨hready, hmeets⟩ := settle_spec hfollows hp hsettle
        obtain ⟨s', hoffer, hp'⟩ := hmeets.exists_shifted
        have hshift : s.shift (Machine.ofGrammar start rules terminals).automaton t =
            .shifted s' := hoffer
        have ht : t.terminal ∈ (ofRules start rules).terminals s.state := hready.mem_terminals hp
        have hscan := (next_of_find hmay hfind fun k d heq => by
          rw [← (Prod.mk.inj (Option.some.inj heq)).1]
          exact ht).2 t c' rfl
        have hscan' : ((Machine.ofGrammar start rules terminals).scanner s.state).scan c =
            .token t c' := hscanner ▸ hscan
        have hstep : step (.ofGrammar start rules terminals) ⟨s, c, last, []⟩ =
            .read ⟨s', c', some t, []⟩ := by
          unfold step
          dsimp only
          rw [hscan']
          dsimp only
          rw [hshift]
        rw [run, hstep]
        exact ih hp' h (some t)
      · exact nomatch h

/-- A text that can be read directly is parsed without errors. -/
theorem parse_of_readText (hfollows : ∀ i a l, Follows start rules i a l → follows a l = true)
    {limit : Int} {text : List Char} {e : Entry}
    (h : readText start rules follows text = some e) :
    parse (.ofGrammar start rules terminals) o limit text = ([], (e.trees false).head?) := by
  unfold parse
  dsimp only
  rw [run_of_readOn hfollows .nil h none]
  rfl

end Read

/-- The tree of a text of the language that can be read directly. -/
def readTree (start : Nonterminal) (text : List Char) : Option Tree :=
  (readText start Grammar.rules Grammar.mayFollow text).bind fun e => (e.trees false).head?

theorem parse_of_readTree {start : Nonterminal} (hstart : start ≠ .placeholderName)
    {terminals : List Terminal} {o : Origin} {limit : Int} {text : List Char} {t : Tree}
    (h : readTree start text = some t) :
    parse (.ofGrammar start Grammar.rules terminals) o limit text = ([], some t) := by
  obtain ⟨e, he, ht⟩ := Option.bind_eq_some_iff.mp h
  rw [parse_of_readText (fun _ _ _ => Grammar.follows_mayFollow hstart) he, ht]

end Parse
end Wdl
