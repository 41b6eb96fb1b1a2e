import Wdl.Language
import Wdl.Proofs.Grammar.Ends
import Wdl.Proofs.Grammar.Legible
import Wdl.Proofs.Grammar.Phrase
import Wdl.Proofs.Parse.Traced

/-!
Commands in a text.

`Pieces` are runs of text and placeholders of a command, each of which begins where the one before
it ends; and a command of a parse without errors is all made of such pieces, from the end of its
opening to the beginning of its closing, `Commanded`.  Nothing between them is passed over, because
a run of text is allowed after the opening and after every placeholder, and ends where nothing can
be passed over.

The tree of a document that is read without errors is made of tasks, each of which has one command
among other things, and of parts that have nothing to do with commands.
-/

namespace Wdl

open Automaton Parse

namespace Terminal

/-- The text of an opening of a placeholder. -/
theorem opens_of_match? {c : CommandStyle} {cs : List Char} {n : Nat}
    (h : c.placeholderOpener.match? cs = some n) : c.opensPlaceholder cs = true := by
  cases c with
  | brace =>
    match cs, h with
    | [], h => exact nomatch h
    | [_], h => exact nomatch h
    | a :: b :: rest, h =>
      change (if (a == '~' || a == '$') && b == '\x7b' then some 2 else none) = some n at h
      split at h
      · next hab => exact hab
      · exact nomatch h
  | heredoc =>
    rw [CommandStyle.placeholderOpener, match?_of_literal rfl] at h
    obtain ⟨hn, hpos⟩ := Lexer.positive_eq_some h
    cases hfixed : Lexer.fixed? "~\x7b".toList cs with
    | none =>
      rw [hfixed] at hpos
      exact absurd hpos (Nat.lt_irrefl 0)
    | some m =>
      obtain ⟨-, rest, hrest⟩ := Lexer.fixed?_eq_some.mp hfixed
      rw [← hrest]
      rfl

end Terminal

/-- A token of a fixed text has that text. -/
theorem Token.Found.fixed {text : List Char} {k : Token} (h : k.Found text) {s : String}
    (hs : k.terminal.literal? = some s) :
    k.stop.offset = k.start.offset + s.length ∧ s.toList <+: text.drop k.start.offset := by
  have htaken := h.taken
  rw [Terminal.match?_of_literal hs] at htaken
  obtain ⟨hn, hpos⟩ := Lexer.positive_eq_some htaken
  cases hfixed : Lexer.fixed? s.toList (text.drop k.start.offset) with
  | none =>
    rw [hfixed] at hpos
    exact absurd hpos (Nat.lt_irrefl 0)
  | some m =>
    obtain ⟨rfl, hprefix⟩ := Lexer.fixed?_eq_some.mp hfixed
    rw [hfixed, Option.getD_some, String.length_toList] at hn
    have hlt := h.start_lt
    exact ⟨by omega, hprefix⟩

/-- An extent from the opening of a placeholder to a closing brace. -/
structure Delimited (c : CommandStyle) (text : List Char) (x : Extent) : Prop where
  opens : c.opensPlaceholder (text.drop x.start.offset) = true
  closes : ∃ i, x.stop.offset = i + 1 ∧ x.start.offset < i ∧ text[i]? = some '\x7d'

/-- Runs of text and placeholders, each of which begins where the one before it ends. -/
inductive Pieces (c : CommandStyle) (text : List Char) : Nat → List Tree → Nat → Prop
  | nil (i : Nat) : Pieces c text i [] i
  | fragment {k : Token} {ts : List Tree} {j : Nat} : k.terminal = c.fragment → k.Found text →
    Pieces c text k.stop.offset ts j → Pieces c text k.start.offset (.token k :: ts) j
  | placeholder {x : Extent} {t : Tree} {ts : List Tree} {j : Nat} : Delimited c text x →
    Phrase .placeholder t → Commandless t →
      (∀ s ∈ t.spots, Layout.ordered.within s.2 x.span) → Pieces c text x.stop.offset ts j →
        Pieces c text x.start.offset (.node .commandPlaceholder (some x) [t] :: ts) j

theorem Pieces.append {c : CommandStyle} {text : List Char} {i j k : Nat} {ts us : List Tree}
    (h : Pieces c text i ts j) (h' : Pieces c text j us k) : Pieces c text i (ts ++ us) k := by
  induction h with
  | nil => exact h'
  | fragment hk hfound _ ih => exact .fragment hk hfound (ih h')
  | placeholder hx ht hless hspots _ ih => exact .placeholder hx ht hless hspots (ih h')

/-- A command whose text is made of pieces. -/
inductive Commanded (text : List Char) : Tree → Prop
  | mk (c : CommandStyle) {first opener closer : Token} {ts : List Tree} :
    first.terminal = .commandKw → opener.terminal = c.opener → closer.terminal = c.closer →
      first.Found text → opener.Found text → closer.Found text →
        Passes (text.drop first.stop.offset) (text.drop opener.start.offset) →
          Pieces c text opener.stop.offset ts closer.start.offset →
            Commanded text (.node .command (some ⟨first.start, closer.stop⟩) ts)

namespace Grammar

variable {text : List Char} {c : CommandStyle} {x : Strand} {rule : Rule} {parts : List Strand}
  {m : Nat}

/-- The extent from the first of some tokens to the last. -/
def extentOf (xs : List Shift) : Option Extent :=
  Extent.hull (xs.map fun y => some (.ofToken y.1))

theorem extentOf_ends (a z : Shift) (ys : List Shift) :
    extentOf (a :: (ys ++ [z])) = some ⟨a.1.start, z.1.stop⟩ := by
  have hids : ((a :: (ys ++ [z])).map fun y => some (Extent.ofToken y.1)).filterMap id =
      (a :: ys).map (fun y => Extent.ofToken y.1) ++ [.ofToken z.1] := by
    simp [List.filterMap_map]
  unfold extentOf Extent.hull
  rw [hids, List.getLast?_concat]
  rfl

/-- The trees of a strand that a rule makes. -/
theorem trees_of_madeBy (hx : x.Traced .document rules) (h : x.MadeBy .document rules rule parts m)
    (v : Bool) : x.entry.trees v =
      wrap rule (extentOf x.shifts) (parts.flatMap fun p => p.entry.trees rule.verbatim) := by
  have hextent := hx.derives.extent_eq
  rw [h.entry, extent_combine] at hextent
  rw [h.entry, trees_combine, hextent, List.flatMap_map, List.map_map]
  rfl

/-! ## Rules of commands -/

theorem eq_placeholderRule (hrule : rule ∈ rules) (h : rule.lhs = c.placeholder) :
    rule = c.placeholderRule := by
  have hcheck : ∀ c : CommandStyle, rules.all (fun r => r.lhs != c.placeholder ||
      r == c.placeholderRule) = true := by
    intro c
    cases c <;> decide +kernel
  have := List.all_eq_true.mp (hcheck c) rule hrule
  simpa [h] using this

theorem mem_partsRules (hrule : rule ∈ rules) (h : rule.lhs = c.parts) : rule ∈ c.partsRules := by
  have hcheck : ∀ c : CommandStyle, rules.all (fun r => r.lhs != c.parts ||
      c.partsRules.contains r) = true := by
    intro c
    cases c <;> decide +kernel
  have := List.all_eq_true.mp (hcheck c) rule hrule
  simpa [h] using this

theorem mem_commandRules (hrule : rule ∈ rules) (h : rule.lhs = c.command) :
    rule ∈ c.commandRules := by
  have hcheck : ∀ c : CommandStyle, rules.all (fun r => r.lhs != c.command ||
      c.commandRules.contains r) = true := by
    intro c
    cases c <;> decide +kernel
  have := List.all_eq_true.mp (hcheck c) rule hrule
  simpa [h] using this

theorem eq_wholeRule (hrule : rule ∈ rules)
    (h : rule.lhs = .command ∨ rule.production = some .command) :
    ∃ c : CommandStyle, rule = c.wholeRule := by
  have hcheck : rules.all (fun r => !(r.lhs == .command || r.production == some .command) ||
      r == CommandStyle.brace.wholeRule || r == CommandStyle.heredoc.wholeRule) = true := by
    decide +kernel
  have hone := List.all_eq_true.mp hcheck rule hrule
  have hcommand : (rule.lhs == .command || rule.production == some .command) = true := by
    rcases h with h | h <;> simp [h]
  rw [hcommand, Bool.not_true, Bool.false_or, Bool.or_eq_true, beq_iff_eq, beq_iff_eq] at hone
  rcases hone with h | h
  · exact ⟨.brace, h⟩
  · exact ⟨.heredoc, h⟩

/-! ## Placeholders -/

theorem trees_silent {k : Token} (h : k.terminal.isSilent = true) :
    Entry.trees false (.token k) = [] := by
  simp [Entry.trees, h]

theorem trees_kept {k : Token} (h : k.terminal.isSilent = false) (v : Bool) :
    Entry.trees v (.token k) = [.token k] := by
  simp [Entry.trees, h]

theorem inLine_of_sewn {xs : List Shift} (h : Sewn .document rules text xs) :
    InLine (xs.map Prod.fst) :=
  ⟨List.forall_mem_map.mpr fun y hy => (h.found y hy).start_lt, List.pairwise_map.mpr h.ordered⟩

theorem proper_of_sewn {xs : List Shift} (h : Sewn .document rules text xs) :
    ∀ k ∈ xs.map Prod.fst, k.Proper :=
  List.forall_mem_map.mpr fun y hy => (h.found y hy).proper

/-- A placeholder of a command from its first token to its last. -/
structure Marks (c : CommandStyle) (text : List Char) (x : Strand) (first last : Shift)
    (t : Tree) : Prop where
  shifts : ∃ mid, x.shifts = first :: (mid ++ [last])
  trees : x.entry.trees false =
    [.node .commandPlaceholder (some ⟨first.1.start, last.1.stop⟩) [t]]
  delimited : Delimited c text ⟨first.1.start, last.1.stop⟩
  phrase : Phrase .placeholder t
  commandless : Commandless t
  spots : ∀ s ∈ t.spots,
    Layout.ordered.within s.2 (Extent.span ⟨first.1.start, last.1.stop⟩)
  walk : Automaton.walk (statesOf .document rules).moves x.before c.placeholderRule.rhs =
    some last.2

theorem exists_marks (hx : x.Traced .document rules) (hsewn : Sewn .document rules text x.shifts)
    (hsymbol : x.entry.symbol = .nonterminal c.placeholder) :
    ∃ first last t, Marks c text x first last t := by
  obtain ⟨rule, hrule, hlhs, parts, m, h⟩ := hx.of_nonterminal hsymbol
  obtain rfl := eq_placeholderRule hrule hlhs
  have hsymbols := h.symbols
  obtain ⟨p₁, ps, rfl, h₁, hsymbols⟩ := List.map_eq_cons_iff.mp hsymbols
  obtain ⟨p₂, ps, rfl, h₂, hsymbols⟩ := List.map_eq_cons_iff.mp hsymbols
  obtain ⟨p₃, ps, rfl, h₃, hsymbols⟩ := List.map_eq_cons_iff.mp hsymbols
  obtain rfl := List.map_eq_nil_iff.mp hsymbols
  obtain ⟨opener, hopener, hentry₁, hshifts₁⟩ := (h.traced p₁ (by simp)).of_terminal h₁
  obtain ⟨closer, hcloser, hentry₃, hshifts₃⟩ := (h.traced p₃ (by simp)).of_terminal h₃
  have hinner := h.traced p₂ (by simp)
  have hshifts : x.shifts = (opener, p₁.after) :: (p₂.shifts ++ [(closer, p₃.after)]) := by
    rw [h.shifts]
    simp [hshifts₁, hshifts₃]
  obtain rfl : p₃.after = m := h.leads.2.2.2
  rw [hshifts] at hsewn
  have hfirst := hsewn.found _ List.mem_cons_self
  have hlast := hsewn.found (closer, p₃.after) (by simp)
  have hmid := hsewn.part (show p₂.shifts <:+: _ from ⟨[(opener, p₁.after)], [(closer, p₃.after)], by simp⟩)
  -- what stands between the delimiters is a placeholder
  have hshape := hinner.derives.shape closed_shape (proper_of_sewn hmid) false
  rw [h₂] at hshape
  obtain ⟨t, ht, htrees⟩ : ∃ t, Phrase .placeholder t ∧ p₂.entry.trees false = [t] := hshape
  obtain ⟨hafter, hordered⟩ := List.pairwise_cons.mp hsewn.ordered
  obtain ⟨-, -, hbefore⟩ := List.pairwise_append.mp hordered
  have hless := commandless_of_derives hinner.derives (by rw [h₂]; rfl) false
  rw [htrees] at hless
  refine ⟨(opener, p₁.after), (closer, p₃.after), t, ⟨p₂.shifts, hshifts⟩, ?_, ?_, ht,
    hless t List.mem_cons_self, fun s hs => ?_, ?_⟩
  · rw [trees_of_madeBy hx h, hshifts, extentOf_ends]
    have hnone : ∀ c : CommandStyle, c.placeholderOpener.isSilent = true := by
      intro c
      cases c <;> rfl
    have hsilent₁ := trees_silent (hopener ▸ hnone c)
    have hsilent₃ := trees_silent (k := closer) (by rw [hcloser]; rfl)
    show [Tree.node .commandPlaceholder _ _] = _
    have hverbatim : c.placeholderRule.verbatim = false := rfl
    simp [hverbatim, hentry₁, hentry₃, hsilent₁, hsilent₃, htrees]
  · obtain ⟨hstop, hprefix⟩ := hlast.fixed (s := "\x7d") (by rw [hcloser]; rfl)
    have hlt := hfirst.start_lt
    have hle := hafter (closer, p₃.after) (by simp)
    refine ⟨Terminal.opens_of_match? (hopener ▸ hfirst.taken), closer.start.offset, hstop,
      Nat.lt_of_lt_of_le hlt hle, ?_⟩
    obtain ⟨rest, hrest⟩ := hprefix
    rw [← List.head?_drop, ← hrest]
    rfl
  · have hlined := hinner.derives.lined rules_solid (inLine_of_sewn hmid) false
    rw [htrees] at hlined
    obtain ⟨a, ha, b, hb, hstart, hstop, hlt⟩ := hlined.spans s (List.mem_append_left _ hs)
    obtain ⟨a, hfirst', rfl⟩ := List.mem_map.mp ha
    obtain ⟨b, hlast', rfl⟩ := List.mem_map.mp hb
    have hle := hafter a (List.mem_append_left _ hfirst')
    have hle' := hbefore b hlast' _ List.mem_cons_self
    have hlt₁ := hfirst.start_lt
    have hlt₃ := hlast.start_lt
    show s.2.start ≤ s.2.stop ∧ (opener.start.offset : Int) ≤ s.2.start ∧
      s.2.stop ≤ (closer.stop.offset : Int) - 1
    rw [hstart, hstop]
    dsimp only at hle hle' hlt₁ hlt₃
    omega
  · rw [← h.symbols]
    exact walk_of_leads h.leads h.traced

/-! ## Stretches -/

/-- A token after which nothing is passed over. -/
def Sealed (text : List Char) (y : Shift) : Prop :=
  Bound (text.drop y.1.stop.offset) ∨
    ∃ c : CommandStyle, c.fragment ∈ (ofRules .document rules).terminals y.2

theorem Sealed.start_eq {y z : Shift} (h : Sealed text y) (hseam : Seam .document rules text y z) :
    z.1.start = y.1.stop := by
  obtain ⟨-, hbound, hfragment⟩ := hseam
  rcases h with h | ⟨c, hc⟩
  · exact hbound h
  · exact hfragment c hc

/-- A strand of the text of a command: it begins where what is before it ends, and nothing is passed
over after it either. -/
def Stretch (c : CommandStyle) (text : List Char) (x : Strand) : Prop :=
  ∀ prev, Sealed text prev → Sewn .document rules text (prev :: x.shifts) →
    ∃ last ∈ (prev :: x.shifts).getLast?, Sealed text last ∧
      Pieces c text prev.1.stop.offset (x.entry.trees false) last.1.stop.offset

theorem stretches (h : ∀ p ∈ parts, Stretch c text p) (prev : Shift) (hprev : Sealed text prev)
    (hsewn : Sewn .document rules text (prev :: parts.flatMap Strand.shifts)) :
    ∃ last ∈ (prev :: parts.flatMap Strand.shifts).getLast?, Sealed text last ∧
      Pieces c text prev.1.stop.offset (parts.flatMap fun p => p.entry.trees false)
        last.1.stop.offset := by
  induction parts generalizing prev with
  | nil => exact ⟨prev, rfl, hprev, .nil _⟩
  | cons p parts ih =>
    obtain ⟨hp, hparts⟩ := List.forall_mem_cons.mp h
    rw [List.flatMap_cons, ← List.cons_append] at hsewn ⊢
    obtain ⟨mid, hmid, hsealed, hpieces⟩ :=
      hp prev hprev (hsewn.part (List.prefix_append _ _).isInfix)
    -- the rest begins after the last token of the first part
    obtain ⟨front, hfront⟩ := List.getLast?_eq_some_iff.mp hmid
    rw [hfront, List.append_assoc, List.singleton_append] at hsewn ⊢
    obtain ⟨last, hlast, hsealed', hpieces'⟩ :=
      ih hparts mid hsealed (hsewn.part (List.suffix_append _ _).isInfix)
    refine ⟨last, ?_, hsealed', hpieces.append hpieces'⟩
    rw [List.getLast?_append_cons]
    exact hlast

/-- A run of text. -/
theorem stretch_of_fragment (hx : x.Traced .document rules)
    (hsymbol : x.entry.symbol = .terminal c.fragment) : Stretch c text x := by
  intro prev hprev hsewn
  obtain ⟨k, hk, hentry, hshifts⟩ := hx.of_terminal hsymbol
  rw [hshifts] at hsewn ⊢
  rw [hentry]
  have hfound : k.Found text := hsewn.found (k, x.after) (by simp)
  have hstart : k.start = prev.1.stop :=
    hprev.start_eq (List.isChain_cons_cons.mp hsewn.seams).1
  have hkept : ∀ c : CommandStyle, c.fragment.isSilent = false := by
    intro c
    cases c <;> rfl
  rw [trees_kept (hk ▸ hkept c), ← hstart]
  refine ⟨(k, x.after), rfl, .inl ?_, .fragment hk hfound (.nil _)⟩
  have htaken := hfound.taken
  rw [hk, c.match?_fragment] at htaken
  have hrun := (Lexer.positive_eq_some htaken).1
  have hbound := (c.run_spec (text.drop k.start.offset)).2
  have hlt := hfound.start_lt
  rwa [← hrun, List.drop_drop, Nat.add_sub_cancel' (Nat.le_of_lt hlt)] at hbound

/-- A placeholder after which a run of text is allowed. -/
theorem Marks.stretch {first last : Shift} {t : Tree} (h : Marks c text x first last t)
    (hlast : c.fragment ∈ (ofRules .document rules).terminals last.2) : Stretch c text x := by
  intro prev hprev hsewn
  obtain ⟨mid, hmid⟩ := h.shifts
  rw [hmid] at hsewn ⊢
  have hstart := hprev.start_eq (List.isChain_cons_cons.mp hsewn.seams).1
  rw [h.trees, ← hstart]
  refine ⟨last, ?_, .inr ⟨c, hlast⟩, .placeholder h.delimited h.phrase h.commandless h.spots (.nil _)⟩
  rw [← List.cons_append, ← List.cons_append, List.getLast?_concat]
  rfl

theorem exists_front {r : Rule} (hr : r ∈ c.partsRules) :
    ∃ front, r.rhs = front ++ [.nonterminal c.placeholder] ∧
      (∀ y ∈ front, y = .nonterminal c.parts ∨ y = .terminal c.fragment) ∧
      r.production = none ∧ r.verbatim = false := by
  simp only [CommandStyle.partsRules, List.mem_cons, List.not_mem_nil, or_false] at hr
  rcases hr with rfl | rfl | rfl | rfl
  · exact ⟨[], rfl, by simp, rfl, rfl⟩
  · exact ⟨[.terminal c.fragment], rfl, by simp, rfl, rfl⟩
  · exact ⟨[.nonterminal c.parts], rfl, by simp, rfl, rfl⟩
  · exact ⟨[.nonterminal c.parts, .terminal c.fragment], rfl, by simp, rfl, rfl⟩

/-- Runs of text and placeholders that something follows. -/
theorem stretch_of_parts (hx : x.Traced .document rules) (hsewn : Sewn .document rules text x.shifts)
    (hsymbol : x.entry.symbol = .nonterminal c.parts) : Stretch c text x := by
  induction hx with
  | token _ => exact nomatch hsymbol
  | @combine i m j rule mem parts symbols traced leads goto ih =>
    rw [symbol_combine] at hsymbol
    have hlhs := Symbol.nonterminal.inj hsymbol
    obtain ⟨front, hrhs, hfront, hproduction, hverbatim⟩ := exists_front (mem_partsRules mem hlhs)
    have hsymbols := symbols
    rw [hrhs] at hsymbols
    obtain ⟨xs, ys, rfl, hxs, hys⟩ := List.map_eq_append_iff.mp hsymbols
    obtain ⟨p, ps, rfl, hp, hps⟩ := List.map_eq_cons_iff.mp hys
    obtain rfl := List.map_eq_nil_iff.mp hps
    have hpart : ∀ q ∈ xs ++ [p], Sewn .document rules text q.shifts := fun q hq =>
      hsewn.part (List.infix_of_mem_flatten (List.mem_map_of_mem hq))
    have hlast : p ∈ xs ++ [p] := List.mem_append_right _ List.mem_cons_self
    have hstretches : ∀ q ∈ xs ++ [p], Stretch c text q := by
      intro q hq
      rcases List.mem_append.mp hq with hq' | hq'
      · have hsymbol' := hfront q.entry.symbol (hxs ▸ List.mem_map_of_mem hq')
        rcases hsymbol' with h | h
        · exact ih q hq (hpart q hq) h
        · exact stretch_of_fragment (traced q hq) h
      · rw [List.mem_singleton.mp hq']
        obtain ⟨first, last, t, hmarks⟩ := exists_marks (traced p hlast) (hpart p hlast) hp
        refine hmarks.stretch ?_
        obtain ⟨k, hk, hbefore, hafter⟩ := leads_append.mp leads
        have hmove := (traced p hlast).moves
        rw [hp] at hmove
        rw [hlhs] at goto
        refine fragment_mem_of_placeholder mem hlhs hrhs ?_ hmarks.walk hmove goto
        rw [hbefore, ← hxs]
        exact walk_of_leads hk fun q hq => traced q (List.mem_append_left _ hq)
    intro prev hprev hprevious
    obtain ⟨last, hlast, hsealed, hpieces⟩ := stretches hstretches prev hprev hprevious
    refine ⟨last, hlast, hsealed, ?_⟩
    rwa [trees_combine, wrap, hproduction, hverbatim, List.flatMap_map]

/-! ## Whole commands -/

theorem exists_middle {r : Rule} (hr : r ∈ c.commandRules) :
    ∃ middle, r.rhs = .terminal c.opener :: (middle ++ [.terminal c.closer]) ∧
      (∀ y ∈ middle, y = .nonterminal c.parts ∨ y = .terminal c.fragment) ∧
      r.production = none ∧ r.verbatim = false := by
  simp only [CommandStyle.commandRules, List.mem_cons, List.not_mem_nil, or_false] at hr
  rcases hr with rfl | rfl | rfl | rfl
  · exact ⟨[], rfl, by simp, rfl, rfl⟩
  · exact ⟨[.terminal c.fragment], rfl, by simp, rfl, rfl⟩
  · exact ⟨[.nonterminal c.parts], rfl, by simp, rfl, rfl⟩
  · exact ⟨[.nonterminal c.parts, .terminal c.fragment], rfl, by simp, rfl, rfl⟩

/-- The text of a command, from its opening to its closing. -/
structure Enclosed (c : CommandStyle) (text : List Char) (x : Strand) (first last : Shift) :
    Prop where
  shifts : ∃ mid, x.shifts = first :: (mid ++ [last])
  opens : first.1.terminal = c.opener
  closes : last.1.terminal = c.closer
  pieces : Pieces c text first.1.stop.offset (x.entry.trees false) last.1.start.offset

theorem exists_enclosed (hx : x.Traced .document rules)
    (hsewn : Sewn .document rules text x.shifts)
    (hsymbol : x.entry.symbol = .nonterminal c.command) {i : Nat}
    (hword : MovesOver .document rules i (.terminal .commandKw) x.before) :
    ∃ first last, Enclosed c text x first last := by
  obtain ⟨rule, hrule, hlhs, parts, m, h⟩ := hx.of_nonterminal hsymbol
  obtain ⟨middle, hrhs, hmiddle, hproduction, hverbatim⟩ :=
    exists_middle (mem_commandRules hrule hlhs)
  have hsymbols := h.symbols
  rw [hrhs] at hsymbols
  obtain ⟨p, ps, rfl, hp, hsymbols⟩ := List.map_eq_cons_iff.mp hsymbols
  obtain ⟨xs, ys, rfl, hxs, hys⟩ := List.map_eq_append_iff.mp hsymbols
  obtain ⟨q, qs, rfl, hq, hqs⟩ := List.map_eq_cons_iff.mp hys
  obtain rfl := List.map_eq_nil_iff.mp hqs
  have hp' := h.traced p (by simp)
  obtain ⟨opener, hopener, hentryp, hshiftsp⟩ := hp'.of_terminal hp
  obtain ⟨closer, hcloser, hentryq, hshiftsq⟩ := (h.traced q (by simp)).of_terminal hq
  have hshifts : x.shifts =
      (opener, p.after) :: (xs.flatMap Strand.shifts ++ [(closer, q.after)]) := by
    rw [h.shifts]
    simp [hshiftsp, hshiftsq]
  rw [hshifts] at hsewn
  have hstretches : ∀ y ∈ xs, Stretch c text y := by
    intro y hy
    have hy' := h.traced y (by simp [hy])
    rcases hmiddle y.entry.symbol (hxs ▸ List.mem_map_of_mem hy) with hs | hs
    · refine stretch_of_parts hy' (hsewn.part ?_) hs
      refine (List.infix_of_mem_flatten (List.mem_map_of_mem hy)).trans ?_
      exact ⟨[(opener, p.after)], [(closer, q.after)], by simp [List.flatMap]⟩
    · exact stretch_of_fragment hy' hs
  have hsealed : Sealed text (opener, p.after) := by
    refine .inr ⟨c, fragment_mem_of_opening hword ?_⟩
    rw [← h.leads.1, ← hp]
    exact hp'.moves
  obtain ⟨last, hlast, hlastSealed, hpieces⟩ := stretches hstretches _ hsealed
    (hsewn.part ⟨[], [(closer, q.after)], by simp⟩)
  refine ⟨(opener, p.after), (closer, q.after), ⟨_, hshifts⟩, hopener, hcloser, ?_⟩
  obtain ⟨front, hfront⟩ := List.getLast?_eq_some_iff.mp hlast
  have hseams := hsewn.seams
  rw [← List.cons_append, hfront, List.append_assoc] at hseams
  have hseam := (List.isChain_cons_cons.mp hseams.right_of_append).1
  dsimp only
  rw [hlastSealed.start_eq hseam, h.entry, trees_combine, wrap, hproduction, hverbatim,
    List.flatMap_map]
  have hsilent : ∀ c : CommandStyle, c.opener.isSilent = true ∧ c.closer.isSilent = true := by
    intro c
    cases c <;> exact ⟨rfl, rfl⟩
  have hnone := trees_silent (hopener ▸ (hsilent c).1)
  have hnone' := trees_silent (hcloser ▸ (hsilent c).2)
  simpa [hentryp, hentryq, hnone, hnone'] using hpieces

/-- The tree of a whole command. -/
theorem commanded_of_madeBy (hx : x.Traced .document rules)
    (hsewn : Sewn .document rules text x.shifts)
    (h : x.MadeBy .document rules c.wholeRule parts m) (v : Bool) :
    ∃ t, x.entry.trees v = [t] ∧ Commanded text t := by
  obtain ⟨p, ps, rfl, hp, hsymbols⟩ := List.map_eq_cons_iff.mp h.symbols
  obtain ⟨q, qs, rfl, hq, hqs⟩ := List.map_eq_cons_iff.mp hsymbols
  obtain rfl := List.map_eq_nil_iff.mp hqs
  have hp' := h.traced p (by simp)
  obtain ⟨first, hfirst, hentry, hshifts⟩ := hp'.of_terminal hp
  have hword := hp'.moves
  obtain ⟨-, hbefore, -⟩ := h.leads
  rw [hp, ← hbefore] at hword
  have hall : x.shifts = (first, p.after) :: q.shifts := by
    rw [h.shifts]
    simp [hshifts]
  rw [hall] at hsewn
  obtain ⟨opener, closer, henclosed⟩ := exists_enclosed (h.traced q (by simp))
    (hsewn.part (List.suffix_cons _ _).isInfix) hq hword
  obtain ⟨mid, hmid⟩ := henclosed.shifts
  rw [hmid] at hall hsewn
  have hpasses := (List.isChain_cons_cons.mp hsewn.seams).1.1
  have hsilent := trees_silent (k := first) (by rw [hfirst]; rfl)
  refine ⟨.node .command (some ⟨first.start, closer.1.stop⟩) (q.entry.trees false), ?_,
    .mk c hfirst henclosed.opens henclosed.closes (hsewn.found (first, p.after) (by simp))
      (hsewn.found opener (by simp)) (hsewn.found closer (by simp)) hpasses henclosed.pieces⟩
  rw [trees_of_madeBy hx h v, hall, ← List.cons_append, extentOf_ends]
  have hverbatim : c.wholeRule.verbatim = false := rfl
  show [Tree.node .command _ _] = _
  simp [hverbatim, hentry, hsilent]

end Grammar
end Wdl

/-! ## Where the commands of a document are -/

namespace Wdl

open Parse

/-- A part of a document: a task with its command, or something else. -/
inductive Element (text : List Char) : Tree → Prop
  | task {e : Option Extent} {front back : List Tree} {c : Tree} : (∀ t ∈ front, Commandless t) →
    Commanded text c → (∀ t ∈ back, Commandless t) →
      Element text (.node .task e (front ++ c :: back))
  | other {t : Tree} : Commandless t → Element text t

namespace Grammar

def elementSymbol : Symbol → Bool
  | .terminal a => !a.isFragment
  | .nonterminal n => rank n == .commandless || rank n == .elements

/-- Whether among the symbols is one command and nothing else of commands. -/
def hasCommand (xs : List Symbol) : Bool :=
  match xs.dropWhile commandlessSymbol with
  | .nonterminal .command :: ys => ys.all commandlessSymbol
  | _ => false

/-- Whether a rule keeps commands in tasks, and tasks in documents. -/
def keepsRank (r : Rule) : Bool :=
  match rank r.lhs with
  | .document => r.production == some .document && r.rhs.all elementSymbol
  | .elements =>
    r.production == some .task && hasCommand r.rhs ||
      r.production == none && r.rhs.all elementSymbol
  | .command => r.lhs == .command
  | .inner | .commandless => true

theorem rules_keepRank : rules.all keepsRank = true := by decide +kernel

/-- What holds of the trees of a nonterminal. -/
def Ranked (text : List Char) (n : Nonterminal) (ts : List Tree) : Prop :=
  match rank n with
  | .document => ∃ e cs, ts = [.node .document e cs] ∧ ∀ c ∈ cs, Element text c
  | .elements => ∀ t ∈ ts, Element text t
  | .command => ∃ t, ts = [t] ∧ Commanded text t
  | .inner | .commandless => True

theorem exists_command {xs : List Symbol} (h : hasCommand xs = true) :
    ∃ front back, xs = front ++ .nonterminal .command :: back ∧
      (∀ x ∈ front, commandlessSymbol x = true) ∧ ∀ x ∈ back, commandlessSymbol x = true := by
  unfold hasCommand at h
  split at h
  · next back hdrop =>
    refine ⟨xs.takeWhile commandlessSymbol, back, ?_,
      List.all_eq_true.mp List.all_takeWhile, List.all_eq_true.mp h⟩
    rw [← hdrop, List.takeWhile_append_dropWhile]
  · exact nomatch h

section Strands

variable {text : List Char} {parts : List Strand} {rule : Rule}

/-- The trees of a strand are what its nonterminal says, if it has one. -/
def Strand.Ranked (text : List Char) (x : Strand) : Prop :=
  ∀ n, x.entry.symbol = .nonterminal n → ∀ v, Grammar.Ranked text n (x.entry.trees v)

theorem element_of_ranked {x : Strand} (hx : x.Traced .document rules)
    (h : Strand.Ranked text x) (helement : elementSymbol x.entry.symbol = true) (v : Bool) :
    ∀ t ∈ x.entry.trees v, Element text t := by
  by_cases hplain : commandlessSymbol x.entry.symbol = true
  · exact fun t ht => .other (commandless_of_derives hx.derives hplain v t ht)
  · cases hs : x.entry.symbol with
    | terminal a =>
      rw [hs] at helement hplain
      exact absurd helement hplain
    | nonterminal n =>
      rw [hs] at helement hplain
      have hrank := ((Bool.or_eq_true _ _).mp helement).resolve_left hplain
      have hranked := h n hs v
      rwa [Ranked, show rank n = .elements from eq_of_beq hrank] at hranked

/-- What holds of the trees of all parts holds of the trees that a rule puts together. -/
theorem forall_trees_of_parts {P : Symbol → Bool} {Q : Tree → Prop}
    (symbols : parts.map (fun p => p.entry.symbol) = rule.rhs) (hrhs : rule.rhs.all P = true)
    (h : ∀ p ∈ parts, P p.entry.symbol = true → ∀ v, ∀ t ∈ p.entry.trees v, Q t) (v : Bool) :
    ∀ t ∈ parts.flatMap fun p => p.entry.trees v, Q t := by
  intro t ht
  obtain ⟨p, hp, ht⟩ := List.mem_flatMap.mp ht
  rw [← symbols, List.all_map] at hrhs
  exact h p hp (List.all_eq_true.mp hrhs p hp) v t ht

/-- A task has one command. -/
theorem task_of_parts (symbols : parts.map (fun p => p.entry.symbol) = rule.rhs)
    (hcommand : hasCommand rule.rhs = true) (traced : ∀ p ∈ parts, p.Traced .document rules)
    (h : ∀ p ∈ parts, Strand.Ranked text p) (v : Bool) (e : Option Extent) :
    Element text (.node .task e (parts.flatMap fun p => p.entry.trees v)) := by
  obtain ⟨front, back, hrhs, hfront, hback⟩ := exists_command hcommand
  rw [← symbols] at hrhs
  obtain ⟨xs, rest, rfl, hxs, hrest⟩ := List.map_eq_append_iff.mp hrhs
  obtain ⟨c, ys, rfl, hc, hys⟩ := List.map_eq_cons_iff.mp hrest
  obtain ⟨t, ht, hcommanded⟩ : ∃ t, c.entry.trees v = [t] ∧ Commanded text t :=
    h c (List.mem_append_right _ List.mem_cons_self) _ hc v
  rw [List.flatMap_append, List.flatMap_cons, ht]
  have hless : ∀ p ∈ xs ++ c :: ys, commandlessSymbol p.entry.symbol = true →
      ∀ t ∈ p.entry.trees v, Commandless t := fun p hp hplain =>
    commandless_of_derives (traced p hp).derives hplain v
  refine .task (fun t ht => ?_) hcommanded fun t ht => ?_
  · obtain ⟨p, hp, ht⟩ := List.mem_flatMap.mp ht
    exact hless p (List.mem_append_left _ hp) (hfront _ (hxs ▸ List.mem_map_of_mem hp)) t ht
  · obtain ⟨p, hp, ht⟩ := List.mem_flatMap.mp ht
    exact hless p (List.mem_append_right _ (List.mem_cons_of_mem _ hp))
      (hback _ (hys ▸ List.mem_map_of_mem hp)) t ht

theorem ranked_of_traced {x : Strand} (hx : x.Traced .document rules)
    (hsewn : Sewn .document rules text x.shifts) : Strand.Ranked text x := by
  induction hx with
  | token _ => exact fun n hn => nomatch hn
  | @combine i m j rule mem parts symbols traced leads goto ih =>
    intro n hn v
    rw [symbol_combine] at hn
    obtain rfl := Symbol.nonterminal.inj hn
    have hpart : ∀ p ∈ parts, Strand.Ranked text p := fun p hp =>
      ih p hp (hsewn.part (List.infix_of_mem_flatten (List.mem_map_of_mem hp)))
    have helements := forall_trees_of_parts (P := elementSymbol) (Q := Element text) symbols
      (h := fun p hp => element_of_ranked (traced p hp) (hpart p hp))
    have hkeeps := List.all_eq_true.mp rules_keepRank rule mem
    dsimp only
    unfold keepsRank at hkeeps
    cases hrank : rank rule.lhs <;>
      simp only [hrank, Bool.and_eq_true, Bool.or_eq_true, beq_iff_eq] at hkeeps <;>
      rw [Ranked, hrank]
    case document =>
      rw [trees_combine, wrap, hkeeps.1, List.flatMap_map]
      exact ⟨_, _, rfl, helements hkeeps.2 _⟩
    case elements =>
      rw [trees_combine, wrap, List.flatMap_map]
      rcases hkeeps with ⟨hproduction, hcommand⟩ | ⟨hproduction, hrhs⟩
      · rw [hproduction]
        exact List.forall_mem_singleton.mpr (task_of_parts symbols hcommand traced hpart _ _)
      · rw [hproduction]
        exact helements hrhs _
    case command =>
      obtain ⟨c, rfl⟩ := eq_wholeRule mem (.inl hkeeps)
      exact commanded_of_madeBy (.combine mem parts symbols traced leads goto) hsewn
        ⟨symbols, traced, leads, rfl, rfl⟩ v
    case inner | commandless => exact trivial

end Strands

/-- The tree of a document that is read without errors. -/
theorem elements_of_parse {origin : Origin} {limit : Int} {text : List Char} {t : Tree}
    (h : parse Language.documents origin limit text = ([], some t)) :
    ∃ e cs, t = .node .document e cs ∧ ∀ c ∈ cs, Element text c := by
  obtain ⟨x, hread, hhead⟩ := parse_read h
  obtain ⟨e, cs, htrees, hcs⟩ : ∃ e cs, x.entry.trees false = [.node .document e cs] ∧
      ∀ c ∈ cs, Element text c := ranked_of_traced hread.traced hread.sewn _ hread.symbol false
  rw [htrees] at hhead
  exact ⟨e, cs, (Option.some.inj hhead).symm, hcs⟩

end Grammar
end Wdl
