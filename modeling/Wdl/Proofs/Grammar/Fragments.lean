import Wdl.Proofs.Grammar.Lookahead

/-!
Where the text of a command is read.

Whatever a command holds besides placeholders is text.  After the opening of a command and after the
end of a placeholder in it the parser allows a run of text, so nothing that would be passed over
elsewhere is passed over there.
-/

namespace Wdl

/-- The two ways to write a command. -/
inductive CommandStyle
  | brace
  | heredoc
  deriving DecidableEq, Repr

namespace CommandStyle

def opener : CommandStyle → Terminal
  | .brace => .lbrace
  | .heredoc => .heredocOpen

def closer : CommandStyle → Terminal
  | .brace => .rbrace
  | .heredoc => .heredocClose

/-- A run of text. -/
def fragment : CommandStyle → Terminal
  | .brace => .braceFragment
  | .heredoc => .heredocFragment

def placeholderOpener : CommandStyle → Terminal
  | .brace => .placeholderOpen
  | .heredoc => .tildeOpen

def command : CommandStyle → Nonterminal
  | .brace => .braceCommand
  | .heredoc => .heredocCommand

def parts : CommandStyle → Nonterminal
  | .brace => .braceParts
  | .heredoc => .heredocParts

def placeholder : CommandStyle → Nonterminal
  | .brace => .bracePlaceholder
  | .heredoc => .heredocPlaceholder

/-- The rule of the placeholders in a command. -/
def placeholderRule (c : CommandStyle) : Rule :=
  ⟨c.placeholder, [.terminal c.placeholderOpener, .nonterminal .placeholder, .terminal .rbrace],
    some .commandPlaceholder, false⟩

/-- The rules by which runs of text and placeholders follow each other. -/
def partsRules (c : CommandStyle) : List Rule :=
  [⟨c.parts, [.nonterminal c.placeholder], none, false⟩,
   ⟨c.parts, [.terminal c.fragment, .nonterminal c.placeholder], none, false⟩,
   ⟨c.parts, [.nonterminal c.parts, .nonterminal c.placeholder], none, false⟩,
   ⟨c.parts, [.nonterminal c.parts, .terminal c.fragment, .nonterminal c.placeholder], none,
     false⟩]

/-- The rules of a command between its opening and its end. -/
def commandRules (c : CommandStyle) : List Rule :=
  [⟨c.command, [.terminal c.opener, .terminal c.closer], none, false⟩,
   ⟨c.command, [.terminal c.opener, .terminal c.fragment, .terminal c.closer], none, false⟩,
   ⟨c.command, [.terminal c.opener, .nonterminal c.parts, .terminal c.closer], none, false⟩,
   ⟨c.command, [.terminal c.opener, .nonterminal c.parts, .terminal c.fragment,
     .terminal c.closer], none, false⟩]

/-- The rule of a whole command. -/
def wholeRule (c : CommandStyle) : Rule :=
  ⟨.command, [.terminal .commandKw, .nonterminal c.command], some .command, false⟩

/-- The rules in which parts of commands have a say. -/
def ownRules (c : CommandStyle) : List Rule :=
  c.wholeRule :: c.placeholderRule :: (c.partsRules ++ c.commandRules)

theorem ownRules_subset (c : CommandStyle) : ∀ r ∈ c.ownRules, r ∈ Grammar.rules := by
  have h : ∀ c : CommandStyle, c.ownRules.all (Grammar.rules.contains ·) = true := by
    intro c
    cases c <;> decide +kernel
  exact fun r hr => List.contains_iff_mem.mp (List.all_eq_true.mp (h c) r hr)

end CommandStyle

namespace Grammar

open Automaton

/-- The rules of both kinds of commands. -/
def commandTexts : List Rule :=
  CommandStyle.ownRules .brace ++ CommandStyle.ownRules .heredoc

/-- The symbols that only the rules of commands have, and the nonterminals that only they make. -/
def belongsToCommand : Symbol → Bool
  | .terminal a => a == .commandKw || a == .heredocOpen || a == .heredocClose ||
      a == .braceFragment || a == .heredocFragment
  | .nonterminal n => [.braceCommand, .heredocCommand, .braceParts, .heredocParts,
      .bracePlaceholder, .heredocPlaceholder].contains n

/-- Whether a rule is one of commands if anything in it belongs to commands. -/
def keepsToCommands (r : Rule) : Bool :=
  commandTexts.contains r ||
    !(r.rhs.any belongsToCommand || belongsToCommand (.nonterminal r.lhs) || r.lhs == .command)

theorem rules_keepToCommands : rules.all keepsToCommands = true := by decide +kernel

/-- A rule in which something belongs to commands is one of theirs. -/
theorem mem_commandTexts {r : Rule} (hr : r ∈ rules)
    (h : (∃ x ∈ r.rhs, belongsToCommand x = true) ∨
      belongsToCommand (.nonterminal r.lhs) = true ∨ r.lhs = .command) : r ∈ commandTexts := by
  have hkeeps := List.all_eq_true.mp rules_keepToCommands r hr
  rw [keepsToCommands, Bool.or_eq_true, Bool.not_eq_true', Bool.or_eq_false_iff,
    Bool.or_eq_false_iff] at hkeeps
  rcases hkeeps with hmem | ⟨⟨hnone, hlhs⟩, hcommand⟩
  · exact List.contains_iff_mem.mp hmem
  · rcases h with ⟨x, hx, hbelongs⟩ | hbelongs | hwhole
    · rw [List.any_eq_false] at hnone
      exact absurd hbelongs (hnone x hx)
    · rw [hbelongs] at hlhs
      exact nomatch hlhs
    · rw [hwhole] at hcommand
      exact nomatch hcommand

/-- Whether a condition holds of every symbol of some rules and its place. -/
def everywhere (P : Rule → Nat → Symbol → Bool) (rs : List Rule) : Bool :=
  rs.all fun r => r.rhs.zipIdx.all fun x => P r x.2 x.1

theorem of_everywhere {P : Rule → Nat → Symbol → Bool} {rs : List Rule} (h : everywhere P rs = true)
    {r : Rule} (hr : r ∈ rs) {d : Nat} {x : Symbol} (hx : r.rhs[d]? = some x) : P r d x = true :=
  List.all_eq_true.mp (List.all_eq_true.mp h r hr) _
    (List.mem_zipIdx_iff_getElem? (x := (x, d)).mpr hx)

section Reading

variable {i j p q s u : Nat} {p₀ : Nat} {r : Rule} {d : Nat} {x : Symbol} {c : CommandStyle}

/-- What is read next that belongs to commands is read by one of their rules. -/
theorem reads_commandTexts (h : Reads .document rules i r d) (hx : r.rhs[d]? = some x)
    (hbelongs : belongsToCommand x = true) : r ∈ commandTexts := by
  obtain ⟨kernel, n, -, hn, -⟩ := h
  rcases rules_sourceOf hn with hold | ⟨-, rfl⟩
  · exact mem_commandTexts (List.mem_of_getElem? hold) (.inl ⟨x, List.mem_of_getElem? hx, hbelongs⟩)
  · have hrhs : x = .nonterminal .document := by
      cases d with
      | zero => exact (Option.some.inj hx).symm
      | succ d => exact nomatch hx
    rw [hrhs] at hbelongs
    exact nomatch hbelongs

theorem ne_openingRule (hr : r ∈ commandTexts) : r ≠ openingRule .document := by
  rintro rfl
  have h : commandTexts.contains (openingRule .document) = false := by decide +kernel
  rw [List.contains_iff_mem.mpr hr] at h
  exact nomatch h

/-- After the word that begins a command comes one of the two kinds of commands. -/
theorem reads_after_commandKw (hmove : MovesOver .document rules i (.terminal .commandKw) j)
    (h : Reads .document rules j r (d + 1)) :
    r.rhs[d + 1]? = some (.nonterminal .braceCommand) ∨
      r.rhs[d + 1]? = some (.nonterminal .heredocCommand) := by
  obtain ⟨hbefore, hx⟩ := h.of_move hmove
  have hcheck : everywhere (fun r d x => x != .terminal .commandKw ||
      r.rhs[d + 1]? == some (.nonterminal .braceCommand) ||
      r.rhs[d + 1]? == some (.nonterminal .heredocCommand)) commandTexts = true := by
    decide +kernel
  have := of_everywhere hcheck (reads_commandTexts hbefore hx rfl) hx
  simpa [or_assoc] using this

/-- The nonterminals of the two kinds of commands. -/
def isCommand (n : Nonterminal) : Bool := n == .braceCommand || n == .heredocCommand

theorem belongs_of_isCommand {n : Nonterminal} (h : isCommand n = true) :
    belongsToCommand (.nonterminal n) = true := by
  simp only [isCommand, Bool.or_eq_true, beq_iff_eq] at h
  rcases h with rfl | rfl <;> rfl

/-- A command begins with the opening of its kind. -/
theorem begins_of_isCommand (hr : r ∈ rules) (h : isCommand r.lhs = true) (hx : r.rhs[0]? = some x) :
    ∃ c : CommandStyle, r.lhs = c.command ∧ x = .terminal c.opener := by
  have hcheck : everywhere (fun r d x => !(isCommand r.lhs && d == 0) ||
      r.lhs == .braceCommand && x == .terminal .lbrace ||
      r.lhs == .heredocCommand && x == .terminal .heredocOpen) commandTexts = true := by
    decide +kernel
  have hmem := mem_commandTexts hr (.inr (.inl (belongs_of_isCommand h)))
  have := of_everywhere hcheck hmem hx
  simp only [h, beq_self_eq_true, Bool.and_true, Bool.not_true, Bool.false_or, Bool.or_eq_true,
    Bool.and_eq_true, beq_iff_eq] at this
  rcases this with ⟨hlhs, hx⟩ | ⟨hlhs, hx⟩
  · exact ⟨.brace, hlhs, hx⟩
  · exact ⟨.heredoc, hlhs, hx⟩

theorem opener_injective {c c' : CommandStyle} (h : c.opener = c'.opener) : c = c' := by
  cases c <;> cases c' <;> first | rfl | exact nomatch h

/-- After the opening of a command a run of text is allowed. -/
theorem fragment_mem_of_opening
    (hcommand : MovesOver .document rules i (.terminal .commandKw) p)
    (hopen : MovesOver .document rules p (.terminal c.opener) q) :
    c.fragment ∈ (ofRules .document rules).terminals q := by
  obtain ⟨r, d, hreads, hx⟩ := hopen.exists_reads
  -- nothing that has been read goes on with the opening, so a command begins here
  obtain rfl : d = 0 := by
    cases d with
    | zero => rfl
    | succ d =>
      rcases reads_after_commandKw hcommand hreads with h | h
      · exact nomatch Option.some.inj (hx.symm.trans h)
      · exact nomatch Option.some.inj (hx.symm.trans h)
  have hopening : r ≠ openingRule .document := by
    rintro rfl
    exact nomatch Option.some.inj hx
  have hlhs : isCommand r.lhs = true := by
    refine hreads.begun (P := fun n => isCommand n = true) hcommand
      (fun r' d n h hn => ?_) fun r' hr' h m hm => ?_
    · rcases reads_after_commandKw hcommand h with h | h
      · rw [Symbol.nonterminal.inj (Option.some.inj (hn.symm.trans h))]
        rfl
      · rw [Symbol.nonterminal.inj (Option.some.inj (hn.symm.trans h))]
        rfl
    · obtain ⟨c', -, hterminal⟩ := begins_of_isCommand hr' h hm
      exact nomatch hterminal
  obtain ⟨hr, hsiblings⟩ := hreads.siblings hopening
  obtain ⟨c', hc', hopener⟩ := begins_of_isCommand hr hlhs hx
  obtain rfl := opener_injective (Symbol.terminal.inj hopener)
  have htext := hsiblings
    ⟨c.command, [.terminal c.opener, .terminal c.fragment, .terminal c.closer], none, false⟩
    (c.ownRules_subset _ (by simp [CommandStyle.ownRules, CommandStyle.commandRules])) hc'.symm
  obtain ⟨j, hj⟩ := (htext.move rfl hopen).goesOn rfl
  exact mem_terminals_of_action? hj.action?

/-- Where the parts of a command can be read, a run of text can be read after them. -/
theorem exists_move_of_parts (hparts : MovesOver .document rules i (.nonterminal c.parts) u) :
    ∃ j, MovesOver .document rules u (.terminal c.fragment) j := by
  obtain ⟨r, d, hreads, hx⟩ := hparts.exists_reads
  have hcheck : ∀ c : CommandStyle, everywhere (fun r d x => x != .nonterminal c.parts ||
      r.lhs == c.parts && d == 0 ||
      r.lhs == c.command && d == 1 && r.rhs[0]? == some (.terminal c.opener)) commandTexts = true := by
    intro c
    cases c <;> decide +kernel
  have hmem := reads_commandTexts hreads hx (by cases c <;> rfl)
  have hplace := of_everywhere (hcheck c) hmem hx
  simp only [bne_self_eq_false, Bool.false_or, Bool.or_eq_true, Bool.and_eq_true,
    beq_iff_eq] at hplace
  have hopening := ne_openingRule hmem
  rcases hplace with ⟨hlhs, rfl⟩ | ⟨⟨hlhs, rfl⟩, hfirst⟩
  · -- more parts after those that are there
    have hmore := (hreads.siblings hopening).2
      ⟨c.parts, [.nonterminal c.parts, .terminal c.fragment, .nonterminal c.placeholder], none,
        false⟩
      (c.ownRules_subset _ (by simp [CommandStyle.ownRules, CommandStyle.partsRules])) hlhs.symm
    exact (hmore.move rfl hparts).goesOn rfl
  · -- the end of a command, which has been opened before
    obtain ⟨k, y, hk⟩ := hreads.origin
    obtain ⟨hbefore, hy⟩ := hreads.of_move hk
    obtain rfl := Option.some.inj (hy.symm.trans hfirst)
    have hend := (hbefore.siblings hopening).2
      ⟨c.command, [.terminal c.opener, .nonterminal c.parts, .terminal c.fragment,
        .terminal c.closer], none, false⟩
      (c.ownRules_subset _ (by simp [CommandStyle.ownRules, CommandStyle.commandRules])) hlhs.symm
    exact ((hend.move rfl hk).move rfl hparts).goesOn rfl

/-- After the end of a placeholder in a command a run of text is allowed. -/
theorem fragment_mem_of_placeholder {front : List Symbol} (hr : r ∈ rules) (hlhs : r.lhs = c.parts)
    (hrhs : r.rhs = front ++ [.nonterminal c.placeholder])
    (hfront : walk (statesOf .document rules).moves p₀ front = some p)
    (hwalk : walk (statesOf .document rules).moves p c.placeholderRule.rhs = some q)
    (hover : MovesOver .document rules p (.nonterminal c.placeholder) s)
    (hparts : MovesOver .document rules p₀ (.nonterminal c.parts) u) :
    c.fragment ∈ (ofRules .document rules).terminals q := by
  obtain ⟨j, hj⟩ := exists_move_of_parts hparts
  rw [← hlhs] at hparts
  exact mem_terminals_of_follows (r := c.placeholderRule)
    (c.ownRules_subset _ (by simp [CommandStyle.ownRules])) hwalk
    (.last hr hrhs rfl hfront hover hparts (.read (.shift hparts hj)))

end Reading

end Grammar
end Wdl
