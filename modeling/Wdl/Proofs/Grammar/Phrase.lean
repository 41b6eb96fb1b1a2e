import Wdl.Builder.Events
import Wdl.Proofs.Grammar.Derivation

/-!
The shape of expressions.

`Phrase f t` says that `t` is a parse tree of the form `f`, where the forms are the parts that
expressions are made of.  The levels of precedence are gone: what remains of them is how the trees
are nested.  `Part` is the shape of everything around expressions.

The main statement is `closed_shape`: the trees of every nonterminal have the shape that `Shape`
gives for it.
-/

namespace Wdl

/-- The parts that expressions are made of. -/
inductive Form
  | expr
  /-- the operand of a unary operator -/
  | operand
  /-- what stands in an expression or operand: operators, literals, names and constructs -/
  | term
  | mapEntry
  | objectEntry
  | literal
  /-- the text of a string before, between and after its placeholders -/
  | fragment
  /-- a placeholder of a string with its delimiters -/
  | exprPart
  /-- a placeholder of a string and the text after it -/
  | interpolation
  | placeholder
  | placeholderOption
  | optionValue
  deriving DecidableEq, Repr

inductive Phrase : Form → Tree → Prop
  | expr {e : Option Extent} {x : Tree} : Phrase .term x → Phrase .expr (.node .expr e [x])
  | operand {e : Option Extent} {x : Tree} :
    Phrase .term x → Phrase .operand (.node .exprOperand e [x])
  | binary {e : Option Extent} {x y : Tree} (op : BinaryOp) :
    Phrase .term x → Phrase .term y → Phrase .term (.node (.binary op) e [x, y])
  | group {e : Option Extent} {x : Tree} : Phrase .expr x → Phrase .term (.node .group e [x])
  | negate {e : Option Extent} {x : Tree} : Phrase .operand x → Phrase .term (.node .negate e [x])
  | unaryMinus {e : Option Extent} {x : Tree} :
    Phrase .operand x → Phrase .term (.node .unaryMinus e [x])
  | unaryPlus {e : Option Extent} {x : Tree} :
    Phrase .operand x → Phrase .term (.node .unaryPlus e [x])
  | array {e : Option Extent} {xs : List Tree} :
    (∀ x ∈ xs, Phrase .expr x) → Phrase .term (.node .array e xs)
  | index {e : Option Extent} {x i : Tree} :
    Phrase .term x → Phrase .expr i → Phrase .term (.node .index e [x, i])
  | pair {e : Option Extent} {x y : Tree} :
    Phrase .expr x → Phrase .expr y → Phrase .term (.node .pair e [x, y])
  | map {e : Option Extent} {xs : List Tree} :
    (∀ x ∈ xs, Phrase .mapEntry x) → Phrase .term (.node .map e xs)
  | ifThenElse {e : Option Extent} {c x y : Tree} :
    Phrase .expr c → Phrase .expr x → Phrase .expr y → Phrase .term (.node .ifThenElse e [c, x, y])
  | apply {e : Option Extent} {xs : List Tree} (k : Token) :
    (∀ x ∈ xs, Phrase .expr x) → Phrase .term (.node .apply e (.token k :: xs))
  | object {e : Option Extent} {xs : List Tree} (k : Token) :
    (∀ x ∈ xs, Phrase .objectEntry x) → Phrase .term (.node .object e (.token k :: xs))
  | leftName {e : Option Extent} (k : Token) : Phrase .term (.node .leftName e [.token k])
  | member {e : Option Extent} {x : Tree} (k : Token) :
    Phrase .term x → Phrase .term (.node .member e [x, .token k])
  | booleanTrue {e : Option Extent} : Phrase .term (.node .booleanTrue e [])
  | booleanFalse {e : Option Extent} : Phrase .term (.node .booleanFalse e [])
  | null {e : Option Extent} : Phrase .term (.node .null e [])
  | int {e : Option Extent} (k : Token) : Phrase .term (.node .int e [.token k])
  | float {e : Option Extent} (k : Token) : Phrase .term (.node .float e [.token k])
  | string {e : Option Extent} {x : Tree} {xs : List Tree} (k l : Token) :
    Phrase .fragment x → (∀ y ∈ xs, Phrase .interpolation y) →
      Phrase .term (.node .string e (.token k :: x :: (xs ++ [.token l])))
  | mapEntry {e : Option Extent} {x y : Tree} :
    Phrase .term x → Phrase .expr y → Phrase .mapEntry (.node .mapEntry e [x, y])
  | nameEntry {e : Option Extent} {x : Tree} (k : Token) :
    Phrase .expr x → Phrase .objectEntry (.node .objectEntry e [.token k, x])
  | literalEntry {e : Option Extent} {x y : Tree} :
    Phrase .literal x → Phrase .expr y → Phrase .objectEntry (.node .objectEntry e [x, y])
  | literal {e : Option Extent} (k : Token) : Phrase .literal (.node .stringLiteral e [.token k])
  | noFragment {e : Option Extent} : Phrase .fragment (.node .stringPart e [])
  | fragment {e : Option Extent} (k : Token) : Phrase .fragment (.node .stringPart e [.token k])
  | exprPart {e : Option Extent} {x : Tree} :
    Phrase .placeholder x → Phrase .exprPart (.node .stringExprPart e [x])
  | interpolation {e : Option Extent} {x y : Tree} :
    Phrase .exprPart x → Phrase .fragment y →
      Phrase .interpolation (.node .stringExprWithPart e [x, y])
  | placeholder {e : Option Extent} {xs : List Tree} {y : Tree} :
    (∀ x ∈ xs, Phrase .placeholderOption x) → Phrase .expr y →
      Phrase .placeholder (.node .placeholder e (xs ++ [y]))
  | placeholderOption {e : Option Extent} {x : Tree} (k : Token) :
    Phrase .optionValue x → Phrase .placeholderOption (.node .placeholderOption e [.token k, x])
  | literalValue {e : Option Extent} {x : Tree} :
    Phrase .literal x → Phrase .optionValue (.node .placeholderValue e [x])
  | numberValue {e : Option Extent} (k : Token) :
    Phrase .optionValue (.node .placeholderValue e [.token k])

/-- The productions that build no node of a document and compile to nothing. -/
def Production.isNeutral : Production → Bool
  | .document | .version | .importAs | .importAlias | .callTarget | .callAlias | .callAfter
  | .callInputs | .inputColon | .metaObject | .metaNestedObject | .metaArray | .metaObjectEntry
  | .metaScalar | .type | .optional | .nonempty | .optionalNonempty | .stringLiteral
  | .commandPlaceholder | .placeholderValue | .placeholderOption | .placeholder => true
  | _ => false

/-- The productions that build a node without opening a section. -/
def Production.isLeaf : Production → Bool
  | .importDoc | .metaEntry => true
  | _ => false

/-- Trees in which nothing builds a node. -/
inductive Bare : Tree → Prop
  | token (k : Token) : Bare (.token k)
  | node {p : Production} {e : Option Extent} {cs : List Tree} :
    p.isNeutral = true → (∀ c ∈ cs, Bare c) → Bare (.node p e cs)

/-- The children of a node are as one of the rules of its production says, seen from the node. -/
def Conforms (good : Token → Prop) (p : Production) (cs : List Tree) : Prop :=
  ∃ rule ∈ Grammar.rules, rule.production = some p ∧
    Parse.HandedAll good (fun _ _ => True) rule.verbatim rule.rhs cs

/-- Parts of documents: expressions, and what is around them. -/
inductive Part (good : Token → Prop) : Tree → Prop
  | token (k : Token) : Part good (.token k)
  | expr {t : Tree} : Phrase .expr t → Part good t
  | neutral {p : Production} {e : Option Extent} {cs : List Tree} :
    p.isNeutral = true → (∀ c ∈ cs, Part good c) → Part good (.node p e cs)
  | leaf {p : Production} {e : Option Extent} {cs : List Tree} :
    p.isLeaf = true → (∀ c ∈ cs, Bare c) → Part good (.node p e cs)
  | inSection {p : Production} {kind : Kind} {e : Option Extent} {cs : List Tree} :
    p.sectionKind? = some kind → Conforms good p cs → (∀ c ∈ cs, Part good c) →
      Part good (.node p e cs)

/-- What the trees of a nonterminal look like. -/
inductive Shape
  | one (f : Form)
  | many (f : Form)
  /-- a single token -/
  | word
  | bare
  | part
  deriving DecidableEq, Repr

namespace Shape

def Holds (good : Token → Prop) : Shape → List Tree → Prop
  | .one f, ts => ∃ t, Phrase f t ∧ ts = [t]
  | .many f, ts => ∀ t ∈ ts, Phrase f t
  | .word, ts => ∃ k, ts = [.token k]
  | .bare, ts => ∀ t ∈ ts, Bare t
  | .part, ts => ∀ t ∈ ts, Part good t

/-- The shapes of trees in which nothing builds a node. -/
def isBare : Shape → Bool
  | .one .literal | .bare => true
  | _ => false

/-- The shapes of parts of documents. -/
def isPart : Shape → Bool
  | .one .literal | .one .placeholder | .one .expr | .bare | .part => true
  | _ => false

end Shape

def Nonterminal.shape : Nonterminal → Shape
  | .expr => .one .expr
  | .exprOperand => .one .operand
  | .disjunction | .conjunction | .comparison | .sum | .product | .factor | .exprCore | .mapKey
  | .literal | .string | .singleString | .doubleString => .one .term
  | .mapEntry => .one .mapEntry
  | .objectEntry => .one .objectEntry
  | .stringLiteral => .one .literal
  | .singlePart | .doublePart => .one .fragment
  | .singleExprPart | .doubleExprPart => .one .exprPart
  | .singlePlaceholder | .doublePlaceholder => .one .interpolation
  | .placeholder => .one .placeholder
  | .placeholderOption => .one .placeholderOption
  | .placeholderValue => .one .optionValue
  | .placeholderName => .word
  | .moreExprs => .many .expr
  | .moreMapEntries => .many .mapEntry
  | .moreObjectEntries => .many .objectEntry
  | .singlePlaceholders | .doublePlaceholders => .many .interpolation
  | .placeholderOptions => .many .placeholderOption
  | .importAs | .importAlias | .importAliases | .metaValue | .metaScalar | .metaObjectEntry
  | .moreMetaObjectEntries | .moreMetaValues => .bare
  | _ => .part

/-- The trees of a nonterminal look as its shape says. -/
def Shaped (good : Token → Prop) (n : Nonterminal) (ts : List Tree) : Prop :=
  n.shape.Holds good ts

section Parts

variable {good : Token → Prop}

theorem Bare.part {t : Tree} (h : Bare t) : Part good t := by
  induction h with
  | token k => exact .token k
  | node hp _ ih => exact .neutral hp ih

theorem Phrase.literal_bare {t : Tree} (h : Phrase .literal t) : Bare t := by
  cases h with
  | literal k => exact .node rfl (List.forall_mem_singleton.mpr (.token k))

theorem Phrase.option_bare {t : Tree} (h : Phrase .placeholderOption t) : Bare t := by
  cases h with
  | placeholderOption k hx =>
    refine .node rfl (List.forall_mem_cons.mpr ⟨.token k, List.forall_mem_singleton.mpr ?_⟩)
    cases hx with
    | literalValue hx => exact .node rfl (List.forall_mem_singleton.mpr hx.literal_bare)
    | numberValue k => exact .node rfl (List.forall_mem_singleton.mpr (.token k))

theorem Phrase.placeholder_part {t : Tree} (h : Phrase .placeholder t) : Part good t := by
  cases h with
  | placeholder hxs hy =>
    refine .neutral rfl (List.forall_mem_append.mpr ⟨?_, ?_⟩)
    · exact fun x hx => (hxs x hx).option_bare.part
    · exact List.forall_mem_singleton.mpr (.expr hy)

theorem Shape.bare_of_isBare {s : Shape} {us : List Tree} (hs : s.isBare = true)
    (h : s.Holds good us) : ∀ t ∈ us, Bare t := by
  unfold Shape.isBare at hs
  split at hs
  · obtain ⟨t, ht, rfl⟩ := h
    exact List.forall_mem_singleton.mpr ht.literal_bare
  · exact h
  · exact absurd hs Bool.false_ne_true

theorem Shape.part_of_isPart {s : Shape} {us : List Tree} (hs : s.isPart = true)
    (h : s.Holds good us) : ∀ t ∈ us, Part good t := by
  unfold Shape.isPart at hs
  split at hs
  · obtain ⟨t, ht, rfl⟩ := h
    exact List.forall_mem_singleton.mpr ht.literal_bare.part
  · obtain ⟨t, ht, rfl⟩ := h
    exact List.forall_mem_singleton.mpr ht.placeholder_part
  · obtain ⟨t, ht, rfl⟩ := h
    exact List.forall_mem_singleton.mpr (.expr ht)
  · exact fun t ht => (h t ht).part
  · exact h
  · exact absurd hs Bool.false_ne_true

end Parts

namespace Grammar

open Parse

variable {good : Token → Prop} {slots : List Slot} {ts : List Tree}

/-! ## Rules of documents

What has no form is only asked to hold parts of documents, or nothing that builds a node.  For the
rules of such nonterminals this is a condition that can be computed. -/

def fitsSymbol (f : Shape → Bool) : Symbol → Bool
  | .terminal _ => true
  | .nonterminal n => f n.shape

/-- Whether a rule of documents keeps their shapes. -/
def fits (r : Rule) : Bool :=
  match r.lhs.shape with
  | .bare => r.rhs.all (fitsSymbol Shape.isBare) && r.production.all Production.isNeutral
  | .part =>
    r.rhs.all (fitsSymbol Shape.isPart) && r.production.all fun p =>
      p.isNeutral || p.sectionKind?.isSome || (p.isLeaf && r.rhs.all (fitsSymbol Shape.isBare))
  | _ => false

theorem handedAll_forall {P : Tree → Prop} {f : Shape → Bool} (htoken : ∀ k, P (.token k))
    (hshape : ∀ s us, f s = true → s.Holds good us → ∀ t ∈ us, P t) {v : Bool}
    {xs : List Symbol} (hxs : xs.all (fitsSymbol f) = true)
    (h : HandedAll good (Shaped good) v xs ts) : ∀ t ∈ ts, P t := by
  induction xs generalizing ts with
  | nil =>
    rw [show ts = [] from h]
    exact List.forall_mem_nil _
  | cons x xs ih =>
    obtain ⟨front, back, hfront, hback, rfl⟩ := h
    rw [List.all_cons, Bool.and_eq_true] at hxs
    refine List.forall_mem_append.mpr ⟨?_, ih hxs.2 hback⟩
    cases x with
    | terminal a =>
      obtain ⟨k, -, -, rfl⟩ := hfront
      intro t ht
      simp only [Entry.trees] at ht
      split at ht
      · rw [List.mem_singleton.mp ht]
        exact htoken k
      · exact absurd ht List.not_mem_nil
    | nonterminal n => exact hshape n.shape front hxs.1 hfront

theorem handedAll_bare {v : Bool} {xs : List Symbol} (hxs : xs.all (fitsSymbol Shape.isBare) = true)
    (h : HandedAll good (Shaped good) v xs ts) : ∀ t ∈ ts, Bare t :=
  handedAll_forall Bare.token (fun _ _ => Shape.bare_of_isBare) hxs h

theorem closed_outside {rs : List Rule} (h : rs.all (fun r => r ∈ rules && fits r) = true) :
    Closed good (Shaped good) rs := by
  intro rule hrule ts e hts
  have hfits := List.all_eq_true.mp h rule hrule
  rw [Bool.and_eq_true, decide_eq_true_eq] at hfits
  obtain ⟨hmem, hfits⟩ := hfits
  rw [Shaped]
  unfold fits at hfits
  split at hfits
  · next hl =>
    rw [Bool.and_eq_true] at hfits
    have hbare := handedAll_bare hfits.1 hts
    rw [hl]
    unfold wrap
    cases hp : rule.production with
    | none => exact hbare
    | some p =>
      rw [hp, Option.all_some] at hfits
      exact List.forall_mem_singleton.mpr (.node hfits.2 hbare)
  · next hl =>
    rw [Bool.and_eq_true] at hfits
    have hpart : ∀ t ∈ ts, Part good t :=
      handedAll_forall Part.token (fun _ _ => Shape.part_of_isPart) hfits.1 hts
    rw [hl]
    unfold wrap
    cases hp : rule.production with
    | none => exact hpart
    | some p =>
      rw [hp, Option.all_some, Bool.or_eq_true, Bool.or_eq_true, Bool.and_eq_true] at hfits
      refine List.forall_mem_singleton.mpr ?_
      obtain ⟨-, (hp' | hp') | ⟨hleaf, hbare⟩⟩ := hfits
      · exact .neutral hp' hpart
      · obtain ⟨kind, hkind⟩ := Option.isSome_iff_exists.mp hp'
        exact .inSection hkind ⟨rule, hmem, hp, handedAll_mono (fun _ _ _ => trivial) hts⟩ hpart
      · exact .leaf hleaf (handedAll_bare hbare hts)
  · exact absurd hfits Bool.false_ne_true

/-! ## Rules of expressions -/

theorem closed_alias {lhs : Nonterminal} {options : List Nonterminal}
    (h : ∀ n ∈ options, n.shape = lhs.shape) :
    Closed good (Shaped good) (anyOf lhs options) := by
  refine closed_anyOf fun n hn ts hts => ?_
  rwa [Shaped, ← h n hn]

theorem closed_form {lhs : Nonterminal} {f : Form} {p : Production}
    (hl : lhs.shape = .one f)
    (h : ∀ ts e, HandedSlots good (Shaped good) slots ts → Phrase f (.node p e ts)) :
    Closed good (Shaped good) (node lhs p slots) := by
  refine closed_node fun ts e hts => ?_
  rw [Shaped, hl]
  exact ⟨_, h ts e hts, rfl⟩

theorem closed_infix {level next : Nonterminal} {t : Terminal} {op : BinaryOp}
    (hlevel : level.shape = .one .term) (hnext : next.shape = .one .term)
    (ht : t.isSilent = true) : Closed good (Shaped good) (infixRule level next t op) := by
  refine closed_form hlevel fun ts e h => ?_
  simp only [slots_sub, slots_silent ht, slots_nil, Shaped, hlevel, hnext, Shape.Holds] at h
  obtain ⟨_, _, ⟨x, hx, rfl⟩, ⟨-, _, _, ⟨y, hy, rfl⟩, rfl, rfl⟩, rfl⟩ := h
  exact .binary op hx hy

theorem closed_series {f : Form} {first more : Nonterminal} (hf : first.shape = .one f)
    (hm : more.shape = .many f)
    (h : HandedSlots good (Shaped good) (series first more :: slots) ts) :
    ∃ front rest, (∀ t ∈ front, Phrase f t) ∧
      HandedSlots good (Shaped good) slots rest ∧ ts = front ++ rest := by
  refine slots_series ?_ ?_ h
  · intro us hus t ht
    rw [Shaped, hf] at hus
    obtain ⟨x, hx, rfl⟩ := hus
    rw [List.mem_singleton.mp ht]
    exact hx
  · intro us hus
    rwa [Shaped, hm] at hus

theorem closed_exprRules : Closed good (Shaped good) exprRules := by
  unfold exprRules
  repeat' apply closed_append
  -- the levels of precedence
  · refine closed_form rfl fun ts e h => ?_
    simp only [slots_sub, slots_nil, Shaped, Nonterminal.shape, Shape.Holds] at h
    obtain ⟨_, _, ⟨x, hx, rfl⟩, rfl, rfl⟩ := h
    exact .expr hx
  · exact closed_infix rfl rfl rfl
  · exact closed_alias (by decide)
  · exact closed_infix rfl rfl rfl
  · exact closed_alias (by decide)
  · exact closed_infix rfl rfl rfl
  · exact closed_infix rfl rfl rfl
  · exact closed_infix rfl rfl rfl
  · exact closed_infix rfl rfl rfl
  · exact closed_infix rfl rfl rfl
  · exact closed_infix rfl rfl rfl
  · exact closed_alias (by decide)
  · exact closed_infix rfl rfl rfl
  · exact closed_infix rfl rfl rfl
  · exact closed_alias (by decide)
  · exact closed_infix rfl rfl rfl
  · exact closed_infix rfl rfl rfl
  · exact closed_infix rfl rfl rfl
  · exact closed_alias (by decide)
  · exact closed_alias (by decide)
  · refine closed_form rfl fun ts e h => ?_
    simp only [slots_sub, slots_nil, Shaped,
      Nonterminal.shape, Shape.Holds] at h
    obtain ⟨_, _, ⟨x, hx, rfl⟩, rfl, rfl⟩ := h
    exact .operand hx
  · refine closed_form rfl fun ts e h => ?_
    simp (disch := decide) only [slots_silent, slots_sub, slots_nil, Shaped,
      Nonterminal.shape, Shape.Holds] at h
    obtain ⟨-, ⟨_, _, ⟨x, hx, rfl⟩, ⟨-, rfl⟩, rfl⟩⟩ := h
    exact .group hx
  · exact closed_alias (by decide)
  · refine closed_form rfl fun ts e h => ?_
    simp (disch := decide) only [slots_silent, slots_sub, slots_nil, Shaped,
      Nonterminal.shape, Shape.Holds] at h
    obtain ⟨-, ⟨_, _, ⟨x, hx, rfl⟩, rfl, rfl⟩⟩ := h
    exact .negate hx
  · refine closed_form rfl fun ts e h => ?_
    simp (disch := decide) only [slots_silent, slots_sub, slots_nil, Shaped,
      Nonterminal.shape, Shape.Holds] at h
    obtain ⟨-, ⟨_, _, ⟨x, hx, rfl⟩, rfl, rfl⟩⟩ := h
    exact .unaryMinus hx
  · refine closed_form rfl fun ts e h => ?_
    simp (disch := decide) only [slots_silent, slots_sub, slots_nil, Shaped,
      Nonterminal.shape, Shape.Holds] at h
    obtain ⟨-, ⟨_, _, ⟨x, hx, rfl⟩, rfl, rfl⟩⟩ := h
    exact .unaryPlus hx
  · refine closed_form rfl fun ts e h => ?_
    obtain ⟨-, h⟩ := (slots_silent (a := .lsqb) rfl).mp h
    obtain ⟨xs, _, hxs, hrest, rfl⟩ := closed_series rfl rfl h
    obtain ⟨-, rfl⟩ :=
      (slots_silent (a := .rsqb) rfl).mp (slots_maybeSilent (a := .comma) rfl hrest)
    rw [List.append_nil]
    exact .array hxs
  · refine closed_form rfl fun ts e h => ?_
    simp (disch := decide) only [slots_silent, slots_sub, slots_nil, Shaped,
      Nonterminal.shape, Shape.Holds] at h
    obtain ⟨_, _, ⟨x, hx, rfl⟩, ⟨-, ⟨_, _, ⟨y, hy, rfl⟩, ⟨-, rfl⟩, rfl⟩⟩, rfl⟩ := h
    exact .index hx hy
  · refine closed_form rfl fun ts e h => ?_
    simp (disch := decide) only [slots_silent, slots_sub, slots_nil, Shaped,
      Nonterminal.shape, Shape.Holds] at h
    obtain ⟨-, ⟨_, _, ⟨x, hx, rfl⟩, ⟨-, ⟨_, _, ⟨y, hy, rfl⟩, ⟨-, rfl⟩, rfl⟩⟩, rfl⟩⟩ := h
    exact .pair hx hy
  · refine closed_form rfl fun ts e h => ?_
    obtain ⟨-, h⟩ := (slots_silent (a := .lbrace) rfl).mp h
    obtain ⟨xs, _, hxs, hrest, rfl⟩ := closed_series rfl rfl h
    obtain ⟨-, rfl⟩ :=
      (slots_silent (a := .rbrace) rfl).mp (slots_maybeSilent (a := .comma) rfl hrest)
    rw [List.append_nil]
    exact .map hxs
  · refine closed_form rfl fun ts e h => ?_
    simp (disch := decide) only [slots_silent, slots_sub, slots_nil, Shaped,
      Nonterminal.shape, Shape.Holds] at h
    obtain ⟨-, ⟨_, _, ⟨c, hc, rfl⟩, ⟨-, ⟨_, _, ⟨x, hx, rfl⟩,
      ⟨-, ⟨_, _, ⟨y, hy, rfl⟩, rfl, rfl⟩⟩, rfl⟩⟩, rfl⟩⟩ := h
    exact .ifThenElse hc hx hy
  · refine closed_form rfl fun ts e h => ?_
    obtain ⟨k, _, -, -, hargs, rfl⟩ := (slots_kept (a := .name) rfl).mp h
    obtain ⟨-, hargs⟩ := (slots_silent (a := .lpar) rfl).mp hargs
    obtain ⟨xs, _, hxs, hrest, rfl⟩ := closed_series rfl rfl hargs
    obtain ⟨-, rfl⟩ := (slots_silent (a := .rpar) rfl).mp hrest
    rw [List.append_nil]
    exact .apply k hxs
  · refine closed_form rfl fun ts e h => ?_
    simp (disch := decide) only [slots_silent, slots_kept, slots_sub, Shaped, Nonterminal.shape,
      Shape.Holds] at h
    obtain ⟨k, _, -, -, ⟨-, _, _, ⟨x, hx, rfl⟩, hmore, rfl⟩, rfl⟩ := h
    obtain ⟨xs, _, hxs, hrest, rfl⟩ := slots_maybe (List.forall_mem_nil _) hmore
    obtain ⟨-, rfl⟩ :=
      (slots_silent (a := .rbrace) rfl).mp (slots_maybeSilent (a := .comma) rfl hrest)
    rw [List.append_nil]
    exact .object k (List.forall_mem_cons.mpr ⟨hx, hxs⟩)
  · refine closed_form rfl fun ts e h => ?_
    simp (disch := decide) only [slots_silent, slots_kept, slots_nil] at h
    obtain ⟨k, _, -, -, ⟨-, -, rfl⟩, rfl⟩ := h
    exact .object k (List.forall_mem_nil _)
  · refine closed_form rfl fun ts e h => ?_
    simp (disch := decide) only [slots_kept, slots_nil] at h
    obtain ⟨k, _, -, -, rfl, rfl⟩ := h
    exact .leftName k
  · refine closed_form rfl fun ts e h => ?_
    simp (disch := decide) only [slots_silent, slots_kept, slots_sub, slots_nil, Shaped,
      Nonterminal.shape, Shape.Holds] at h
    obtain ⟨_, _, ⟨x, hx, rfl⟩, ⟨-, k, _, -, -, rfl, rfl⟩, rfl⟩ := h
    exact .member k hx
  · exact closed_alias (by decide)
  · refine closed_form rfl fun ts e h => ?_
    simp (disch := decide) only [slots_silent, slots_sub, slots_nil, Shaped,
      Nonterminal.shape, Shape.Holds] at h
    obtain ⟨_, _, ⟨x, hx, rfl⟩, ⟨-, ⟨_, _, ⟨y, hy, rfl⟩, rfl, rfl⟩⟩, rfl⟩ := h
    exact .mapEntry hx hy
  · refine closed_form rfl fun ts e h => ?_
    simp (disch := decide) only [slots_silent, slots_kept, slots_sub, slots_nil, Shaped,
      Nonterminal.shape, Shape.Holds] at h
    obtain ⟨k, _, -, -, ⟨-, ⟨_, _, ⟨x, hx, rfl⟩, rfl, rfl⟩⟩, rfl⟩ := h
    exact .nameEntry k hx
  · refine closed_form rfl fun ts e h => ?_
    simp (disch := decide) only [slots_silent, slots_sub, slots_nil, Shaped,
      Nonterminal.shape, Shape.Holds] at h
    obtain ⟨_, _, ⟨x, hx, rfl⟩, ⟨-, ⟨_, _, ⟨y, hy, rfl⟩, rfl, rfl⟩⟩, rfl⟩ := h
    exact .literalEntry hx hy

theorem closed_string {lhs part parts : Nonterminal} {a : Terminal}
    (hl : lhs.shape = .one .term) (hpart : part.shape = .one .fragment)
    (hparts : parts.shape = .many .interpolation) (ha : a.isSilent = false) :
    Closed good (Shaped good) (node lhs .string [tok a, sub part, maybe parts, tok a]) := by
  refine closed_form hl fun ts e h => ?_
  simp only [slots_kept ha, slots_sub, Shaped, hpart, Shape.Holds] at h
  obtain ⟨k, _, -, -, ⟨_, _, ⟨x, hx, rfl⟩, hmore, rfl⟩, rfl⟩ := h
  have hnone : Shaped good parts [] := by
    rw [Shaped, hparts]
    exact List.forall_mem_nil _
  obtain ⟨xs, _, hxs, hrest, rfl⟩ := slots_maybe hnone hmore
  obtain ⟨l, _, -, -, rfl, rfl⟩ := (slots_kept ha).mp hrest
  rw [Shaped, hparts] at hxs
  exact .string k l hx hxs

theorem closed_fragment {lhs : Nonterminal} {a : Terminal} (hl : lhs.shape = .one .fragment)
    (ha : a.isSilent = false) :
    Closed good (Shaped good) (node lhs .stringPart [maybeTok a]) := by
  refine closed_form hl fun ts e h => ?_
  rcases slots_optional h with rfl | h
  · exact .noFragment
  · obtain ⟨k, _, -, -, rfl, rfl⟩ := (slots_kept ha).mp h
    exact .fragment k

theorem closed_exprPart {lhs : Nonterminal} (hl : lhs.shape = .one .exprPart) :
    Closed good (Shaped good)
      (node lhs .stringExprPart [tok .placeholderOpen, sub .placeholder, tok .rbrace]) := by
  refine closed_form hl fun ts e h => ?_
  simp (disch := decide) only [slots_silent, slots_sub, slots_nil, Shaped, Nonterminal.shape,
    Shape.Holds] at h
  obtain ⟨-, _, _, ⟨x, hx, rfl⟩, ⟨-, rfl⟩, rfl⟩ := h
  exact .exprPart hx

theorem closed_interpolation {lhs first second : Nonterminal}
    (hl : lhs.shape = .one .interpolation) (hfirst : first.shape = .one .exprPart)
    (hsecond : second.shape = .one .fragment) :
    Closed good (Shaped good) (node lhs .stringExprWithPart [sub first, sub second]) := by
  refine closed_form hl fun ts e h => ?_
  simp only [slots_sub, slots_nil, Shaped, hfirst, hsecond, Shape.Holds] at h
  obtain ⟨_, _, ⟨x, hx, rfl⟩, ⟨_, _, ⟨y, hy, rfl⟩, rfl, rfl⟩, rfl⟩ := h
  exact .interpolation hx hy

theorem closed_literalRules : Closed good (Shaped good) literalRules := by
  unfold literalRules
  repeat' apply closed_append
  · refine closed_form rfl fun ts e h => ?_
    simp (disch := decide) only [slots_silent, slots_nil] at h
    obtain ⟨-, rfl⟩ := h
    exact .booleanTrue
  · refine closed_form rfl fun ts e h => ?_
    simp (disch := decide) only [slots_silent, slots_nil] at h
    obtain ⟨-, rfl⟩ := h
    exact .booleanFalse
  · refine closed_form rfl fun ts e h => ?_
    simp (disch := decide) only [slots_silent, slots_nil] at h
    obtain ⟨-, rfl⟩ := h
    exact .null
  · refine closed_form rfl fun ts e h => ?_
    simp (disch := decide) only [slots_kept, slots_nil] at h
    obtain ⟨k, _, -, -, rfl, rfl⟩ := h
    exact .int k
  · refine closed_form rfl fun ts e h => ?_
    simp (disch := decide) only [slots_kept, slots_nil] at h
    obtain ⟨k, _, -, -, rfl, rfl⟩ := h
    exact .float k
  · exact closed_alias (by decide)
  · refine closed_form rfl fun ts e h => ?_
    simp (disch := decide) only [slots_kept, slots_nil] at h
    obtain ⟨k, _, -, -, rfl, rfl⟩ := h
    exact .literal k
  · refine closed_form rfl fun ts e h => ?_
    simp (disch := decide) only [slots_kept, slots_nil] at h
    obtain ⟨k, _, -, -, rfl, rfl⟩ := h
    exact .literal k
  · exact closed_string rfl rfl rfl rfl
  · exact closed_fragment rfl rfl
  · exact closed_exprPart rfl
  · exact closed_interpolation rfl rfl rfl
  · exact closed_string rfl rfl rfl rfl
  · exact closed_fragment rfl rfl
  · exact closed_exprPart rfl
  · exact closed_interpolation rfl rfl rfl

/-- Lists of parts of one form can be joined. -/
theorem closed_listOf {lhs : Nonterminal} {f : Form} (hl : lhs.shape = .many f)
    (hitem : ∀ ts, HandedSlots good (Shaped good) slots ts → ∃ x, Phrase f x ∧ ts = [x]) :
    Closed good (Shaped good) (many lhs slots) := by
  refine closed_many (fun ts h => ?_) fun us vs hus hvs => ?_
  · obtain ⟨x, hx, rfl⟩ := hitem ts h
    rw [Shaped, hl]
    exact List.forall_mem_singleton.mpr hx
  · rw [Shaped, hl] at hus hvs ⊢
    exact List.forall_mem_append.mpr ⟨hus, hvs⟩

theorem closed_list {lhs item : Nonterminal} {f : Form} (hl : lhs.shape = .many f)
    (hitem : item.shape = .one f) : Closed good (Shaped good) (many lhs [sub item]) := by
  refine closed_listOf hl fun ts h => ?_
  simp only [slots_sub, slots_nil, Shaped, hitem, Shape.Holds] at h
  obtain ⟨_, _, hx, rfl, rfl⟩ := h
  rwa [List.append_nil]

theorem closed_commaList {lhs item : Nonterminal} {f : Form} (hl : lhs.shape = .many f)
    (hitem : item.shape = .one f) :
    Closed good (Shaped good) (many lhs [tok .comma, sub item]) := by
  refine closed_listOf hl fun ts h => ?_
  simp (disch := decide) only [slots_silent, slots_sub, slots_nil, Shaped, hitem,
    Shape.Holds] at h
  obtain ⟨-, _, _, hx, rfl, rfl⟩ := h
  rwa [List.append_nil]

theorem closed_commandRules : Closed good (Shaped good) commandRules := by
  unfold commandRules
  repeat' apply closed_append
  · exact closed_outside (by decide +kernel)
  · exact closed_outside (by decide +kernel)
  · exact closed_outside (by decide +kernel)
  · exact closed_outside (by decide +kernel)
  · refine closed_form rfl fun ts e h => ?_
    simp only [slots_sub, slots_nil, Shaped, Nonterminal.shape, Shape.Holds] at h
    obtain ⟨_, _, ⟨x, hx, rfl⟩, rfl, rfl⟩ := h
    exact .literalValue hx
  · refine closed_form rfl fun ts e h => ?_
    simp (disch := decide) only [slots_kept, slots_nil] at h
    obtain ⟨k, _, -, -, rfl, rfl⟩ := h
    exact .numberValue k
  · refine closed_form rfl fun ts e h => ?_
    simp (disch := decide) only [slots_kept, slots_nil] at h
    obtain ⟨k, _, -, -, rfl, rfl⟩ := h
    exact .numberValue k
  · intro rule hrule ts e h
    obtain ⟨a, -, rfl⟩ := List.mem_map.mp hrule
    obtain ⟨_, _, ⟨k, -, -, rfl⟩, rfl, rfl⟩ := h
    exact ⟨k, rfl⟩
  · refine closed_form rfl fun ts e h => ?_
    simp (disch := decide) only [slots_silent, slots_sub, slots_nil, Shaped, Nonterminal.shape,
      Shape.Holds] at h
    obtain ⟨_, _, ⟨k, rfl⟩, ⟨-, _, _, ⟨x, hx, rfl⟩, rfl, rfl⟩, rfl⟩ := h
    exact .placeholderOption k hx
  · refine closed_form rfl fun ts e h => ?_
    obtain ⟨xs, _, hxs, hrest, rfl⟩ := slots_maybe (List.forall_mem_nil _) h
    simp only [slots_sub, slots_nil, Shaped, Nonterminal.shape, Shape.Holds] at hrest
    obtain ⟨_, _, ⟨y, hy, rfl⟩, rfl, rfl⟩ := hrest
    exact .placeholder hxs hy

theorem closed_repetitionRules : Closed good (Shaped good) repetitionRules := by
  refine closed_append ?_ (closed_list (f := .placeholderOption) rfl rfl)
  refine closed_append ?_ (closed_outside (by decide +kernel))
  refine closed_append ?_ (closed_outside (by decide +kernel))
  refine closed_append ?_ (closed_list (f := .interpolation) rfl rfl)
  refine closed_append ?_ (closed_list (f := .interpolation) rfl rfl)
  refine closed_append ?_ (closed_commaList (f := .objectEntry) rfl rfl)
  refine closed_append ?_ (closed_commaList (f := .mapEntry) rfl rfl)
  refine closed_append ?_ (closed_commaList (f := .expr) rfl rfl)
  exact closed_outside (by decide +kernel)

/-- The trees of every nonterminal have the shape of the nonterminal. -/
theorem closed_shape : Closed good (Shaped good) rules := by
  refine closed_append ?_ closed_repetitionRules
  refine closed_append ?_ closed_commandRules
  refine closed_append ?_ closed_literalRules
  refine closed_append ?_ closed_exprRules
  exact closed_outside (by decide +kernel)

end Grammar
end Wdl
