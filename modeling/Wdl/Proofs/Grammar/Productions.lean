import Wdl.Proofs.Compile.Residue
import Wdl.Proofs.Grammar.Ends
import Wdl.Proofs.Grammar.Outline
import Wdl.Proofs.Grammar.Phrase

/-!
The productions inside a tree.

What a derivation makes, its rules make part by part: the children of a production in a derived tree
are derived, and are what a rule of the production is handed, `Derived.of_rule`.  So what is known
of the trees of a nonterminal is known wherever in a tree the nonterminal stands, and in particular
the parts of expressions have their forms, `Derived.phrase`.

The blocks of keys and values, the calls and the structs each list entries of one production, and
besides them nothing in such a production builds a node, nor does anything in an entry but its
expression: `Derived.lists`.  In between stand only the braces, targets and types of the grammar.

Directly below a task or workflow there are only blocks, declarations, calls and regions, each of
which builds a node: `Derived.spots_of_executable`.  What builds a node is made from tokens, so it
has an extent, `Derived.exists_extent`.
-/

namespace Wdl

/-- The form of the trees of a production that is a part of expressions. -/
def Production.form? : Production → Option Form
  | .expr => some .expr
  | .exprOperand => some .operand
  | .binary _ | .group | .negate | .unaryMinus | .unaryPlus | .array | .index | .pair | .map
  | .ifThenElse | .apply | .object | .leftName | .member | .booleanTrue | .booleanFalse | .null
  | .int | .float | .string => some .term
  | .mapEntry => some .mapEntry
  | .objectEntry => some .objectEntry
  | .stringLiteral => some .literal
  | .stringPart => some .fragment
  | .stringExprPart => some .exprPart
  | .stringExprWithPart => some .interpolation
  | .placeholder => some .placeholder
  | .placeholderOption => some .placeholderOption
  | .placeholderValue => some .optionValue
  | _ => none

namespace Grammar

open Parse

/-- A derived production is what one of its rules makes of derived parts. -/
theorem Derived.exists_parts {p : Production} {e : Option Extent} {cs : List Tree}
    (h : Derived (.node p e cs)) : ∃ rule ∈ rules, rule.production = some p ∧
      ∃ parts : List (Parse.Entry × List Token), parts.map (fun q => q.1.symbol) = rule.rhs ∧
        (∀ q ∈ parts, q.1.Derives rules q.2) ∧
        e = Extent.hull ((parts.map Prod.fst).map Parse.Entry.extent?) ∧
        cs = (parts.map Prod.fst).flatMap (Parse.Entry.trees rule.verbatim) := by
  obtain ⟨entry, ks, verbatim, hd, ht⟩ := h
  induction hd generalizing verbatim with
  | token k =>
    simp only [Entry.trees] at ht
    split at ht
    · cases List.mem_singleton.mp ht
    · exact absurd ht List.not_mem_nil
  | @combine rule mem parts symbols derived ih =>
    rw [trees_combine, wrap] at ht
    cases hp : rule.production with
    | none =>
      rw [hp] at ht
      obtain ⟨entry, hentry, ht⟩ := List.mem_flatMap.mp ht
      obtain ⟨part, hpart, rfl⟩ := List.mem_map.mp hentry
      exact ih part hpart rule.verbatim ht
    | some q =>
      rw [hp] at ht
      cases List.mem_singleton.mp ht
      exact ⟨rule, mem, hp, parts, symbols, derived, rfl, rfl⟩

/-- The children of a derived production are derived, and are handed to one of its rules, whatever
shapes the rules keep. -/
theorem Derived.of_rule {p : Production} {e : Option Extent} {cs : List Tree}
    (h : Derived (.node p e cs)) : ∃ rule ∈ rules, rule.production = some p ∧
      (∀ S, Closed (fun _ => True) S rules →
        HandedAll (fun _ => True) S rule.verbatim rule.rhs cs) ∧ ∀ c ∈ cs, Derived c := by
  obtain ⟨rule, mem, hp, parts, symbols, derived, -, rfl⟩ := h.exists_parts
  refine ⟨rule, mem, hp, fun S hS => ?_, fun c hc => ?_⟩
  · rw [← symbols]
    exact handedAll_of_parts parts fun part hpart =>
      (derived part hpart).shape hS (fun _ _ => trivial) rule.verbatim
  · obtain ⟨entry, hentry, hc⟩ := List.mem_flatMap.mp hc
    obtain ⟨part, hpart, rfl⟩ := List.mem_map.mp hentry
    exact ⟨part.1, part.2, rule.verbatim, derived part hpart, hc⟩

theorem Derived.children {p : Production} {e : Option Extent} {cs : List Tree}
    (h : Derived (.node p e cs)) : ∀ c ∈ cs, Derived c := by
  obtain ⟨rule, -, -, -, hcs⟩ := h.of_rule
  exact hcs

theorem Derived.of_children {t : Tree} (h : Derived t) : ∀ c ∈ t.children, Derived c := by
  cases t with
  | token k => exact List.forall_mem_nil _
  | node p e cs => exact h.children

mutual

/-- The productions inside a derived tree are derived. -/
theorem Derived.of_mem {path : Tree.Path} {y : Tree.Path × Tree} : {t : Tree} → Derived t →
    y ∈ t.preorderAt path → Derived y.2
  | .token _, _, hy => absurd hy List.not_mem_nil
  | .node _ _ _, h, hy => by
    rcases List.mem_cons.mp hy with rfl | hy
    · exact h
    · exact Derived.of_mem_list h.children hy

theorem Derived.of_mem_list {path : Tree.Path} {i : Nat} {y : Tree.Path × Tree} :
    {cs : List Tree} → (∀ c ∈ cs, Derived c) → y ∈ Tree.preorderList path i cs → Derived y.2
  | [], _, hy => absurd hy List.not_mem_nil
  | _ :: _, h, hy => by
    obtain ⟨hc, hcs⟩ := List.forall_mem_cons.mp h
    rcases List.mem_append.mp hy with hy | hy
    · exact Derived.of_mem hc hy
    · exact Derived.of_mem_list hcs hy

end

/-- Whether the production of a rule has the form of the nonterminal that the rule is for. -/
def isFormed (r : Rule) : Bool :=
  match r.production.bind Production.form? with
  | some f => r.lhs.shape == .one f
  | none => true

theorem rules_formed : rules.all isFormed = true := by decide +kernel

/-- A derived production that is a part of expressions has its form. -/
theorem Derived.phrase {p : Production} {e : Option Extent} {cs : List Tree}
    (h : Derived (.node p e cs)) {f : Form} (hf : p.form? = some f) :
    Phrase f (.node p e cs) := by
  have hclosed : Closed (fun _ => True) (Shaped fun _ => True) rules := closed_shape
  obtain ⟨rule, hrule, hp, hcs, -⟩ := h.of_rule
  have hformed := List.all_eq_true.mp rules_formed rule hrule
  have hone := hclosed rule hrule cs e (hcs _ hclosed)
  rw [isFormed, hp, Option.bind_some, hf] at hformed
  rw [Shaped, eq_of_beq hformed, wrap, hp] at hone
  obtain ⟨x, hx, heq⟩ := hone
  rw [List.singleton_inj.mp heq]
  exact hx

end Grammar
end Wdl

/-! ## Productions that list entries -/

namespace Wdl

/-- The production of the entries that a production lists. -/
def Production.listing? : Production → Option Production
  | .metaSection | .parameterMetaSection => some .metaEntry
  | .runtimeSection => some .runtimeEntry
  | .call => some .callInput
  | .struct => some .decl
  | _ => none

/-- The productions that only hold others and tokens together. -/
def Production.isIdle : Production → Bool
  | .importAs | .importAlias | .callTarget | .callAlias | .callAfter | .callInputs | .inputColon
  | .metaObject | .metaNestedObject | .metaArray | .metaObjectEntry | .metaScalar | .type
  | .optional | .nonempty | .optionalNonempty | .stringLiteral => true
  | _ => false

/-- Trees in which nothing happens but at their tokens. -/
inductive Inactive : Tree → Prop
  | token (k : Token) : Inactive (.token k)
  | node {p : Production} {e : Option Extent} {cs : List Tree} :
    p.isIdle = true → (∀ c ∈ cs, Inactive c) → Inactive (.node p e cs)

/-- Trees in which nothing happens but at entries of one production, none of which is in another. -/
inductive Lists (q : Production) : Tree → Prop
  | token (k : Token) : Lists q (.token k)
  | idle {p : Production} {e : Option Extent} {cs : List Tree} :
    p.isIdle = true → (∀ c ∈ cs, Lists q c) → Lists q (.node p e cs)
  | entry {e : Option Extent} {cs : List Tree} : (∀ c ∈ cs, Inert c) →
    (q.isLeaf = true → ∀ c ∈ cs, Inactive c) → Lists q (.node q e cs)

theorem Inactive.lists {q : Production} {t : Tree} (h : Inactive t) : Lists q t := by
  induction h with
  | token k => exact .token k
  | node hp _ ih => exact .idle hp ih

theorem Inactive.inert {t : Tree} (h : Inactive t) : Inert t := by
  induction h with
  | token k => exact .token k
  | @node p e cs hp _ ih =>
    obtain ⟨hsection, hleaf⟩ : p.sectionKind? = none ∧ p.isLeaf = false := by
      cases p <;> first | exact ⟨rfl, rfl⟩ | exact nomatch hp
    exact .node hsection hleaf ih

namespace Grammar

open Parse

/-- The nonterminals of targets, types, aliases and plain values. -/
def isPlain : Nonterminal → Bool
  | .importAs | .importAlias | .importAliases | .callTarget | .targetSegments | .callAlias
  | .callAfter | .callAfters | .inputColon | .metaValue | .metaScalar | .metaObjectEntry
  | .moreMetaObjectEntries | .moreMetaValues | .type | .quantifier | .optional | .nonempty
  | .optionalNonempty | .stringLiteral => true
  | _ => false

/-- The entries that the trees of a nonterminal list. -/
def listed? : Nonterminal → Option Production
  | .structMembers | .unboundDecl => some .decl
  | .callBody | .callInputs | .moreCallInputs | .callInput => some .callInput
  | .metaObject | .metaEntry | .moreMetaEntries => some .metaEntry
  | .runtimeEntry | .moreRuntimeEntries => some .runtimeEntry
  | _ => none

def plainSymbol : Symbol → Bool
  | .terminal _ => true
  | .nonterminal n => isPlain n

/-- Whether nothing but an expression builds a node in the trees of a symbol. -/
def inertSymbol : Symbol → Bool
  | .terminal _ => true
  | .nonterminal n => isPlain n || n == .expr

def listingSymbol (q : Production) : Symbol → Bool
  | .terminal _ => true
  | .nonterminal n => isPlain n || listed? n == some q

/-- Whether the trees of a rule list only entries of one production. -/
def listsOnly (q : Production) (r : Rule) : Bool :=
  match r.production with
  | some p =>
    if p = q then r.rhs.all inertSymbol && (!q.isLeaf || r.rhs.all plainSymbol)
    else p.isIdle && r.rhs.all (listingSymbol q)
  | none => r.rhs.all (listingSymbol q)

/-- Whether a rule keeps to what its nonterminal and its production list. -/
def keepsLists (r : Rule) : Bool :=
  (!isPlain r.lhs || (r.production.all Production.isIdle && r.rhs.all plainSymbol)) &&
  (r.production != some .importDoc || r.rhs.all plainSymbol) &&
  (listed? r.lhs).all (listsOnly · r) &&
  (r.production.bind Production.listing?).all fun q => r.rhs.all (listingSymbol q)

theorem rules_keepLists : rules.all keepsLists = true := by decide +kernel

variable {good : Token → Prop}

/-- The trees of a nonterminal have its shape, and list what it lists. -/
structure Listing (good : Token → Prop) (n : Nonterminal) (ts : List Tree) : Prop where
  shaped : Shaped good n ts
  plain : isPlain n = true → ∀ t ∈ ts, Inactive t
  lists : ∀ q, listed? n = some q → ∀ t ∈ ts, Lists q t

/-- What holds of tokens, and of the trees of the nonterminals that pass a check, holds of all trees
that are handed to symbols that pass it. -/
theorem forall_of_check {S : Nonterminal → List Tree → Prop} {P : Tree → Prop} {f : Symbol → Bool}
    (htoken : ∀ k, P (.token k))
    (hnonterminal : ∀ n ts, f (.nonterminal n) = true → S n ts → ∀ t ∈ ts, P t)
    {v : Bool} {xs : List Symbol} {ts : List Tree} (hxs : xs.all f = true)
    (h : HandedAll good S v xs ts) : ∀ t ∈ ts, P t := by
  induction xs generalizing ts with
  | nil =>
    rw [show ts = [] from h]
    exact List.forall_mem_nil _
  | cons x xs ih =>
    obtain ⟨front, back, hfront, hback, rfl⟩ := h
    rw [List.all_cons, Bool.and_eq_true] at hxs
    refine List.forall_mem_append.mpr ⟨?_, ih hxs.2 hback⟩
    cases x with
    | terminal a =>
      obtain ⟨k, -, -, rfl⟩ := hfront
      exact Entry.forall_trees_token (htoken k) v
    | nonterminal n => exact hnonterminal n front hxs.1 hfront

variable {v : Bool} {xs : List Symbol} {ts : List Tree} {q : Production}

theorem inactive_of_check (hxs : xs.all plainSymbol = true)
    (h : HandedAll good (Listing good) v xs ts) : ∀ t ∈ ts, Inactive t :=
  forall_of_check .token (fun _ _ hn h => h.plain hn) hxs h

theorem inert_of_check (hxs : xs.all inertSymbol = true)
    (h : HandedAll good (Listing good) v xs ts) : ∀ t ∈ ts, Inert t := by
  refine forall_of_check .token (fun n ts hn h => ?_) hxs h
  rw [inertSymbol, Bool.or_eq_true, beq_iff_eq] at hn
  rcases hn with hn | rfl
  · exact fun t ht => (h.plain hn t ht).inert
  · obtain ⟨t, ht, rfl⟩ := h.shaped
    exact List.forall_mem_singleton.mpr ht.inert

theorem lists_of_check (hxs : xs.all (listingSymbol q) = true)
    (h : HandedAll good (Listing good) v xs ts) : ∀ t ∈ ts, Lists q t := by
  refine forall_of_check .token (fun n ts hn h => ?_) hxs h
  rw [listingSymbol, Bool.or_eq_true, beq_iff_eq] at hn
  rcases hn with hn | hn
  · exact fun t ht => (h.plain hn t ht).lists
  · exact h.lists q hn

theorem closed_listing : Closed good (Listing good) rules := by
  intro rule hrule ts e hts
  have hkeeps := List.all_eq_true.mp rules_keepLists rule hrule
  simp only [keepsLists, Bool.and_eq_true, Bool.or_eq_true, Bool.not_eq_true', Option.all_eq_true]
    at hkeeps
  obtain ⟨⟨⟨hplain, -⟩, hlisted⟩, -⟩ := hkeeps
  refine ⟨closed_shape rule hrule ts e (handedAll_mono (fun _ _ h => h.shaped) hts), fun h => ?_,
    fun q hq => ?_⟩
  · obtain ⟨hidle, hrhs⟩ := hplain.resolve_left (Bool.eq_false_iff.not_left.mpr h)
    have hts := inactive_of_check hrhs hts
    unfold wrap
    cases hp : rule.production with
    | none => exact hts
    | some p => exact List.forall_mem_singleton.mpr (.node (hidle p hp) hts)
  · have honly := hlisted q hq
    unfold listsOnly at honly
    unfold wrap
    cases hp : rule.production with
    | none =>
      rw [hp] at honly
      exact lists_of_check honly hts
    | some p =>
      rw [hp] at honly
      refine List.forall_mem_singleton.mpr ?_
      dsimp only at honly
      split at honly
      · next heq =>
        subst heq
        rw [Bool.and_eq_true, Bool.or_eq_true, Bool.not_eq_true'] at honly
        refine .entry (inert_of_check honly.1 hts) fun hleaf => ?_
        exact inactive_of_check (honly.2.resolve_left (by simp [hleaf])) hts
      · rw [Bool.and_eq_true] at honly
        exact .idle honly.1 (lists_of_check honly.2 hts)

/-- The children of a derived production that lists entries list them. -/
theorem Derived.lists {p : Production} {e : Option Extent} {cs : List Tree}
    (h : Derived (.node p e cs)) (hq : p.listing? = some q) : ∀ c ∈ cs, Lists q c := by
  obtain ⟨rule, hrule, hp, hcs, -⟩ := h.of_rule
  have hkeeps := List.all_eq_true.mp rules_keepLists rule hrule
  rw [keepsLists, hp, Option.bind_some, hq, Bool.and_eq_true] at hkeeps
  exact lists_of_check hkeeps.2 (hcs _ closed_listing)

/-- Nothing happens in a derived import. -/
theorem Derived.inactive_of_import {e : Option Extent} {cs : List Tree}
    (h : Derived (.node .importDoc e cs)) : ∀ c ∈ cs, Inactive c := by
  obtain ⟨rule, hrule, hp, hcs, -⟩ := h.of_rule
  have hkeeps := List.all_eq_true.mp rules_keepLists rule hrule
  simp only [keepsLists, hp, Bool.and_eq_true, Bool.or_eq_true, bne_self_eq_false,
    Bool.false_eq_true, false_or] at hkeeps
  exact inactive_of_check hkeeps.1.1.2 (hcs _ closed_listing)

end Grammar
end Wdl

/-! ## Elements of tasks and workflows -/

namespace Wdl

/-- The productions of tasks and workflows. -/
def Production.isExecutable : Production → Bool
  | .workflow | .task => true
  | _ => false

namespace Grammar

open Parse

/-- The nonterminals of the elements of tasks and workflows. -/
def isElement : Nonterminal → Bool
  | .workflowElement | .workflowElements | .taskElement | .taskElements | .inputBlock
  | .outputBlock | .command | .metaSection | .parameterMetaSection | .runtimeSection | .anyDecl
  | .unboundDecl | .boundDecl | .call | .scatter | .conditional => true
  | _ => false

/-- Whether the trees of a symbol are elements, if they are nodes at all. -/
def makesElements : Symbol → Bool
  | .terminal _ => true
  | .nonterminal n => isElement n

/-- Whether a rule makes nothing but elements where there have to be elements. -/
def keepsElements (r : Rule) : Bool :=
  (!isElement r.lhs ||
    match r.production with
    | some p => p.nodeKind?.isSome
    | none => r.rhs.all makesElements) &&
  r.production.all fun p => !p.isExecutable || r.rhs.all makesElements

theorem rules_keepElements : rules.all keepsElements = true := by decide +kernel

/-- The trees of elements that are nodes build nodes of documents. -/
def Elements (n : Nonterminal) (ts : List Tree) : Prop :=
  isElement n = true → ∀ t ∈ ts, t.production?.isSome = true → t.spot?.isSome = true

variable {good : Token → Prop} {v : Bool} {xs : List Symbol} {ts cs : List Tree}
  {p : Production} {e : Option Extent}

theorem spots_of_check (hxs : xs.all makesElements = true) (h : HandedAll good Elements v xs ts) :
    ∀ t ∈ ts, t.production?.isSome = true → t.spot?.isSome = true :=
  forall_of_check (fun _ hnone => nomatch hnone) (fun _ _ hn h => h hn) hxs h

theorem closed_elements : Closed good Elements rules := by
  intro rule hrule ts e hts helement
  have hkeeps := List.all_eq_true.mp rules_keepElements rule hrule
  rw [keepsElements, helement, Bool.not_true, Bool.false_or, Bool.and_eq_true] at hkeeps
  obtain ⟨hkeeps, -⟩ := hkeeps
  unfold wrap
  cases hp : rule.production with
  | none =>
    rw [hp] at hkeeps
    exact spots_of_check hkeeps hts
  | some p =>
    rw [hp] at hkeeps
    refine List.forall_mem_singleton.mpr fun _ => ?_
    exact (Option.isSome_map ..).trans hkeeps

/-- All that stands directly below a task or workflow builds nodes. -/
theorem Derived.spots_of_executable (h : Derived (.node p e cs)) (hp : p.isExecutable = true) :
    ∀ c ∈ (Tree.node p e cs).nodes, c.spot?.isSome = true := by
  obtain ⟨rule, hrule, hproduction, hcs, -⟩ := h.of_rule
  have hkeeps := List.all_eq_true.mp rules_keepElements rule hrule
  rw [keepsElements, hproduction, Option.all_some, hp, Bool.not_true, Bool.false_or,
    Bool.and_eq_true] at hkeeps
  intro c hc
  obtain ⟨hc, hnode⟩ := List.mem_filter.mp hc
  exact spots_of_check hkeeps.2 (hcs _ closed_elements) c hc hnode

/-- What builds a node has an extent. -/
theorem Derived.exists_extent (h : Derived (.node p e cs))
    (hspot : (Tree.node p e cs).spot?.isSome = true) : ∃ x, e = some x := by
  obtain ⟨rule, mem, hp, parts, symbols, derived, rfl, rfl⟩ := h.exists_parts
  have hwhole := Entry.Derives.combine mem parts symbols derived
  have hne := rules_solid _ _ hwhole false _
    (by rw [trees_combine, wrap, hp]; exact List.mem_cons_self) hspot
  have hextent := hwhole.extent_eq
  obtain ⟨k, ks, hks⟩ := List.exists_cons_of_ne_nil hne
  rw [extent_combine, hks, hull_of_tokens] at hextent
  exact ⟨_, hextent⟩

end Grammar
end Wdl
