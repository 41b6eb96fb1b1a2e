import Wdl.Proofs.Builder.Rooted
import Wdl.Proofs.Grammar.Legible

/-!
The builder as a state machine.

The events of a parse tree may come in any order, any number of times.  `run_inOrder` collects what
holds after all such sequences: the stack of contexts has the document at its bottom and is unwound
by the ends of sections alone, contexts know whether the document holds their nodes, and what can be
looked up is part of the document.
-/

namespace Wdl
namespace Builder

/-! ## Events -/

/-- The beginning or the end of a part of a parse tree. -/
inductive Event
  | enter (path : Tree.Path) (t : Tree)
  | exit (path : Tree.Path) (t : Tree)

/-- The part of the parse tree that an event is about. -/
def Event.part : Event → Tree.Path × Tree
  | .enter path t => (path, t)
  | .exit path t => (path, t)

def handle (b : Builder) : Event → Builder
  | .enter path t => b.enter path t
  | .exit path t => b.exit path t

def run (b : Builder) (es : List Event) : Builder := es.foldl handle b

/-- The open sections with the document at the bottom, the innermost first. -/
def contexts (b : Builder) : List Context :=
  b.sections ++ [⟨[], b.document, some b.scope, true⟩]

variable {b b' : Builder}

/-! ## Ends of sections -/

/-- What is recorded of the end of a section that is not the innermost one. -/
def mismatch (b : Builder) (t : Tree) (kind : Kind) : DocumentProblem :=
  ⟨.mismatchContext kind (if b.sections.isEmpty then none else some b.currentKind), none,
    some (t.position b.origin)⟩

theorem closeSection_absent {path : Tree.Path} (t : Tree) (kind : Kind)
    (h : ∀ c ∈ b.sections, c.path ≠ path) : b.closeSection path t kind =
      { b with problems := b.problems ++ [b.mismatch t kind] } := by
  have hdrop : (b.sections.dropWhile fun c => c.path != path) = [] := by
    rw [← List.append_nil b.sections,
      List.dropWhile_append_of_pos fun c hc => bne_iff_ne.mpr (h c hc), List.dropWhile_nil]
  unfold closeSection
  dsimp only
  rw [hdrop]
  rfl

theorem closeSection_open {path : Tree.Path} (t : Tree) (kind : Kind) {inner outer : List Context}
    {c : Context} (hsections : b.sections = inner ++ c :: outer) (hc : c.path = path)
    (hinner : ∀ x ∈ inner, x.path ≠ path) : b.closeSection path t kind =
      { b with
        sections := outer
        problems := b.problems ++ if inner.isEmpty then [] else [b.mismatch t kind] } := by
  have hdrop : (b.sections.dropWhile fun c => c.path != path) = c :: outer := by
    rw [hsections, List.dropWhile_append_of_pos fun x hx => bne_iff_ne.mpr (hinner x hx),
      List.dropWhile_cons_of_neg (by simp [hc])]
  unfold closeSection
  dsimp only
  rw [hdrop]
  dsimp only
  cases inner with
  | nil =>
    have hhead : (b.sections.head?.map Context.path == some c.path) = true := by
      rw [hsections]
      exact beq_self_eq_true _
    rw [if_pos hhead]
    simp
  | cons x xs =>
    have hhead : (b.sections.head?.map Context.path == some c.path) = false := by
      rw [hsections, hc]
      exact beq_eq_false_iff_ne.mpr fun heq => hinner x List.mem_cons_self (Option.some.inj heq)
    have hempty : b.sections.isEmpty = false := by
      rw [hsections]
      rfl
    rw [if_neg (by rw [hhead]; exact Bool.false_ne_true)]
    simp [reportAt, mismatch, hempty]

/-- The end of a section closes the innermost section that is open for it and all inside it, and is
a problem unless that is the current one.  If no section is open for it, it is only a problem. -/
def Unwinds (b : Builder) (path : Tree.Path) (t : Tree) (kind : Kind) (b' : Builder) : Prop :=
  ((∀ c ∈ b.sections, c.path ≠ path) ∧
    b' = { b with problems := b.problems ++ [b.mismatch t kind] }) ∨
  ∃ inner c outer, b.sections = inner ++ c :: outer ∧ c.path = path ∧
    (∀ x ∈ inner, x.path ≠ path) ∧
    b' =
      { b with
        sections := outer
        problems := b.problems ++ if inner.isEmpty then [] else [b.mismatch t kind] }

theorem closeSection_unwinds (b : Builder) (path : Tree.Path) (t : Tree) (kind : Kind) :
    b.Unwinds path t kind (b.closeSection path t kind) := by
  cases hfind : b.sections.find? fun c => c.path == path with
  | none =>
    have habsent : ∀ c ∈ b.sections, c.path ≠ path := by
      simpa using List.find?_eq_none.mp hfind
    exact .inl ⟨habsent, closeSection_absent t kind habsent⟩
  | some c =>
    obtain ⟨hc, inner, outer, hsections, hinner⟩ := List.find?_eq_some_iff_append.mp hfind
    have hc : c.path = path := eq_of_beq hc
    have hinner : ∀ x ∈ inner, x.path ≠ path := by simpa using hinner
    exact .inr ⟨inner, c, outer, hsections, hc, hinner,
      closeSection_open t kind hsections hc hinner⟩

theorem exit_section {p : Production} {kind : Kind} (hp : p.sectionKind? = some kind)
    (b : Builder) (path : Tree.Path) (e : Option Extent) (cs : List Tree) :
    b.exit path (.node p e cs) = b.closeSection path (.node p e cs) kind := by
  cases p <;> cases hp <;> rfl

/-- The section that ends is the innermost one. -/
theorem exit_innermost {p : Production} {kind : Kind} (hp : p.sectionKind? = some kind)
    {path : Tree.Path} {c : Context} {outer : List Context} (hsections : b.sections = c :: outer)
    (hc : c.path = path) (e : Option Extent) (cs : List Tree) :
    b.exit path (.node p e cs) = { b with sections := outer } := by
  rw [exit_section hp, closeSection_open _ kind (show _ = [] ++ _ from hsections) hc
    (List.forall_mem_nil _)]
  simp

theorem Unwinds.rooted {path : Tree.Path} {t : Tree} {kind : Kind}
    (hu : b.Unwinds path t kind b') (h : Rooted b) : Rooted b' := by
  rcases hu with ⟨-, rfl⟩ | ⟨inner, c, outer, hsections, -, -, rfl⟩
  · exact h.shrink (.refl _) rfl rfl rfl (fun _ => id) fun _ => id
  · refine h.shrink (.refl _) rfl rfl rfl (fun x hx => ?_) fun _ => id
    rw [hsections]
    exact List.mem_append_right _ (List.mem_cons_of_mem _ hx)

theorem Unwinds.problems {path : Tree.Path} {t : Tree} {kind : Kind}
    (hu : b.Unwinds path t kind b') : b.problems <+: b'.problems := by
  rcases hu with ⟨-, rfl⟩ | ⟨inner, c, outer, -, -, -, rfl⟩ <;> exact List.prefix_append _ _

/-! ## Ends of expressions -/

/-- The end of an expression leaves everything as it is but the expressions that are open. -/
theorem endExpr_eq_shrink (b : Builder) (path : Tree.Path) (t : Tree) :
    ∃ frames problems, frames <:+ b.frames ∧
      b.endExpr path t = { b with frames, problems := b.problems ++ problems } := by
  unfold endExpr
  split
  · next hframes => exact ⟨b.frames, _, List.suffix_refl _, rfl⟩
  · next frame outer hframes =>
    split
    · refine ⟨outer, [], hframes ▸ List.suffix_cons _ _, ?_⟩
      rw [List.append_nil]
    · refine ⟨_, _, ?_, rfl⟩
      exact (List.tail_suffix _).trans (List.dropWhile_suffix _)

theorem endExpr_rooted (h : Rooted b) (path : Tree.Path) (t : Tree) :
    Rooted (b.endExpr path t) := by
  obtain ⟨frames, problems, hframes, heq⟩ := b.endExpr_eq_shrink path t
  rw [heq]
  exact h.shrink (.refl _) rfl rfl rfl (fun _ => id) (hframes.map _).subset

/-! ## One event -/

theorem enter_advances (h : Rooted b) (path : Tree.Path) (t : Tree) :
    Advances b (b.enter path t) := by
  cases t with
  | token k => exact .quiet h (.refl b)
  | node p e cs =>
    cases hsection : p.sectionKind? with
    | some kind => exact enter_section_advances hsection path e cs h
    | none =>
      cases hleaf : p.isLeaf with
      | true => exact enter_leaf_advances hleaf path e cs h
      | false =>
        cases hexpr : p.isExpression with
        | true =>
          obtain ⟨parent, hbegun⟩ := beginExpr_begun h.steady path (.node p e cs)
          have hadvances : Advances b (b.beginExpr path (.node p e cs)) := hbegun.advances h
          cases p <;> first | exact hadvances | exact nomatch hexpr
        | false => exact .quiet h (enter_quiet b hsection hleaf hexpr path e cs)

theorem exit_advances (h : Rooted b) (path : Tree.Path) (t : Tree) :
    Advances b (b.exit path t) := by
  cases t with
  | token k => exact .quiet h (.refl b)
  | node p e cs =>
    cases hsection : p.sectionKind? with
    | some kind =>
      rw [exit_section hsection]
      have hu := b.closeSection_unwinds path (.node p e cs) kind
      refine ⟨hu.rooted h, hu.problems, ?_, ?_⟩ <;>
        rcases hu with ⟨-, heq⟩ | ⟨_, _, _, -, -, -, heq⟩ <;> rw [heq]
    | none =>
      cases hexpr : p.isExpression with
      | true =>
        have hadvances : Advances b (b.endExpr path (.node p e cs)) := by
          obtain ⟨frames, problems, -, heq⟩ := b.endExpr_eq_shrink path (.node p e cs)
          refine ⟨endExpr_rooted h path _, ?_, ?_, ?_⟩ <;> rw [heq]
          exact List.prefix_append _ _
        cases p <;> first | exact hadvances | exact nomatch hexpr
      | false => exact .quiet h (exit_quiet b hsection hexpr path e cs)

/-! ## All events -/

theorem run_advances (h : Rooted b) (es : List Event) : Advances b (b.run es) := by
  induction es generalizing b with
  | nil => exact .quiet h (.refl b)
  | cons e es ih =>
    have hfirst : Advances b (b.handle e) := by
      cases e with
      | enter path t => exact enter_advances h path t
      | exit path t => exact exit_advances h path t
    exact hfirst.trans (ih hfirst.rooted)

theorem finish_advances (h : Rooted b) : Advances b b.finish := by
  obtain ⟨errors, heq⟩ := b.finish_eq
  rw [heq]
  refine ⟨h.shrink (.refl _) rfl rfl rfl ?_ fun _ => id, List.prefix_append _ _, rfl, rfl⟩
  exact List.nil_subset _

/-- What holds of a builder for the document `d` with the scope `s₀` between events. -/
structure InOrder (d : NodeId) (s₀ : ScopeId) (b : Builder) : Prop where
  /-- no event asks for a node that is not there -/
  present : (∀ c ∈ b.contexts, (b.forest.node? c.node).isSome = true) ∧
    ∀ frame ∈ b.frames, b.forest.kind? frame.node = some .expression
  bottom : b.contexts.getLast? = some ⟨[], d, some s₀, true⟩ ∧ b.forest.kind? d = some .document
  unwinds : ∀ path t kind, t.production?.bind Production.sectionKind? = some kind →
    b.Unwinds path t kind (b.exit path t)
  rooted : ∀ c ∈ b.contexts, c.rooted = true ↔ b.forest.Holds d c.node
  symbols : ∀ s sc, b.forest.Nested s₀ s → b.forest.scope? s = some sc →
    ∀ x ∈ sc.symbols, b.forest.Holds d x.2
  grows : ∀ e, b.problems <+: (b.handle e).problems
  finish : b.finish.contexts = [⟨[], d, some s₀, true⟩] ∧
    b.finish.problems = b.problems ++ b.sections.map b.unfinished

theorem Rooted.inOrder (h : Rooted b) : InOrder b.document b.scope b where
  present := by
    refine ⟨fun c hc => ?_, fun frame hframe => ?_⟩
    · have hlt : c.node < b.forest.nextNode := by
        rcases List.mem_append.mp hc with hc | hc
        · exact (h.steady.sections c hc).2
        · rw [List.mem_singleton.mp hc]
          exact h.steady.document_lt
      obtain ⟨n, hn⟩ := b.forest.exists_node? hlt
      rw [hn]
      rfl
    · obtain ⟨-, q, hq, hkind⟩ := h.steady.frames _ (List.mem_map_of_mem hframe)
      obtain ⟨n, hn, rfl⟩ := Option.map_eq_some_iff.mp hq
      exact Option.map_eq_some_iff.mpr ⟨n, hn, hkind⟩
  bottom := by
    refine ⟨List.getLast?_concat .., ?_⟩
    obtain ⟨q, hq, hkind, -⟩ := h.steady.document
    obtain ⟨n, hn, rfl⟩ := Option.map_eq_some_iff.mp hq
    exact Option.map_eq_some_iff.mpr ⟨n, hn, hkind⟩
  unwinds path t kind hkind := by
    obtain ⟨p, hp, hsection⟩ := Option.bind_eq_some_iff.mp hkind
    cases t with
    | token k => exact nomatch hp
    | node q e cs =>
      obtain rfl := Option.some.inj hp
      rw [exit_section hsection]
      exact b.closeSection_unwinds path _ kind
  rooted c hc := by
    rcases List.mem_append.mp hc with hc | hc
    · exact h.contexts c hc
    · rw [List.mem_singleton.mp hc]
      exact iff_of_true rfl ⟨_, .root⟩
  symbols s sc hs hsc x hx := h.bound.holds hs hsc hx
  grows e := by
    cases e with
    | enter path t => exact (enter_advances h path t).problems
    | exit path t => exact (exit_advances h path t).problems
  finish := by
    obtain ⟨errors, heq⟩ := b.finish_eq
    rw [heq]
    exact ⟨rfl, rfl⟩

/-- After any sequence of events of one parse tree, whether concluded or not, the builder is in
order, and whatever the events read from the tree was there. -/
theorem run_inOrder {n : Nonterminal} {root : Tree} (hroot : Grammar.IsTree n root)
    (es : List Event) (hes : ∀ e ∈ es, e.part ∈ root.preorder) (f : Forest) (path : String)
    (stop : Int) (origin : Origin) (source : List Char) (keywords : List String)
    (errors : List SyntaxError) :
    (∀ e ∈ es, e.part.2.Legible) ∧
      InOrder f.nextNode f.nextScope ((start f path stop origin source keywords errors).run es) ∧
      InOrder f.nextNode f.nextScope
        ((start f path stop origin source keywords errors).run es).finish := by
  have hrun := run_advances (start_rooted f path stop origin source keywords errors) es
  have hfinish := hrun.trans (finish_advances hrun.rooted)
  refine ⟨fun e he => hroot.legible _ (hes e he), ?_, ?_⟩
  · have hinOrder := hrun.rooted.inOrder
    rw [hrun.document, hrun.scope] at hinOrder
    exact hinOrder
  · have hinOrder := hfinish.rooted.inOrder
    rw [hfinish.document, hfinish.scope] at hinOrder
    exact hinOrder

section Example

/-! ### An example: `struct S {}`, begun twice and ended three times -/

def structToken : Token := ⟨.structKw, "struct", ⟨0, 1, 1⟩, ⟨6, 1, 7⟩⟩
def structNameToken : Token := ⟨.name, "S", ⟨7, 1, 8⟩, ⟨8, 1, 9⟩⟩
def openBraceToken : Token := ⟨.lbrace, "\x7b", ⟨9, 1, 10⟩, ⟨10, 1, 11⟩⟩
def closeBraceToken : Token := ⟨.rbrace, "\x7d", ⟨10, 1, 11⟩, ⟨11, 1, 12⟩⟩

def structTree : Tree :=
  .node .struct (some ⟨structToken.start, closeBraceToken.stop⟩) [.token structNameToken]

theorem structTree_isTree : Grammar.IsTree .struct structTree := by
  have hrule : (⟨.struct, [.terminal .structKw, .terminal .name, .terminal .lbrace,
      .terminal .rbrace], some .struct, false⟩ : Rule) ∈ Grammar.rules := by decide +kernel
  have hstruct : Grammar.Makes (.nonterminal .struct)
      (some ⟨structToken.start, closeBraceToken.stop⟩) [structTree]
      [structToken, structNameToken, openBraceToken, closeBraceToken] := by
    refine Grammar.makes_node hrule
      ([structToken, structNameToken, openBraceToken, closeBraceToken].map fun k =>
        (.terminal k.terminal, some (.ofToken k), Parse.Entry.trees false (.token k), [k])) rfl ?_
    intro x hx
    obtain ⟨k, -, rfl⟩ := List.mem_map.mp hx
    exact Grammar.makes_token k
  obtain ⟨e, hd, hs, -, ht⟩ := hstruct
  refine ⟨e, _, hd, hs, ht, ?_⟩
  simp only [List.forall_mem_cons]
  exact ⟨⟨[], by decide +kernel⟩, ⟨[], by decide +kernel⟩, ⟨[], by decide +kernel⟩,
    ⟨[], by decide +kernel⟩, List.forall_mem_nil _⟩

def structEvents : List Event :=
  [.enter [] structTree, .enter [] structTree, .exit [] structTree, .exit [] structTree,
    .exit [] structTree]

theorem run_inOrder_struct :
    Grammar.IsTree .struct structTree ∧ (∀ e ∈ structEvents, e.part ∈ structTree.preorder) ∧
      InOrder 0 0 ((start {} "" 11 ⟨"", ""⟩ [] [] []).run structEvents) := by
  have hparts : ∀ e ∈ structEvents, e.part ∈ structTree.preorder := by
    intro e he
    simp only [structEvents, List.mem_cons, List.not_mem_nil, or_false] at he
    rcases he with rfl | rfl | rfl | rfl | rfl <;> exact List.mem_cons_self
  exact ⟨structTree_isTree, hparts,
    (run_inOrder structTree_isTree structEvents hparts {} "" 11 ⟨"", ""⟩ [] [] []).2.1⟩

end Example

end Builder
end Wdl
