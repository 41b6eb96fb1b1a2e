import Wdl.Proofs.Compile.Placeholders

/-!
Compiled expressions have the values of their trees.

The main result is `evaluate_eq_value`: the expression that a walk compiles from a parse tree of an
expression has the outcome of direct evaluation, in every environment, as long as the walk records
no syntax error.
-/

namespace Wdl

open Builder

/-- A parse tree of an expression is a phrase. -/
theorem Grammar.IsTree.phrase {t : Tree} (h : Grammar.IsTree .expr t) : Phrase .expr t := by
  obtain ⟨u, hu, heq⟩ := h.shape Grammar.closed_shape
  rw [(List.cons.inj heq).1]
  exact hu

/-- The number under which a walk leaves the compiled expression, if it stands alone. -/
theorem beginExpr_standalone_of_document {b : Builder} {path : Tree.Path} {t : Tree}
    (hframes : b.frames = []) (hkind : b.forest.kind? b.current.node = some .document) :
    (b.beginExpr path t).standalone = some b.forest.nextNode := by
  have hsame : (b.addNode t (.expression {})).forest.kind? b.current.node = some .document := by
    unfold Forest.kind? at hkind ⊢
    obtain ⟨n, hn, hkind⟩ := Option.map_eq_some_iff.mp hkind
    rw [addNode, Forest.node?_addNode_of_lt _ _ (Forest.lt_of_node? _ hn), hn]
    exact congrArg some hkind
  have hcurrent : (b.addNode t (.expression {})).currentKind = .document := by
    rw [currentKind]
    exact congrArg (Option.getD · Kind.document) hsame
  rw [beginExpr_standalone, hframes, hcurrent]
  rfl

/-- Compilation is correct: the expression that a walk compiles from a parse tree has the outcome of
direct evaluation of the tree, for all values of names.  If it stands alone, it is the expression
that the builder hands out. -/
theorem evaluate_eq_value {t : Tree} (ht : Grammar.IsTree .expr t) (path : Tree.Path) (b : Builder)
    (hclean : (walk path t b).syntaxErrors = b.syntaxErrors) :
    ∃ e, (walk path t b).forest.expr? b.forest.nextNode = some e ∧
      (b.frames = [] ∧ b.forest.kind? b.current.node = some .document →
        (walk path t b).standalone = some b.forest.nextNode) ∧
      ∀ (inputs : Bindings) (env : Option Bindings),
        outcome (e.evaluate (Lookup.ofBindings inputs (env.getD []))) =
          t.value (inputs.resolve (env.getD [])) := by
  cases ht.phrase with
  | expr hx =>
    obtain ⟨e, he, hr, -, -, hstandalone⟩ := walk_expr (.inl rfl) hx.sim _ path b hclean
    refine ⟨e, he, fun h => ?_, fun inputs env => ?_⟩
    · rw [hstandalone, beginExpr_standalone_of_document h.1 h.2]
    · exact hr.means _ _ (Lookup.ofBindings_agrees inputs (env.getD []))

section Example

/-! ### An example: `x + 1` -/

def nameToken : Token := ⟨.name, "x", ⟨0, 1, 1⟩, ⟨1, 1, 2⟩⟩
def plusToken : Token := ⟨.plus, "+", ⟨2, 1, 3⟩, ⟨3, 1, 4⟩⟩
def oneToken : Token := ⟨.int, "1", ⟨4, 1, 5⟩, ⟨5, 1, 6⟩⟩

def nameTree : Tree := .node .leftName (some (.ofToken nameToken)) [.token nameToken]
def oneTree : Tree := .node .int (some (.ofToken oneToken)) [.token oneToken]

def sumTree : Tree :=
  .node .expr (some ⟨nameToken.start, oneToken.stop⟩)
    [.node (.binary .add) (some ⟨nameToken.start, oneToken.stop⟩) [nameTree, oneTree]]

theorem nameTree_makes :
    Grammar.Makes (.nonterminal .sum) (some (.ofToken nameToken)) [nameTree] [nameToken] := by
  have hcore : Grammar.Makes (.nonterminal .exprCore) (some (.ofToken nameToken)) [nameTree]
      [nameToken] :=
    Grammar.makes_node (by decide +kernel) [(_, _, _, _)] rfl
      (List.forall_mem_singleton.mpr (Grammar.makes_token nameToken))
  exact Grammar.makes_chain hcore [.factor, .product, .sum] (by decide +kernel)

theorem oneTree_makes :
    Grammar.Makes (.nonterminal .product) (some (.ofToken oneToken)) [oneTree] [oneToken] := by
  have hliteral : Grammar.Makes (.nonterminal .literal) (some (.ofToken oneToken)) [oneTree]
      [oneToken] :=
    Grammar.makes_node (by decide +kernel) [(_, _, _, _)] rfl
      (List.forall_mem_singleton.mpr (Grammar.makes_token oneToken))
  exact Grammar.makes_chain hliteral [.exprCore, .factor, .product] (by decide +kernel)

theorem sumTree_isTree : Grammar.IsTree .expr sumTree := by
  have hsum : Grammar.Makes (.nonterminal .sum) (some ⟨nameToken.start, oneToken.stop⟩)
      [.node (.binary .add) (some ⟨nameToken.start, oneToken.stop⟩) [nameTree, oneTree]]
      [nameToken, plusToken, oneToken] := by
    have hrule : (⟨.sum, [.nonterminal .sum, .terminal .plus, .nonterminal .product],
        some (.binary .add), false⟩ : Rule) ∈ Grammar.rules := by decide +kernel
    refine Grammar.makes_node hrule
      [(.nonterminal .sum, some (.ofToken nameToken), [nameTree], [nameToken]),
        (.terminal .plus, some (.ofToken plusToken), [], [plusToken]),
        (.nonterminal .product, some (.ofToken oneToken), [oneTree], [oneToken])] rfl ?_
    refine List.forall_mem_cons.mpr ⟨nameTree_makes, List.forall_mem_cons.mpr ⟨?_, ?_⟩⟩
    · exact Grammar.makes_token plusToken
    · exact List.forall_mem_singleton.mpr oneTree_makes
  have hlevels := Grammar.makes_chain hsum [.comparison, .conjunction, .disjunction]
    (by decide +kernel)
  have hexpr : Grammar.Makes (.nonterminal .expr) (some ⟨nameToken.start, oneToken.stop⟩) [sumTree]
      [nameToken, plusToken, oneToken] :=
    Grammar.makes_node (by decide +kernel) [(_, _, _, _)] rfl
      (List.forall_mem_singleton.mpr hlevels)
  obtain ⟨e, hd, hs, -, ht⟩ := hexpr
  refine ⟨e, _, hd, hs, ht, ?_⟩
  simp only [List.forall_mem_cons]
  exact ⟨⟨[], by decide +kernel⟩, ⟨[], by decide +kernel⟩, ⟨[], by decide +kernel⟩,
    List.forall_mem_nil _⟩

/-- A builder that has seen nothing of its document. -/
def emptyBuilder : Builder := Builder.start {} "" 4 ⟨"", ""⟩ "x + 1".toList [] []

theorem evaluate_eq_value_sum :
    Grammar.IsTree .expr sumTree ∧
      (walk [] sumTree emptyBuilder).syntaxErrors = emptyBuilder.syntaxErrors ∧
      ∃ e, (walk [] sumTree emptyBuilder).forest.expr? emptyBuilder.forest.nextNode = some e ∧
        ∀ (inputs : Bindings) (env : Option Bindings),
          outcome (e.evaluate (Lookup.ofBindings inputs (env.getD []))) =
            sumTree.value (inputs.resolve (env.getD [])) := by
  have hclean : (walk [] sumTree emptyBuilder).syntaxErrors = emptyBuilder.syntaxErrors := by
    decide +kernel
  obtain ⟨e, he, -, hvalue⟩ := evaluate_eq_value sumTree_isTree [] emptyBuilder hclean
  exact ⟨sumTree_isTree, hclean, e, he, hvalue⟩

end Example

end Wdl
