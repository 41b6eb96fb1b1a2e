import Wdl.Proofs.Compile.Documents
import Wdl.Proofs.Compile.Documents
import Wdl.Proofs.Compile.Kept
import Wdl.Proofs.Occurrences

/-!
The options of placeholders.

A placeholder gives its options to the expression that it is made of, wherever it stands: in a string,
in a command or inside another placeholder.  They are found through what waits in the innermost open
expression, or outside of expressions through the last one, and both are the expression that the
placeholder has just ended, `exists_own`.  Of an option that is given again the first counts, and the
others are reported, as are options that are not known.
-/

namespace Wdl

namespace Tree

/-- The options of a placeholder with the names that there are, in order. -/
def knownOptions (ts : List Tree) : List Tree :=
  ts.filter fun t => Builder.placeholderOptions.contains (t.childText 0)

/-- The options of a placeholder with other names, in order. -/
def unknownOptions (ts : List Tree) : List Tree :=
  ts.filter fun t => !Builder.placeholderOptions.contains (t.childText 0)

/-- The value that an option of a placeholder is given; none if it is a string with a bad escape. -/
def writtenValue? (t : Tree) : Option Value :=
  t.children[1]?.bind Builder.optionValue?

end Tree

namespace Builder

open Grammar Wdl.Tree

/-- What is reported of an option that there is not. -/
def unknownOption (origin : Origin) (t : Tree) : SyntaxError :=
  ⟨(t.position origin).line, (t.position origin).column - 1,
    "unknown placeholder option " ++ t.childText 0, t.position origin⟩

/-- What is reported of an option that is given again. -/
def repeatedOption (origin : Origin) (t : Tree) : DocumentProblem :=
  ⟨.redefinition ("repeated placeholder option " ++ t.childText 0), none, some (t.position origin)⟩

/-- Options with their values, as those that could be read. -/
def named (options : List (String × Value)) : List (String × Option Value) :=
  options.map fun option => (option.1, some option.2)

def written (ts : List Tree) : List (String × Option Value) :=
  ts.map fun t => (t.childText 0, t.writtenValue?)

/-- Options without bad escapes are all read: the first ones of each name are taken, the others are
repeated, and the unknown ones are errors. -/
theorem readOptions_firsts {ts : List Tree} (hts : ∀ t ∈ ts, t.writtenValue?.isSome = true)
    (b : Builder) (o : OptionList) {seen : List String}
    (hseen : ∀ name, Assoc.contains name o.options = true ↔ name ∈ seen) :
    ∃ o', b.readOptions ts o =
        (b.withReports (b.syntaxErrors ++ (unknownOptions ts).map (unknownOption b.origin))
          b.problems, some o') ∧
      named o'.options =
        named o.options ++ written (firstsFrom (·.childText 0) seen (knownOptions ts)) ∧
      o'.repeated = o.repeated ++
        (repeatsFrom (·.childText 0) seen (knownOptions ts)).map fun t => (t, t.childText 0) := by
  induction ts generalizing b o seen with
  | nil =>
    refine ⟨o, ?_, (List.append_nil _).symm, (List.append_nil _).symm⟩
    exact congrArg (·, some o) b.withReports_nil.symm
  | cons t ts ih =>
    obtain ⟨ht, hts⟩ := List.forall_mem_cons.mp hts
    obtain ⟨value, hvalue⟩ := Option.isSome_iff_exists.mp ht
    obtain ⟨place, hplace, hread⟩ := Option.bind_eq_some_iff.mp hvalue
    unfold readOptions
    dsimp only
    by_cases hknown : placeholderOptions.contains (t.childText 0) = true
    · rw [show knownOptions (t :: ts) = t :: knownOptions ts from List.filter_cons_of_pos hknown,
        show unknownOptions (t :: ts) = unknownOptions ts from
          List.filter_cons_of_neg (by rw [hknown]; exact Bool.false_ne_true),
        hknown, if_neg (show ¬(!true) = true from Bool.false_ne_true), firstsFrom, repeatsFrom]
      by_cases hagain : Assoc.contains (t.childText 0) o.options = true
      · have hmem := (hseen _).mp hagain
        rw [if_pos hagain, if_pos hmem, if_pos hmem]
        have hseen' : ∀ name, Assoc.contains name o.options = true ↔
            name ∈ seen ++ [t.childText 0] := by
          intro name
          rw [hseen, List.mem_append, List.mem_singleton]
          exact ⟨.inl, fun h => h.elim id fun h => h ▸ hmem⟩
        obtain ⟨o', heq, hoptions, hrepeated⟩ := ih hts b
          { o with repeated := o.repeated ++ [(t, t.childText 0)] } hseen'
        refine ⟨o', heq, hoptions, ?_⟩
        rw [hrepeated, List.map_cons, List.append_assoc]
        rfl
      · have hmem : t.childText 0 ∉ seen := fun h => hagain ((hseen _).mpr h)
        rw [if_neg hagain, if_neg hmem, if_neg hmem, hplace]
        dsimp only
        rw [hread]
        dsimp only
        have hseen' : ∀ name, Assoc.contains name (o.options ++ [(t.childText 0, value)]) = true ↔
            name ∈ seen ++ [t.childText 0] := by
          intro name
          rw [Assoc.contains_concat, hseen, List.mem_append, List.mem_singleton]
        obtain ⟨o', heq, hoptions, hrepeated⟩ := ih hts b
          { o with options := o.options ++ [(t.childText 0, value)] } hseen'
        refine ⟨o', heq, ?_, hrepeated⟩
        rw [hoptions]
        simp [named, written, hvalue]
    · have hunknown : (!placeholderOptions.contains (t.childText 0)) = true := by
        rw [Bool.eq_false_iff.mpr hknown]
        rfl
      rw [show knownOptions (t :: ts) = knownOptions ts from List.filter_cons_of_neg hknown,
        show unknownOptions (t :: ts) = t :: unknownOptions ts from
          List.filter_cons_of_pos hunknown, hunknown, if_pos rfl]
      obtain ⟨o', heq, hrest⟩ := ih hts
        (b.syntaxErrorAt t ("unknown placeholder option " ++ t.childText 0)) o hseen
      refine ⟨o', ?_, hrest⟩
      rw [heq, List.map_cons]
      simp only [withReports, syntaxErrorAt, syntaxError, List.append_assoc]
      rfl

/-- The end of a placeholder without bad escapes. -/
theorem endPlaceholder_firsts (t : Tree)
    (ht : ∀ o ∈ t.childrenOf .placeholderOption, o.writtenValue?.isSome = true) {b : Builder}
    {id : NodeId} (htarget : b.placeholderTarget = some id) :
    ∃ options, named options =
        written (firsts (·.childText 0) (knownOptions (t.childrenOf .placeholderOption))) ∧
      (b.endPlaceholder t).forest = giveOptions b.forest id options ∧
      (b.endPlaceholder t).problems = b.problems ++
        (repeats (·.childText 0) (knownOptions (t.childrenOf .placeholderOption))).map
          (repeatedOption b.origin) ∧
      (b.endPlaceholder t).syntaxErrors = b.syntaxErrors ++
        (unknownOptions (t.childrenOf .placeholderOption)).map (unknownOption b.origin) := by
  have hnone : ∀ name, Assoc.contains name ({} : OptionList).options = true ↔ name ∈ [] :=
    fun name => ⟨(nomatch ·), (absurd · List.not_mem_nil)⟩
  obtain ⟨o, hread, hoptions, hrepeated⟩ := readOptions_firsts ht b {} hnone
  refine ⟨o.options, hoptions, ?_⟩
  have hrepeated : o.repeated.map (fun x : Tree × String =>
      (⟨.redefinition ("repeated placeholder option " ++ x.2), none,
        some (x.1.position b.origin)⟩ : DocumentProblem)) =
      (repeats (·.childText 0) (knownOptions (t.childrenOf .placeholderOption))).map
        (repeatedOption b.origin) := by
    rw [hrepeated, List.nil_append, List.map_map]
    rfl
  unfold endPlaceholder
  dsimp only
  rw [hread, htarget]
  dsimp only
  rw [← hrepeated, foldl_reportAt_eq _
    (fun x : Tree × String => .redefinition ("repeated placeholder option " ++ x.2)) Prod.fst]
  exact ⟨rfl, rfl, rfl⟩

/-! ## Walks -/

variable {b : Builder} {path : Tree.Path} {t : Tree}

/-- The options that an expression has. -/
def optionsOf (b : Builder) (id : NodeId) : Bindings :=
  ((b.forest.expr? id).map fun x => x.info.options).getD []

theorem optionsOf_of_altered {opened given : Prop} {b b' : Builder} {id : NodeId}
    (h : Option.Rel (Expr.Altered opened given) (b.forest.expr? id) (b'.forest.expr? id))
    (hgiven : ¬given) : b'.optionsOf id = b.optionsOf id := by
  unfold optionsOf
  generalize b.forest.expr? id = x at h ⊢
  generalize b'.forest.expr? id = y at h ⊢
  cases h with
  | none => rfl
  | some h => rw [Option.map_some, Option.map_some, h.info hgiven]

theorem optionsOf_of_le {id : NodeId} (h : b.forest.nextNode ≤ id) : b.optionsOf id = [] := by
  have hnone : b.forest.expr? id = none := by
    cases he : b.forest.expr? id with
    | none => rfl
    | some e => exact absurd (Forest.lt_of_expr? _ he) (Nat.not_lt_of_le h)
  rw [optionsOf, hnone]
  rfl

/-- A step that adds no expression gives no options to a node that it adds. -/
theorem Calm.optionsOf {b b' : Builder} (h : Calm b b') {id : NodeId}
    (hid : b.forest.nextNode ≤ id) : b'.optionsOf id = [] := by
  unfold Builder.optionsOf
  cases he : b'.forest.expr? id with
  | none => rfl
  | some e =>
    obtain ⟨old, hold, -⟩ := h.items id e he
    exact absurd (Forest.lt_of_expr? _ hold) (Nat.not_lt_of_le hid)

theorem beginExpr_optionsOf (b : Builder) (path : Tree.Path) (t : Tree) (id : NodeId) :
    (b.beginExpr path t).optionsOf id = b.optionsOf id := by
  rw [optionsOf, beginExpr_expr?]
  by_cases hid : id = b.forest.nextNode
  · rw [optionsOf_of_le (Nat.le_of_eq hid.symm), Forest.expr?_eq, addNode, Forest.node?_addNode,
      if_pos hid]
    rfl
  · rw [optionsOf, addNode, Forest.expr?_congr]
    rw [Forest.node?_addNode, if_neg hid]

/-- An expression begins without options, and those that there are keep theirs when a production
begins. -/
theorem enter_optionsOf (h : b.Seated) (path : Tree.Path) (t : Tree) (id : NodeId) :
    (b.enter path t).optionsOf id = b.optionsOf id := by
  cases t with
  | token k => rfl
  | node p e cs =>
    by_cases hexpr : p.isExpression = true
    · have hbegin : b.enter path (.node p e cs) = b.beginExpr path (.node p e cs) := by
        cases p <;> first | rfl | cases hexpr
      rw [hbegin]
      exact beginExpr_optionsOf b path _ id
    rw [Bool.not_eq_true] at hexpr
    rcases Nat.lt_or_ge id b.forest.nextNode with hid | hid
    · have haltered : Option.Rel (Expr.Altered (b.focus? = some id) False) (b.forest.expr? id)
          ((b.enter path (.node p e cs)).forest.expr? id) := by
        cases hsection : p.sectionKind? with
        | some kind =>
          exact Expr.Altered.rel_of_eq ((enter_section_idle b hsection path e cs).expr? id hid)
        | none => exact (enter_restores hsection hexpr h path e cs).leaves.altered hid
      exact optionsOf_of_altered haltered not_false
    · rw [optionsOf_of_le hid]
      cases hsection : p.sectionKind? with
      | some kind => exact (b.enter_section_calm hsection path e cs).optionsOf hid
      | none =>
        cases hleaf : p.isLeaf with
        | true => exact (b.enter_leaf_calm hleaf path e cs).optionsOf hid
        | false =>
          refine optionsOf_of_le ?_
          rwa [(enter_quiet b hsection hleaf hexpr path e cs).alike.nextNode]

/-- The end of a placeholder gives options to its target, and nothing else gives any. -/
theorem exit_optionsOf (b : Builder) (path : Tree.Path) (t : Tree) {id : NodeId}
    (hgiven : ¬(t.isA .placeholder = true ∧ b.placeholderTarget = some id)) :
    (b.exit path t).optionsOf id = b.optionsOf id := by
  cases t with
  | token k => rfl
  | node p e cs =>
    by_cases hstructure : p.sectionKind?.isSome ∨ p.isExpression = true
    · rw [optionsOf, (exit_forest hstructure b path e cs).1]
      rfl
    rw [not_or, Bool.not_eq_true, Option.isSome_eq_false_iff, Option.isNone_iff_eq_none,
      Bool.not_eq_true] at hstructure
    obtain ⟨hsection, hexpr⟩ := hstructure
    by_cases hplaceholder : p = .placeholder
    · subst hplaceholder
      exact optionsOf_of_altered ((exit_alters b hsection hexpr (fun _ => rfl) path e cs).exprs id)
        fun h => hgiven ⟨rfl, h⟩
    · have halters := exit_alters_of_ne b hsection hexpr hplaceholder path e cs
      exact optionsOf_of_altered (halters.exprs id) fun h => Option.some_ne_none id h.symm

variable {v : Visit}

/-- The expression of a placeholder is visited inside of it, and is there when it ends. -/
theorem own_of_visit (ht : Derived t) (hb : b.Seated) (hv : v ∈ visits path t b)
    (hplaceholder : v.tree.isA .placeholder = true) :
    ∃ w ∈ visits path t b, v.Owns w ∧ v.done.placeholderTarget = some w.node ∧
      v.node ≤ w.node ∧ ∃ x, v.done.forest.expr? w.node = some x ∧ x.info.options = [] := by
  have hwithin := within_of_visit ht hb hv
  obtain ⟨w, howns, -, -, htarget, hx, -⟩ :=
    exists_own hplaceholder hwithin.derived hwithin.seated
  have hle := (within_of_visitList hwithin.derived.of_children
    (enter_seated hwithin.seated v.path v.tree).1 (mem_visitsList_of_parts howns.mem_parts)).le
  rw [show v.before.enter v.path v.tree = v.before from begun_placeholder hplaceholder] at hle
  exact ⟨w, parts_subset hv _ howns.mem_parts, howns, htarget, hle, hx⟩

/-- A placeholder without bad escapes gives its options to its expression, and reports those that it
does not. -/
theorem visit_options (ht : Derived t) (hb : b.Seated) (hv : v ∈ visits path t b)
    (hplaceholder : v.tree.isA .placeholder = true)
    (hlegible : ∀ o ∈ v.tree.childrenOf .placeholderOption, o.writtenValue?.isSome = true) :
    ∃ w ∈ visits path t b, v.Owns w ∧
      (∃ x, (walk path t b).forest.expr? w.node = some x ∧ named x.info.options =
        written (firsts (·.childText 0)
          (knownOptions (v.tree.childrenOf .placeholderOption)))) ∧
      v.after.problems = v.done.problems ++
        (repeats (·.childText 0) (knownOptions (v.tree.childrenOf .placeholderOption))).map
          (repeatedOption b.origin) ∧
      v.after.syntaxErrors = v.done.syntaxErrors ++
        (unknownOptions (v.tree.childrenOf .placeholderOption)).map (unknownOption b.origin) := by
  obtain ⟨w, hw, howns, htarget, hle, x, hx, hnone⟩ := own_of_visit ht hb hv hplaceholder
  obtain ⟨options, hoptions, hforest, hproblems, herrors⟩ :=
    endPlaceholder_firsts v.tree hlegible htarget
  have hafter : v.after = v.done.endPlaceholder v.tree :=
    (Visit.after_eq hv).trans (exit_placeholder hplaceholder v.done)
  have horigin : v.done.origin = b.origin :=
    v.done_fixed.origin.trans (fixed_of_visit hv).origin
  rw [← hafter] at hforest hproblems herrors
  rw [horigin] at hproblems herrors
  have hnodup : (options.map Prod.fst).Nodup := by
    have hnames := congrArg (List.map Prod.fst) hoptions
    rw [named, written, List.map_map, List.map_map] at hnames
    exact hnames ▸ nodup_map_firsts _
  have hgiven : v.after.forest.expr? w.node = some { x with info := { x.info with options } } := by
    rw [hforest, giveOptions_expr?, if_pos rfl, hx, Option.map_some, hnone,
      Assoc.update_of_nodup (l := []) hnodup, List.nil_append]
  have hkept : (walk path t b).forest.expr? w.node = v.after.forest.expr? w.node := by
    refine Expr.Altered.rel_eq (walk_alters ht hb hv (Forest.lt_of_expr? _ hgiven))
      (Nat.not_lt_of_le hle) ?_
    rw [begun_placeholder hplaceholder]
    exact Nat.not_lt_of_le hle
  exact ⟨w, hw, howns, ⟨_, hkept.trans hgiven, hoptions⟩, hproblems, herrors⟩

/-- An expression whose options change in a walk is that of a placeholder. -/
theorem owner_of_optionsOf (ht : Derived t) (hb : b.Seated) {id : NodeId} :
    (walk path t b).optionsOf id = b.optionsOf id ∨
      ∃ v ∈ visits path t b, ∃ w ∈ visits path t b, v.Owns w ∧ w.node = id := by
  refine walk_keeps (I := fun b' => b'.optionsOf id = b.optionsOf id ∨ _) (fun k b' h => ?_) path t
    b (fun v hv => ⟨fun h => h.imp_left fun h => ?_, fun h => ?_⟩) (.inl rfl)
  · rwa [optionsOf, visitToken_expr?]
  · exact (enter_optionsOf (within_of_visit ht hb hv).seated v.path v.tree id).trans h
  by_cases hgiven : v.tree.isA .placeholder = true ∧ v.done.placeholderTarget = some id
  · obtain ⟨w, hw, howns, htarget, -⟩ := own_of_visit ht hb hv hgiven.1
    exact .inr ⟨v, hv, w, hw, howns, Option.some.inj (htarget.symm.trans hgiven.2)⟩
  · rw [Visit.after_eq hv]
    refine h.imp_left fun h => ?_
    rw [exit_optionsOf v.done v.path v.tree hgiven, h]

/-- In a walk over a tree of the grammar the expression of every placeholder without bad escapes ends
up with the first options of each known name, in order and with their values.  Each further option of
a known name is one redefinition more, and each one of an unknown name one syntax error more, and
these reports stay.  No other expression gets options, whether the walk has added it or not. -/
theorem walk_gives_options {t : Tree} (ht : Derived t) {b : Builder} (hb : b.Framed)
    (path : Tree.Path) :
    (∀ v ∈ visits path t b, v.tree.isA .placeholder = true →
      (∀ o ∈ v.tree.childrenOf .placeholderOption, o.writtenValue?.isSome = true) →
        ∃ w ∈ visits path t b, v.Owns w ∧
          (∃ x, (walk path t b).forest.expr? w.node = some x ∧ named x.info.options =
            written (firsts (·.childText 0)
              (knownOptions (v.tree.childrenOf .placeholderOption)))) ∧
          v.after.problems = v.done.problems ++
            (repeats (·.childText 0) (knownOptions (v.tree.childrenOf .placeholderOption))).map
              (repeatedOption b.origin) ∧
          v.after.syntaxErrors = v.done.syntaxErrors ++
            (unknownOptions (v.tree.childrenOf .placeholderOption)).map (unknownOption b.origin) ∧
          Reports v.after (walk path t b)) ∧
    (∀ id, b.forest.nextNode ≤ id → (walk path t b).optionsOf id ≠ [] →
      ∃ v ∈ visits path t b, ∃ w ∈ visits path t b, v.Owns w ∧ w.node = id) ∧
    ∀ id < b.forest.nextNode, (walk path t b).optionsOf id = b.optionsOf id := by
  refine ⟨fun v hv hplaceholder hlegible => ?_, fun id hid hne => ?_, fun id hid => ?_⟩
  · obtain ⟨w, hw, howns, hx, hproblems, herrors⟩ :=
      visit_options ht hb.seated hv hplaceholder hlegible
    exact ⟨w, hw, howns, hx, hproblems, herrors, reports_of_visit hv⟩
  · refine (owner_of_optionsOf ht hb.seated).resolve_left fun h => hne ?_
    rw [h, optionsOf_of_le hid]
  · exact optionsOf_of_altered ((walk_leaves ht path hb.seated).altered hid) not_false

section Example

/-! ### An example: `sep=1 sep=2 of=3 x` -/

def optionTree (name value : Token) : Tree :=
  .node .placeholderOption (some ⟨name.start, value.stop⟩)
    [.token name, .node .placeholderValue (some (.ofToken value)) [.token value]]

def sepToken : Token := ⟨.name, "sep", ⟨0, 1, 1⟩, ⟨3, 1, 4⟩⟩
def firstToken : Token := ⟨.int, "1", ⟨4, 1, 5⟩, ⟨5, 1, 6⟩⟩
def againToken : Token := ⟨.name, "sep", ⟨6, 1, 7⟩, ⟨9, 1, 10⟩⟩
def secondToken : Token := ⟨.int, "2", ⟨10, 1, 11⟩, ⟨11, 1, 12⟩⟩
def ofToken : Token := ⟨.name, "of", ⟨12, 1, 13⟩, ⟨14, 1, 15⟩⟩
def thirdToken : Token := ⟨.int, "3", ⟨15, 1, 16⟩, ⟨16, 1, 17⟩⟩
def xToken : Token := ⟨.name, "x", ⟨17, 1, 18⟩, ⟨18, 1, 19⟩⟩

def optionsTree : Tree :=
  .node .placeholder (some ⟨sepToken.start, xToken.stop⟩)
    [optionTree sepToken firstToken, optionTree againToken secondToken,
      optionTree ofToken thirdToken,
      .node .expr (some (.ofToken xToken)) [.node .leftName (some (.ofToken xToken)) [.token xToken]]]

def equalToken : Token := ⟨.equal, "=", ⟨3, 1, 4⟩, ⟨4, 1, 5⟩⟩

theorem name_makes {k : Token} (hk : k.terminal = .name) :
    Makes (.nonterminal .placeholderName) (some (.ofToken k)) [.token k] [k] := by
  have hrule : (⟨.placeholderName, [.terminal .name], none, true⟩ : Rule) ∈ rules := by
    decide
  refine ⟨_, Parse.Entry.Derives.combine hrule [(.token k, [k])] ?_
    (List.forall_mem_singleton.mpr (.token k)), rfl, rfl, rfl⟩
  rw [List.map_singleton, Parse.Entry.symbol, hk]

theorem optionTree_makes {name value : Token} (hname : name.terminal = .name)
    (hvalue : value.terminal = .int) :
    Makes (.nonterminal .placeholderOption) (some ⟨name.start, value.stop⟩) [optionTree name value]
      [name, equalToken, value] := by
  have hint : Makes (.terminal .int) (some (.ofToken value)) [.token value] [value] := by
    have h := makes_token value
    rw [Parse.Entry.trees, hvalue] at h
    exact h
  have hread : Makes (.nonterminal .placeholderValue) (some (.ofToken value))
      [.node .placeholderValue (some (.ofToken value)) [.token value]] [value] := by
    have hrule : (⟨.placeholderValue, [.terminal .int], some .placeholderValue, false⟩ : Rule) ∈
        rules := by decide
    exact makes_node hrule [(_, _, _, _)] rfl (List.forall_mem_singleton.mpr hint)
  have hrule : (⟨.placeholderOption, [.nonterminal .placeholderName, .terminal .equal,
      .nonterminal .placeholderValue], some .placeholderOption, false⟩ : Rule) ∈ rules := by
    decide
  have h := makes_node hrule
    [(.nonterminal .placeholderName, _, _, _), (.terminal .equal, _, _, _),
      (.nonterminal .placeholderValue, _, _, _)] rfl
    (List.forall_mem_cons.mpr ⟨name_makes hname, List.forall_mem_cons.mpr
      ⟨makes_token equalToken, List.forall_mem_singleton.mpr hread⟩⟩)
  exact h

theorem optionsTree_derived : Derived optionsTree := by
  have hfirst : Makes (.nonterminal .placeholderOptions) (some ⟨sepToken.start, firstToken.stop⟩)
      [optionTree sepToken firstToken] [sepToken, equalToken, firstToken] :=
    makes_chain (optionTree_makes rfl rfl) [.placeholderOptions] (by decide)
  have hrule : (⟨.placeholderOptions, [.nonterminal .placeholderOptions,
      .nonterminal .placeholderOption], none, false⟩ : Rule) ∈ rules := by decide
  have hmore {extent : Option Extent} {ts : List Tree} {ks : List Token}
      (h : Makes (.nonterminal .placeholderOptions) extent ts ks) (name value : Token)
      (hname : name.terminal = .name) (hvalue : value.terminal = .int) :=
    makes_rule hrule rfl
      [(.nonterminal .placeholderOptions, _, _, _), (.nonterminal .placeholderOption, _, _, _)] rfl
      (List.forall_mem_cons.mpr ⟨h, List.forall_mem_singleton.mpr (optionTree_makes hname hvalue)⟩)
  have hwhole : (⟨.placeholder, [.nonterminal .placeholderOptions, .nonterminal .expr],
      some .placeholder, false⟩ : Rule) ∈ rules := by decide
  have hoptions := hmore (hmore hfirst againToken secondToken rfl rfl) ofToken thirdToken rfl rfl
  obtain ⟨e, hd, -, -, ht⟩ := makes_node hwhole
    [(.nonterminal .placeholderOptions, _, _, _), (.nonterminal .expr, _, _, _)] rfl
    (List.forall_mem_cons.mpr ⟨hoptions, List.forall_mem_singleton.mpr (makes_nameExpr (k := xToken) rfl)⟩)
  exact ⟨e, _, false, hd, ht ▸ List.mem_singleton.mpr rfl⟩

/-- The visit of the whole example. -/
def optionsVisit : Visit := ⟨[], optionsTree, emptyBuilder⟩

theorem walk_gives_options_sep :
    Derived optionsTree ∧ emptyBuilder.Framed ∧
      ∃ w ∈ visits [] optionsTree emptyBuilder, optionsVisit.Owns w ∧
        (∃ x, (walk [] optionsTree emptyBuilder).forest.expr? w.node = some x ∧
          named x.info.options = [("sep", some (.int 1))]) ∧
        (walk [] optionsTree emptyBuilder).problems =
          [repeatedOption ⟨"", ""⟩ (optionTree againToken secondToken)] ∧
        (walk [] optionsTree emptyBuilder).syntaxErrors =
          [unknownOption ⟨"", ""⟩ (optionTree ofToken thirdToken)] := by
  have hframed : emptyBuilder.Framed := List.forall_mem_nil _
  obtain ⟨w, hw, howns, hx, hproblems, herrors, -⟩ :=
    (walk_gives_options optionsTree_derived hframed []).1 optionsVisit List.mem_cons_self rfl (by
      decide +kernel)
  exact ⟨optionsTree_derived, hframed, w, hw, howns, hx, hproblems, herrors⟩

end Example

end Builder
end Wdl
