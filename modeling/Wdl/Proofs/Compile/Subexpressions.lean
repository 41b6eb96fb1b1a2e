import Wdl.Proofs.Builder.Correspondence
import Wdl.Proofs.Compile.Documents
import Wdl.Proofs.Compile.Emission

/-!
The nested expressions of compiled expressions.

When an expression has been compiled its parts are the expressions nested among its items,
`Visit.emits`, and nothing happens to either afterwards.  Every expression of a document is one that
the walk has come to, so this holds of all expressions of texts without syntax errors,
`subexpressions_emitted`.
-/

namespace Wdl

/-- The expressions nested among the items of `e`, the expression of the node `id`, are the children
of the node in order, each of them once. -/
structure Forest.Emits (f : Forest) (id : NodeId) (e : Expr) : Prop where
  nested : e.nested.map some = (f.children id).map f.expr?
  nodes : e.nested.map (·.info.node) = (f.children id).map some
  nodup : (f.children id).Nodup
  parents : ∀ c ∈ f.children id, f.parent? c = some id

theorem Forest.expr?_node {f : Forest} {id : NodeId} {e : Expr} (h : f.expr? id = some e) :
    e.info.node = some id := by
  rw [Forest.expr?_eq] at h
  obtain ⟨x, -, rfl⟩ := Option.map_eq_some_iff.mp h
  rfl

/-- Expressions tell which nodes they are. -/
theorem Forest.nodes_of_exprs {f : Forest} {es : List Expr} {ids : List NodeId}
    (h : es.map some = ids.map f.expr?) : es.map (·.info.node) = ids.map some := by
  induction ids generalizing es with
  | nil =>
    rw [List.map_nil, List.map_eq_nil_iff] at h
    rw [h]
    rfl
  | cons id ids ih =>
    obtain ⟨e, rest, rfl, he, hrest⟩ := List.map_eq_cons_iff.mp h
    rw [List.map_cons, List.map_cons, ih hrest, Forest.expr?_node he.symm]

theorem Tree.isExpression_of_spot? {p : Production} {e : Option Extent} {cs : List Tree}
    {s : Span} (h : (Tree.node p e cs).spot? = some (.expression, s)) : p.isExpression = true := by
  obtain ⟨kind, hkind, heq⟩ := Option.map_eq_some_iff.mp h
  obtain rfl : kind = .expression := congrArg Prod.fst heq
  have hnode : p.nodeKind? = some .expression := hkind
  cases p <;> first | rfl | cases hnode

namespace Builder

open Grammar

variable {l : Layout} {b : Builder} {path : Tree.Path} {t : Tree} {v : Visit}

mutual

/-- A walk that records no syntax error records none on any of its visits. -/
theorem clean_of_visit {path : Tree.Path} {b : Builder} : {t : Tree} → v ∈ visits path t b →
    (walk path t b).syntaxErrors = b.syntaxErrors → v.after.syntaxErrors = v.before.syntaxErrors
  | .token _, hv, _ => absurd hv List.not_mem_nil
  | .node p e cs, hv, hclean => by
    rcases List.mem_cons.mp hv with rfl | hv
    · exact hclean
    · have hbegun := enter_clean hclean
      rw [walk, ← hbegun] at hclean
      exact clean_of_visitList hv
        ((walkList_errors path 0 cs _).eq_left (exit_grows _ path _) hclean)

theorem clean_of_visitList {path : Tree.Path} {i : Nat} {b : Builder} : {cs : List Tree} →
    v ∈ visitsList path i cs b → (walkList path i cs b).syntaxErrors = b.syntaxErrors →
      v.after.syntaxErrors = v.before.syntaxErrors
  | [], hv, _ => absurd hv List.not_mem_nil
  | c :: cs, hv, hclean => by
    have hfirst := walk_errors (i :: path) c b
    have hrest := walkList_errors path (i + 1) cs (walk (i :: path) c b)
    rw [walkList] at hclean
    rcases List.mem_append.mp hv with hv | hv
    · exact clean_of_visit hv (hfirst.eq_left hrest hclean)
    · exact clean_of_visitList hv (hfirst.eq_right hrest hclean)

end

/-- What a walk that ends with `b'` has made of a visit: the walk over what lies below the
production could begin, its node is there, and has not got more parts. -/
structure Visit.Shown (l : Layout) (b' : Builder) (v : Visit) : Prop where
  steady : Steady v.before
  children : ReadyList l v.begun v.tree.children
  parts : v.node < v.after.forest.nextNode →
    b'.forest.parts v.node = v.after.forest.parts v.node
  spot : ∃ q, b'.forest.profile? v.node = some q ∧ v.tree.spot? = some (q.kind, q.span)

/-- When an expression ends, what is nested among its items are its parts. -/
theorem expression_emits {p : Production} (hexpr : p.isExpression = true) {e : Option Extent}
    {cs : List Tree} (ht : Derived (.node p e cs)) (hb : Steady b)
    (hready : ReadyList l (b.enter path (.node p e cs)) cs)
    (hclean : (walk path (.node p e cs) b).syntaxErrors = b.syntaxErrors) :
    ∃ x, (walk path (.node p e cs) b).forest.expr? b.forest.nextNode = some x ∧
      x.nested.map some = ((walk path (.node p e cs) b).forest.parts b.forest.nextNode).map
        (walk path (.node p e cs) b).forest.expr? ∧
      ∀ id ∈ (walk path (.node p e cs) b).forest.parts b.forest.nextNode,
        b.forest.nextNode < id ∧ id < (walk path (.node p e cs) b).forest.nextNode := by
  have hbegin : b.enter path (.node p e cs) = b.beginExpr path (.node p e cs) := by
    cases p <;> first | rfl | cases hexpr
  have hcompiling := b.beginExpr_compiling path (.node p e cs)
  obtain ⟨parent, hbegun⟩ := beginExpr_begun hb path (.node p e cs)
  rw [← hbegin] at hcompiling hbegun
  have hstep : InStep b.forest.nextNode [] [] (b.enter path (.node p e cs)) :=
    ⟨⟨path, _, hcompiling.frames⟩, hbegun.sprout.parts_new, ⟨_, hcompiling.current, rfl⟩,
      List.forall_mem_nil _, List.forall_mem_nil _⟩
  obtain ⟨f, hf, hzero⟩ : ∃ f, p.form? = some f ∧ (Tree.node p e cs).wanted = 0 := by
    cases p <;> first | exact ⟨_, rfl, rfl⟩ | cases hexpr
  obtain ⟨harranged, hwanted⟩ := (ht.phrase hf).arranged
  have hinner := walkList_errors path 0 cs (b.enter path (.node p e cs))
  have hexit := exit_grows (walkList path 0 cs (b.enter path (.node p e cs))) path (.node p e cs)
  have hsame := enter_clean hclean
  rw [walk, ← hsame] at hclean
  have hcleaninner := hinner.eq_left hexit hclean
  obtain ⟨taken, ws, hdone, hlength⟩ :=
    walkList_inStep ht.children harranged hready hcleaninner hstep
  -- no expression is left waiting
  obtain rfl := List.eq_nil_of_length_eq_zero (hlength.trans (hwanted.trans hzero))
  have hparts := hdone.parts
  rw [List.append_nil] at hparts
  obtain ⟨x, hx, hitems⟩ := hdone.items
  rw [walk, (exit_forest (.inr hexpr) _ path e cs).1, hparts]
  refine ⟨x, hx, hitems, fun id hid => ?_⟩
  have hid := List.mem_append_left [] hid
  exact ⟨hdone.later id hid, hdone.lt hid⟩

/-- Nothing happens afterwards to the parts of an expression, nor to what is nested among its
items. -/
theorem Visit.emits (ht : Derived t) (hb : b.Seated) (hv : v ∈ visits path t b)
    (hclean : (walk path t b).syntaxErrors = b.syntaxErrors)
    (hshown : v.Shown l (walk path t b)) {base : NodeId}
    (hlinked : (walk path t b).forest.Linked base) (hbase : base ≤ v.node) {x : Expr}
    (hx : (walk path t b).forest.expr? v.node = some x) :
    (walk path t b).forest.Emits v.node x := by
  obtain ⟨q, hq, hkind, hsorts⟩ := Forest.exists_profile?_of_expr? hx
  have hemitted : v.begun.forest.nextNode = v.node + 1 ∧
      ∃ y, v.after.forest.expr? v.node = some y ∧
        y.nested.map some = (v.after.forest.parts v.node).map v.after.forest.expr? ∧
        ∀ id ∈ v.after.forest.parts v.node, v.node < id ∧ id < v.after.forest.nextNode := by
    have hderived : Derived v.tree := ht.of_mem (mem_preorder_of_visit hv)
    have hcleanv := clean_of_visit hv hclean
    obtain ⟨q', hq', hspot⟩ := hshown.spot
    obtain rfl := Option.some.inj (hq.symm.trans hq')
    rw [hkind] at hspot
    obtain ⟨hsteady, hchildren, -, -⟩ := hshown
    obtain ⟨path', tree, before⟩ := v
    cases tree with
    | token k => exact nomatch hspot
    | node p e cs =>
      have hexpr := Tree.isExpression_of_spot? hspot
      refine ⟨?_, expression_emits hexpr hderived hsteady hchildren hcleanv⟩
      have hbegin : before.enter path' (.node p e cs) = before.beginExpr path' (.node p e cs) := by
        cases p <;> first | rfl | cases hexpr
      exact (congrArg (·.forest.nextNode) hbegin).trans (before.beginExpr_nextNode path' _)
  obtain ⟨hnext, y, hy, hnested, hlater⟩ := hemitted
  have hchildren : (walk path t b).forest.children v.node = v.after.forest.parts v.node :=
    (Forest.children_kept hq hsorts).trans (hshown.parts (Forest.lt_of_expr? _ hy))
  -- the parts are as they were, and the expression has got no more items
  have hsame : ∀ id ∈ v.after.forest.parts v.node,
      (walk path t b).forest.expr? id = v.after.forest.expr? id := by
    intro id hid
    obtain ⟨hlt, hid⟩ := hlater id hid
    refine Expr.Altered.rel_eq (walk_alters ht hb hv hid) (Nat.lt_asymm hlt)
      (Nat.not_lt_of_le ?_)
    rw [hnext]
    exact hlt
  have hitems : x.items = y.items := by
    have hrel := walk_alters ht hb hv (Forest.lt_of_expr? _ hy)
    rw [hx, hy] at hrel
    cases hrel with
    | some h => exact h.items (Nat.lt_irrefl _)
  have hall : x.nested.map some =
      ((walk path t b).forest.children v.node).map (walk path t b).forest.expr? := by
    rw [hchildren, List.map_congr_left hsame, ← hnested, Expr.nested, Expr.nested, hitems]
  refine ⟨hall, Forest.nodes_of_exprs hall, Forest.nodup_children hlinked hbase, fun c hc => ?_⟩
  exact (hlinked.parent_of_part _ c hbase ((Forest.mem_children _).mp hc)).1

/-! ## Documents and expressions by themselves -/

theorem Visit.Inside.shown {b' : Builder} (h : v.Inside l b b')
    (hspot : ∃ q, b'.forest.profile? v.node = some q ∧ v.tree.spot? = some (q.kind, q.span)) :
    v.Shown l b' := by
  refine ⟨h.ready.orderly.steady, ?_, h.parts v.node (Nat.le_refl _), hspot⟩
  obtain ⟨path, tree, before⟩ := v
  cases tree with
  | token k =>
    obtain ⟨q, -, hnone⟩ := hspot
    exact nomatch hnone
  | node p e cs => exact (h.ready.begins path).1

theorem Ready.exists_shown (h : Ready l b t) (path : Tree.Path) {id : NodeId}
    (hle : b.forest.nextNode ≤ id) (hlt : id < (walk path t b).forest.nextNode) :
    ∃ v ∈ visits path t b, v.node = id ∧ v.Shown l (walk path t b) := by
  obtain ⟨v, hv, rfl, hspot⟩ := h.exists_visit path hle hlt
  exact ⟨v, hv, rfl, (inside_of_visit h hv).shown hspot⟩

/-- The same for an expression that stands in no section. -/
theorem exists_shown_of_expression {p : Production} (hexpr : p.isExpression = true)
    {e : Option Extent} {cs : List Tree} (hb : Steady b)
    (h : ReadyList l (b.enter path (.node p e cs)) cs) {id : NodeId} (hle : b.forest.nextNode ≤ id)
    (hlt : id < (walk path (.node p e cs) b).forest.nextNode) :
    ∃ v ∈ visits path (.node p e cs) b, v.node = id ∧ v.Shown l (walk path (.node p e cs) b) := by
  have halike := exit_alike (walkList path 0 cs (b.enter path (.node p e cs))) path (.node p e cs)
  have hbegin : b.enter path (.node p e cs) = b.beginExpr path (.node p e cs) := by
    cases p <;> first | rfl | cases hexpr
  obtain ⟨parent, hbegun⟩ := beginExpr_begun hb path (.node p e cs)
  rw [← hbegin] at hbegun
  have hnext := hbegun.sprout.nextNode
  rcases Nat.eq_or_lt_of_le hle with rfl | hgt
  · refine ⟨⟨path, .node p e cs, b⟩, List.mem_cons_self, rfl, hb, h, fun _ => rfl, ?_⟩
    have hlt : b.forest.nextNode < (b.enter path (.node p e cs)).forest.nextNode := by
      rw [hnext]
      exact Nat.lt_succ_self _
    refine ⟨exprProfile (.node p e cs), ?_, Tree.spot?_of_expression hexpr e cs⟩
    exact (halike.profile? _).trans (((h.grown path 0).profile? _ hlt).trans
      hbegun.sprout.profile?_new)
  · rw [walk, halike.nextNode] at hlt
    obtain ⟨v, hv, rfl, q, hq, hspot⟩ := h.exists_visit path 0 (by rw [hnext]; exact hgt) hlt
    refine ⟨v, List.mem_cons_of_mem _ hv, rfl, ?_⟩
    refine ((inside_of_visitList h hv).alike halike).shown ⟨q, ?_, hspot⟩
    exact (halike.profile? _).trans hq

/-- All expressions that a walk over a tree from the beginning of a document adds. -/
theorem emits_of_walk (ht : Derived t) {f : Forest} {path : String} {stop : Int} {origin : Origin}
    {source : List Char} {keywords : List String}
    (hclean : (walk [] t (start f path stop origin source keywords [])).syntaxErrors = [])
    (hshown : ∀ id, f.nextNode < id →
      id < (walk [] t (start f path stop origin source keywords [])).forest.nextNode →
      ∃ v ∈ visits [] t (start f path stop origin source keywords []), v.node = id ∧
        v.Shown l (walk [] t (start f path stop origin source keywords []))) {id : NodeId} {e : Expr}
    (hle : f.nextNode ≤ id)
    (he : (walk [] t (start f path stop origin source keywords [])).forest.expr? id = some e) :
    (walk [] t (start f path stop origin source keywords [])).forest.Emits id e := by
  have hadvances := walk_advances (start_rooted f path stop origin source keywords []) [] t
  have hsteady := hadvances.rooted.steady
  have hdocument : (walk [] t (start f path stop origin source keywords [])).document =
    f.nextNode := hadvances.document
  have hlinked := hsteady.linked
  obtain ⟨q, hq, hkind, -⟩ := hsteady.document
  rw [hdocument] at hlinked hq
  rcases Nat.eq_or_lt_of_le hle with rfl | hgt
  · -- the document itself is no expression
    obtain ⟨q', hq', hkind', -⟩ := Forest.exists_profile?_of_expr? he
    obtain rfl := Option.some.inj (hq.symm.trans hq')
    exact nomatch hkind.symm.trans hkind'
  · have hseated : (start f path stop origin source keywords []).Seated := fun _ h => by cases h
    obtain ⟨v, hv, rfl, hshown⟩ := hshown id hgt (Forest.lt_of_expr? _ he)
    exact Visit.emits ht hseated hv hclean hshown hlinked hle he

/-- When an expression has begun that stands by itself, the walk over its parts can begin. -/
theorem start_readyList {p : Production} (hexpr : p.isExpression = true) {e : Option Extent}
    {cs : List Tree} (hcs : ∀ c ∈ cs, Inert c) (hlaid : Layout.spread.LaidOut (.node p e cs))
    (f : Forest) (path : String) (stop : Int) (origin : Origin) (source : List Char)
    (keywords : List String) (errors : List SyntaxError) :
    ReadyList .spread
      ((start f path stop origin source keywords errors).enter [] (.node p e cs)) cs := by
  have horderly := start_orderly .spread f path stop origin source keywords errors
  have hfits : (start f path stop origin source keywords errors).forest.Fits .spread
      (start f path stop origin source keywords errors).host (Tree.node p e cs).span :=
    start_fits f path origin source keywords errors trivial
  generalize start f path stop origin source keywords errors = b at horderly hfits ⊢
  have hbegin : b.enter [] (.node p e cs) = b.beginExpr [] (.node p e cs) := by
    cases p <;> first | rfl | cases hexpr
  obtain ⟨parent, hbegun⟩ := beginExpr_begun horderly.steady [] (.node p e cs)
  rw [← hbegin] at hbegun
  have hspot := Tree.spot?_of_expression hexpr e cs
  refine ⟨hbegun.orderly horderly hfits, fun c hc => .inert (hcs c hc) fun hnil => ?_, hlaid.2,
    fits_inside hbegun.sprout rfl (by rw [hspot]; rfl) (host_of_place hbegun.frames) hlaid⟩
  rw [hbegun.frames] at hnil
  cases hnil

end Builder

open Builder Grammar

/-- The tree of an expression that is a text by itself. -/
theorem expression_of_parse {terminals : List Terminal} {origin : Origin} {limit : Int}
    {text : List Char} {t : Tree}
    (h : Parse.parse (.ofGrammar .expr rules terminals) origin limit text = ([], some t)) :
    Derived t ∧ Phrase .expr t ∧ Layout.spread.LaidOut t := by
  obtain ⟨e, ks, hderives, hsymbol, hhead, hwithin, hfollow⟩ := Parse.parse_accepts h
  have hmem := List.mem_of_head? hhead
  have hshape := hderives.shape closed_shape (fun k hk => (hwithin k hk).proper) false
  rw [hsymbol] at hshape
  obtain ⟨x, hx, htrees⟩ := hshape
  have hlaid := (hderives.lined rules_solid (inLine_of_within hwithin hfollow) false).1.child hmem
  refine ⟨⟨e, ks, false, hderives, hmem⟩, ?_, (Tree.spread_of_laidOut hlaid).laidOut⟩
  rw [htrees] at hmem
  rwa [List.mem_singleton.mp hmem]

/-- In a text without syntax errors all expressions have their nested expressions for children. -/
theorem Builder.ofText_emits {f : Forest} {text uri abspath : String} {limit : Int}
    (hclean : (Builder.ofText f text uri abspath limit).syntaxErrors = []) {id : NodeId} {e : Expr}
    (hle : f.nextNode ≤ id)
    (he : (Builder.ofText f text uri abspath limit).forest.expr? id = some e) :
    (Builder.ofText f text uri abspath limit).forest.Emits id e := by
  rcases ofText_cases f text uri abspath limit hclean with heq | ⟨t, hparse, heq, hwalked⟩
  · rw [heq, finish_forest, start_expr? f _ _ _ _ _ _ hle] at he
    cases he
  · rw [heq, finish_forest] at he ⊢
    obtain ⟨htree, hlaid, -, hwithin⟩ := laidOut_of_parse hparse
    have hready : Ready .ordered (startText f text uri abspath) t :=
      ⟨start_orderly .., .outer htree.outer htree.allLegible rfl, hlaid, fun s hs =>
        start_fits f uri _ _ _ _ (hwithin s hs)⟩
    exact emits_of_walk htree.derived hwalked
      (fun id hgt hlt => hready.exists_shown [] (by rw [start_nextNode]; exact hgt) hlt) hle he

/-- The same for an expression that is compiled by itself. -/
theorem Compiled.emits {text : String} {c : Compiled} (hc : Compiled.ofText text = .ok c)
    {id : NodeId} {e : Expr} (he : c.forest.expr? id = some e) : c.forest.Emits id e := by
  obtain ⟨t, stop, hparse, hclean, hforest, hexpr⟩ := Compiled.exists_walk hc
  obtain ⟨hderived, hphrase, hlaid⟩ := expression_of_parse hparse
  rw [hforest] at he ⊢
  cases hphrase with
  | @expr extent x hx =>
    have hready := start_readyList (p := .expr) rfl (List.forall_mem_singleton.mpr hx.inert) hlaid
      {} "" stop (.ofNames "" "") text.toList Language.keywords []
    refine emits_of_walk (l := .spread) hderived hclean (fun id hgt hlt => ?_) (Nat.zero_le id) he
    exact exists_shown_of_expression rfl (start_orderly .spread ..).steady hready
      (by rw [start_nextNode]; exact hgt) hlt

/-- The nested expressions of every expression of a text without syntax errors, and of an expression
that is compiled by itself, are its children: each is among its items exactly once, in their
order. -/
theorem subexpressions_emitted (f : Forest) (text uri abspath : String) (limit : Int) :
    ((Builder.ofText f text uri abspath limit).syntaxErrors = [] →
      ∀ id e, f.nextNode ≤ id →
        (Builder.ofText f text uri abspath limit).forest.expr? id = some e →
          (Builder.ofText f text uri abspath limit).forest.Emits id e) ∧
    ∀ c, Compiled.ofText text = .ok c →
      c.forest.expr? c.node = some c.expr ∧
        ∀ id e, c.forest.expr? id = some e → c.forest.Emits id e := by
  constructor
  · intro hclean id e hle he
    exact Builder.ofText_emits hclean hle he
  · intro c hc
    obtain ⟨t, stop, -, -, -, hexpr⟩ := Compiled.exists_walk hc
    exact ⟨hexpr, fun id e he => Compiled.emits hc he⟩

/-- The expression in the command of a task and one with brackets that is compiled by itself. -/
theorem subexpressions_emitted_echo :
    (Builder.ofText {} Builder.echoText "" "" 64).syntaxErrors = [] ∧
      (∃ e, (Builder.ofText {} Builder.echoText "" "" 64).forest.expr? 5 = some e ∧
        (Builder.ofText {} Builder.echoText "" "" 64).forest.Emits 5 e) ∧
      ∃ c, Compiled.ofText "[x][0] + 1" = .ok c ∧ c.forest.Emits c.node c.expr := by
  have hecho := Builder.ofText_echoText 64
  obtain ⟨hdocument, -⟩ := subexpressions_emitted {} Builder.echoText "" "" 64
  obtain ⟨-, hcompiled⟩ := subexpressions_emitted {} "[x][0] + 1" "" "" 64
  obtain ⟨e, he⟩ := Option.isSome_iff_exists.mp hecho.expression
  obtain ⟨c, hc⟩ := Compiled.exists_indexed
  obtain ⟨hexpr, hall⟩ := hcompiled c hc
  exact ⟨hecho.syntaxErrors, ⟨e, he, hdocument hecho.syntaxErrors 5 e (Nat.zero_le 5) he⟩,
    c, hc, hall c.node c.expr hexpr⟩

end Wdl
