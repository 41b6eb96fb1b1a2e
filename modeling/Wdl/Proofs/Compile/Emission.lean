import Wdl.Proofs.Builder.Ready
import Wdl.Proofs.Compile.Kept

/-!
Nested expressions are put in once.

While an expression is compiled, those that are nested in it become its parts when they begin, and
are put among its items when the construct around them ends.  `InStep` says how the two go
together: the parts are those that have been put in, in order, and then those that wait.

A production takes all that wait when it ends, and what it takes is what its children leave: those
that leave an expression come last among them, `Phrase.arranged`.  So when the walk over an
expression is done nothing waits, `expression_emits`.
-/

namespace Wdl

/-- The nested expression that an item is. -/
def Item.nested? : Item → Option Expr
  | .nested info items => some ⟨info, items⟩
  | _ => none

/-- The nested expressions among the items of an expression, in order. -/
def Expr.nested (e : Expr) : List Expr :=
  e.items.filterMap Item.nested?

theorem Item.filterMap_nested?_toItem (es : List Expr) :
    (es.map Expr.toItem).filterMap Item.nested? = es := by
  rw [List.filterMap_map]
  exact List.filterMap_some

theorem Forest.exists_profile?_of_expr? {f : Forest} {id : NodeId} {e : Expr}
    (h : f.expr? id = some e) :
    ∃ q, f.profile? id = some q ∧ q.kind = .expression ∧ q.sortsParts = false := by
  rw [Forest.expr?_eq] at h
  obtain ⟨e', he', -⟩ := Option.map_eq_some_iff.mp h
  obtain ⟨⟨body, span, position, parent⟩, hn, hbody⟩ := Option.bind_eq_some_iff.mp he'
  refine ⟨_, Forest.profile?_of_node? f hn, ?_⟩
  cases body with
  | expression x => exact ⟨rfl, rfl⟩
  | _ => simp [Node.expr?] at hbody

/-! ## The order of children -/

/-- Whether the trees of a production leave an expression waiting. -/
def Production.waits : Production → Bool
  | .expr | .exprOperand | .placeholder => true
  | _ => false

namespace Tree

/-- Whether a walk over the tree leaves an expression waiting. -/
def waits (t : Tree) : Bool :=
  (t.production?.map Production.waits).getD false

/-- Whether the tree is a part of expressions. -/
def formed : Tree → Bool
  | .token _ => true
  | .node p _ _ => p.form?.isSome

/-- How many expressions wait when the children of a production have been walked over. -/
def wanted (t : Tree) : Nat :=
  match t.production? with
  | some .array | some .pair | some .ifThenElse | some .apply => t.count .expr
  | some p => p.demand
  | none => 0

/-- The parts of expressions that leave expressions waiting come after the others. -/
def Arranged (cs : List Tree) : Prop :=
  (∀ c ∈ cs, c.formed = true) ∧ cs.Pairwise fun c d => c.waits = true → d.waits = true

/-- A row of parts that leave nothing waiting, and then of some that all do. -/
theorem arranged_row {front back : List Tree}
    (hfront : ∀ c ∈ front, c.formed = true ∧ c.waits = false)
    (hback : ∀ c ∈ back, c.formed = true ∧ c.waits = true) :
    Arranged (front ++ back) ∧ ((front ++ back).filter waits).length = back.length := by
  have hnone : front.filter waits = [] := List.filter_eq_nil_iff.mpr fun c hc => by
    rw [(hfront c hc).2]
    exact Bool.false_ne_true
  refine ⟨⟨List.forall_mem_append.mpr ⟨fun c hc => (hfront c hc).1, fun c hc => (hback c hc).1⟩,
    List.pairwise_append.mpr ⟨?_, ?_, ?_⟩⟩, ?_⟩
  · refine List.pairwise_of_forall_mem_list fun c hc d _ hw => ?_
    rw [(hfront c hc).2] at hw
    cases hw
  · exact List.pairwise_of_forall_mem_list fun c _ d hd _ => (hback d hd).2
  · exact fun c _ d hd _ => (hback d hd).2
  · rw [List.filter_append, hnone, List.nil_append,
      List.filter_eq_self.mpr fun c hc => (hback c hc).2]

end Tree

/-- Whether trees of the form leave an expression waiting. -/
def Form.waits : Form → Bool
  | .expr | .operand | .placeholder => true
  | _ => false

theorem Phrase.formed {f : Form} {t : Tree} (h : Phrase f t) :
    t.formed = true ∧ t.waits = f.waits := by
  cases h <;> exact ⟨rfl, rfl⟩

/-- The expressions among the children of a construct are counted. -/
theorem Phrase.count_expr {p : Production} {e : Option Extent} {front back : List Tree}
    (hfront : ∀ c ∈ front, c.isA .expr = false) (hback : ∀ c ∈ back, Phrase .expr c) :
    (Tree.node p e (front ++ back)).count .expr = back.length := by
  have hmid : ∀ c ∈ back, c.isA .expr = true := fun c hc => by
    cases hback c hc
    rfl
  have hrow := Builder.childrenOf_eq_row (p := p) (e := e) hfront hmid (List.forall_mem_nil _)
  rw [List.append_nil] at hrow
  rw [Tree.count, hrow]

/-- The children of a part of an expression are arranged, and as many of them leave an expression
waiting as the production takes at its end. -/
theorem Phrase.arranged {f : Form} {p : Production} {e : Option Extent} {cs : List Tree}
    (h : Phrase f (.node p e cs)) :
    Tree.Arranged cs ∧ (cs.filter Tree.waits).length = (Tree.node p e cs).wanted := by
  have htoken : ∀ k, (Tree.token k).formed = true ∧ (Tree.token k).waits = false :=
    fun _ => ⟨rfl, rfl⟩
  have hnone := List.forall_mem_nil fun c : Tree => c.formed = true ∧ c.waits = true
  have hfirst := List.forall_mem_nil fun c : Tree => c.formed = true ∧ c.waits = false
  cases h with
  | expr hx | operand hx | literalValue hx =>
    exact Tree.arranged_row (List.forall_mem_singleton.mpr hx.formed) hnone
  | binary op hx hy | interpolation hx hy =>
    exact Tree.arranged_row
      (List.forall_mem_cons.mpr ⟨hx.formed, List.forall_mem_singleton.mpr hy.formed⟩) hnone
  | group hx | negate hx | unaryMinus hx | unaryPlus hx | exprPart hx =>
    exact Tree.arranged_row hfirst (List.forall_mem_singleton.mpr hx.formed)
  | index hx hy | mapEntry hx hy | literalEntry hx hy =>
    exact Tree.arranged_row (List.forall_mem_singleton.mpr hx.formed)
      (List.forall_mem_singleton.mpr hy.formed)
  | nameEntry k hx =>
    exact Tree.arranged_row (List.forall_mem_singleton.mpr (htoken k))
      (List.forall_mem_singleton.mpr hx.formed)
  | array hxs =>
    rw [show (Tree.node .array e cs).wanted = cs.length from
      Phrase.count_expr (List.forall_mem_nil _) hxs]
    exact Tree.arranged_row hfirst fun c hc => (hxs c hc).formed
  | @pair _ x y hx hy =>
    have hxs : ∀ c ∈ [x, y], Phrase .expr c :=
      List.forall_mem_cons.mpr ⟨hx, List.forall_mem_singleton.mpr hy⟩
    rw [show (Tree.node .pair e [x, y]).wanted = [x, y].length from
      Phrase.count_expr (List.forall_mem_nil _) hxs]
    exact Tree.arranged_row hfirst fun c hc => (hxs c hc).formed
  | @ifThenElse _ c x y hc hx hy =>
    have hxs : ∀ z ∈ [c, x, y], Phrase .expr z :=
      List.forall_mem_cons.mpr ⟨hc, List.forall_mem_cons.mpr ⟨hx, List.forall_mem_singleton.mpr hy⟩⟩
    rw [show (Tree.node .ifThenElse e [c, x, y]).wanted = [c, x, y].length from
      Phrase.count_expr (List.forall_mem_nil _) hxs]
    exact Tree.arranged_row hfirst fun c hc => (hxs c hc).formed
  | @apply _ xs k hxs =>
    have hfront : ∀ c ∈ [Tree.token k], c.isA .expr = false := List.forall_mem_singleton.mpr rfl
    rw [show (Tree.node .apply e (.token k :: xs)).wanted = xs.length from
      Phrase.count_expr hfront hxs]
    exact Tree.arranged_row (List.forall_mem_singleton.mpr (htoken k))
      fun c hc => (hxs c hc).formed
  | map hxs =>
    have hrow := Tree.arranged_row (fun c hc => (hxs c hc).formed) hnone
    rwa [List.append_nil] at hrow
  | object k hxs =>
    have hrow := Tree.arranged_row
      (List.forall_mem_cons.mpr ⟨htoken k, fun c hc => (hxs c hc).formed⟩) hnone
    rwa [List.append_nil] at hrow
  | member k hx =>
    exact Tree.arranged_row
      (List.forall_mem_cons.mpr ⟨hx.formed, List.forall_mem_singleton.mpr (htoken k)⟩) hnone
  | leftName k | int k | float k | literal k | fragment k | numberValue k =>
    exact Tree.arranged_row (List.forall_mem_singleton.mpr (htoken k)) hnone
  | booleanTrue | booleanFalse | null | noFragment => exact Tree.arranged_row hfirst hnone
  | string k l hx hxs =>
    have hrow := Tree.arranged_row (List.forall_mem_cons.mpr ⟨htoken k, List.forall_mem_cons.mpr
      ⟨hx.formed, List.forall_mem_append.mpr ⟨fun c hc => (hxs c hc).formed,
        List.forall_mem_singleton.mpr (htoken l)⟩⟩⟩) hnone
    rwa [List.append_nil] at hrow
  | placeholder hxs hy =>
    exact Tree.arranged_row (fun c hc => (hxs c hc).formed)
      (List.forall_mem_singleton.mpr hy.formed)
  | placeholderOption k hx =>
    exact Tree.arranged_row
      (List.forall_mem_cons.mpr ⟨htoken k, List.forall_mem_singleton.mpr hx.formed⟩) hnone

namespace Builder

open Grammar

/-! ## An expression and its parts -/

/-- The innermost open expression is `n`; its parts are those that have been put in, and then those
that wait. -/
structure InStep (n : NodeId) (taken waiting : List NodeId) (b : Builder) : Prop where
  frames : ∃ path outer, b.frames = ⟨path, n, waiting⟩ :: outer
  parts : b.forest.parts n = taken ++ waiting
  items : ∃ e, b.forest.expr? n = some e ∧ e.nested.map some = taken.map b.forest.expr?
  later : ∀ id ∈ taken ++ waiting, n < id
  found : ∀ id ∈ waiting, ∃ x, b.forest.expr? id = some x

namespace InStep

variable {n : NodeId} {taken waiting : List NodeId} {b b' : Builder}

theorem focus? (h : InStep n taken waiting b) : b.focus? = some n := by
  obtain ⟨path, outer, hframes⟩ := h.frames
  exact Leaves.focus?_of_frames hframes

theorem seated (h : InStep n taken waiting b) : b.Seated := by
  intro id hid
  obtain rfl := Option.some.inj (h.focus?.symm.trans hid)
  obtain ⟨e, he, -⟩ := h.items
  exact ⟨e, he⟩

theorem found_taken (h : InStep n taken waiting b) {id : NodeId} (hid : id ∈ taken) :
    ∃ x, b.forest.expr? id = some x := by
  obtain ⟨e, -, hitems⟩ := h.items
  have hmem : b.forest.expr? id ∈ e.nested.map some := by
    rw [hitems]
    exact List.mem_map_of_mem hid
  obtain ⟨x, -, hx⟩ := List.mem_map.mp hmem
  exact ⟨x, hx.symm⟩

theorem lt (h : InStep n taken waiting b) {id : NodeId} (hid : id ∈ taken ++ waiting) :
    id < b.forest.nextNode := by
  obtain ⟨x, hx⟩ := (List.mem_append.mp hid).elim h.found_taken (h.found id)
  exact Forest.lt_of_expr? _ hx

theorem self_lt (h : InStep n taken waiting b) : n < b.forest.nextNode := by
  obtain ⟨e, he, -⟩ := h.items
  exact Forest.lt_of_expr? _ he

/-- Nothing changes but the items of the expression, and not what is nested among them. -/
theorem rewrite {g : List Item → List Item} (h : InStep n taken waiting b)
    (hrewrites : Rewrites n g b b') (hparts : b'.forest.parts n = b.forest.parts n)
    (hg : ∀ e, b.forest.expr? n = some e →
      (g e.items).filterMap Item.nested? = e.items.filterMap Item.nested?) :
    InStep n taken waiting b' where
  frames := by rw [hrewrites.frames]; exact h.frames
  parts := hparts.trans h.parts
  items := by
    obtain ⟨e, he, hitems⟩ := h.items
    refine ⟨{ e with items := g e.items }, by rw [hrewrites.self, he]; rfl, ?_⟩
    rw [Expr.nested, hg e he, ← Expr.nested, hitems]
    refine List.map_congr_left fun id hid => (hrewrites.other id ?_).symm
    exact Nat.ne_of_gt (h.later id (List.mem_append_left _ hid))
  later := h.later
  found id hid := by
    rw [hrewrites.other id (Nat.ne_of_gt (h.later id (List.mem_append_right _ hid)))]
    exact h.found id hid

/-- Nothing changes for expressions. -/
theorem still (h : InStep n taken waiting b) (hframes : b'.frames = b.frames)
    (hparts : b'.forest.parts n = b.forest.parts n)
    (hexpr : ∀ id, b'.forest.expr? id = b.forest.expr? id) : InStep n taken waiting b' where
  frames := by rw [hframes]; exact h.frames
  parts := hparts.trans h.parts
  items := by
    obtain ⟨e, he, hitems⟩ := h.items
    exact ⟨e, (hexpr n).trans he, hitems.trans (List.map_congr_left fun id _ => (hexpr id).symm)⟩
  later := h.later
  found id hid := by
    rw [hexpr]
    exact h.found id hid

theorem withReports (h : InStep n taken waiting b) (errors : List SyntaxError)
    (problems : List DocumentProblem) : InStep n taken waiting (b.withReports errors problems) :=
  h.still rfl rfl fun _ => rfl

theorem checkKeyword (h : InStep n taken waiting b) (t : Tree) (name : String) :
    InStep n taken waiting (b.checkKeyword t name) := by
  obtain ⟨errors, heq⟩ := b.checkKeyword_eq t name
  rw [heq]
  exact h.withReports _ _

/-- The items of the expression change, and not what is nested among them. -/
theorem modifyItems (h : InStep n taken waiting b) {g : List Item → List Item}
    (hg : ∀ e, b.forest.expr? n = some e →
      (g e.items).filterMap Item.nested? = e.items.filterMap Item.nested?) :
    InStep n taken waiting (b.modifyItems n g) :=
  h.rewrite (modifyItems_rewrites b n g) ((b.modifyItems_still n g).alike.parts n) hg

/-- An item is put in that is no expression. -/
theorem emit (h : InStep n taken waiting b) {i : Item} (hi : i.nested? = none) :
    InStep n taken waiting (b.emit i) := by
  obtain ⟨path, outer, hframes⟩ := h.frames
  have hemit : b.emit i = b.modifyItems n (· ++ [i]) := by rw [Builder.emit, hframes]
  rw [hemit]
  refine h.modifyItems fun e _ => ?_
  rw [List.filterMap_append, List.filterMap_cons_none hi, List.filterMap_nil, List.append_nil]

/-- All expressions that wait are put in. -/
theorem take (h : InStep n taken waiting b) {k : Nat} (hk : waiting.length = k) :
    InStep n (taken ++ waiting) [] (b.emitPending k) := by
  obtain ⟨path, outer, hframes⟩ := h.frames
  obtain ⟨e, he, hitems⟩ := h.items
  obtain ⟨es, hes⟩ : ∃ es : List Expr, waiting.map b.forest.expr? = es.map some := by
    have hfound := h.found
    clear hframes hk h
    induction waiting with
    | nil => exact ⟨[], rfl⟩
    | cons id ids ih =>
      obtain ⟨⟨x, hx⟩, hrest⟩ := List.forall_mem_cons.mp hfound
      obtain ⟨es, hes⟩ := ih hrest
      exact ⟨x :: es, by rw [List.map_cons, List.map_cons, hx, hes]⟩
  have hne : ∀ id ∈ taken ++ waiting, id ≠ n := fun id hid => Nat.ne_of_gt (h.later id hid)
  subst hk
  let frame : Frame := ⟨path, n, []⟩
  have hpending : b.frames = { frame with pending := frame.pending ++ waiting } :: outer := hframes
  obtain ⟨hkept, hrewrites⟩ := emitPending_rewrites hpending hes
    fun id hid => hne id (List.mem_append_right _ hid)
  have hself : (b.emitPending waiting.length).forest.expr? n =
      some { e with items := e.items ++ es.map Expr.toItem } := by
    refine hrewrites.self.trans ?_
    show (b.forest.expr? n).map _ = _
    rw [he]
    rfl
  have hother : (taken ++ waiting).map b.forest.expr? =
      (taken ++ waiting).map (b.emitPending waiting.length).forest.expr? :=
    List.map_congr_left fun id hid => (hrewrites.other id (hne id hid)).symm
  refine ⟨⟨path, outer, hkept⟩, ?_, ⟨_, hself, ?_⟩, ?_, List.forall_mem_nil _⟩
  · rw [(b.emitPending_still waiting.length).alike.parts n, List.append_nil]
    exact h.parts
  · rw [Expr.nested, List.filterMap_append, Item.filterMap_nested?_toItem, List.map_append, ← hother,
      List.map_append, ← hes, ← hitems]
    rfl
  · rw [List.append_nil]
    exact h.later

/-- The beginning of a part of an expression that is no expression itself. -/
theorem enter (h : InStep n taken waiting b) {p : Production} (hp : p.form?.isSome = true)
    (hexpr : p.isExpression = false) (path : Tree.Path) (e : Option Extent) (cs : List Tree) :
    InStep n taken waiting (b.enter path (.node p e cs)) := by
  by_cases hobject : p = .object
  · subst hobject
    show InStep n taken waiting (b.beginObject _)
    unfold beginObject
    dsimp only
    split
    · exact h
    · exact (h.checkKeyword _ _).emit rfl
  · have hsame : b.enter path (.node p e cs) = b := by
      cases p <;> first | rfl | exact absurd rfl hobject | cases hexpr; done | cases hp
    rw [hsame]
    exact h

theorem emitInt (h : InStep n taken waiting b) (t : Tree) :
    InStep n taken waiting (b.emitInt t) := by
  unfold Builder.emitInt
  dsimp only
  split
  · exact (h.withReports (b.syntaxErrors ++ [_]) b.problems).emit rfl
  · exact h.emit rfl

theorem emitStringPart (h : InStep n taken waiting b) (t : Tree) :
    InStep n taken waiting (b.emitStringPart t) := by
  unfold Builder.emitStringPart
  dsimp only
  split
  · exact h.emit rfl
  · exact h.withReports (b.syntaxErrors ++ [_]) b.problems

theorem endObject (h : InStep n taken waiting b) (t : Tree) :
    InStep n taken waiting (b.endObject t) := by
  unfold Builder.endObject
  dsimp only
  split <;> exact h.emit rfl

theorem endMember (h : InStep n taken waiting b) (t : Tree) :
    InStep n taken waiting (b.endMember t) := by
  unfold Builder.endMember
  dsimp only
  have hcheck : InStep n taken waiting (if t.childText 1 == "left" || t.childText 1 == "right" then b
      else b.checkKeyword t (t.childText 1)) := by
    split
    · exact h
    · exact h.checkKeyword _ _
  generalize (if t.childText 1 == "left" || t.childText 1 == "right" then b
    else b.checkKeyword t (t.childText 1)) = b' at hcheck ⊢
  split
  · next frame outer name hframes _ hlast =>
    obtain ⟨path, others, hframes'⟩ := hcheck.frames
    obtain ⟨rfl, -⟩ := List.cons.inj (hframes'.symm.trans hframes)
    refine hcheck.modifyItems fun e he => ?_
    rw [lastItem?, hframes] at hlast
    dsimp only at hlast
    rw [he, Option.bind_some] at hlast
    obtain ⟨front, hfront⟩ := List.getLast?_eq_some_iff.mp hlast
    rw [hfront, List.dropLast_concat, List.filterMap_append, List.filterMap_append]
    rfl
  · exact (hcheck.emit rfl).emit rfl

/-- A member of an object whose key can be read takes its value. -/
theorem endObjectEntry (h : InStep n taken waiting b) (hone : waiting.length = 1) {t : Tree}
    (hclean : (b.endObjectEntry t).syntaxErrors = b.syntaxErrors)
    (ht : t.children ≠ []) : InStep n (taken ++ waiting) [] (b.endObjectEntry t) := by
  unfold Builder.endObjectEntry at hclean ⊢
  cases hchildren : t.children with
  | nil => exact absurd hchildren ht
  | cons literal rest =>
    rw [hchildren] at hclean
    cases literal with
    | token k => exact ((h.checkKeyword _ _).emit rfl).take hone
    | node p e ds =>
      dsimp only at hclean ⊢
      cases hkey : literalText? (.node p e ds) with
      | some key => exact (h.emit rfl).take hone
      | none =>
        rw [hkey] at hclean
        exact absurd hclean (b.syntaxErrorAt_ne _ _)

/-- A part of an expression that leaves nothing waiting takes all that its children leave. -/
theorem exit (h : InStep n taken waiting b) {p : Production} (hp : p.form?.isSome = true)
    (hwaits : p.waits = false) {e : Option Extent} {cs : List Tree}
    (hwanted : waiting.length = (Tree.node p e cs).wanted) (hcs : p = .objectEntry → cs ≠ [])
    (path : Tree.Path)
    (hclean : (b.exit path (.node p e cs)).syntaxErrors = b.syntaxErrors) :
    InStep n (taken ++ waiting) [] (b.exit path (.node p e cs)) := by
  have hnone : (Tree.node p e cs).wanted = 0 → InStep n (taken ++ waiting) [] b := by
    intro hzero
    obtain rfl := List.eq_nil_of_length_eq_zero (hwanted.trans hzero)
    rw [List.append_nil]
    exact h
  cases p
  case binary | booleanTrue | booleanFalse | null | float | map => exact (hnone rfl).emit rfl
  case int => exact (hnone rfl).emitInt _
  case leftName => exact ((hnone rfl).checkKeyword _ _).emit rfl
  case stringPart => exact (hnone rfl).emitStringPart _
  case stringExprWithPart => exact ((hnone rfl).emit rfl).emit rfl
  case member => exact (hnone rfl).endMember _
  case object => exact (hnone rfl).endObject _
  case string | stringLiteral | placeholderOption | placeholderValue => exact hnone rfl
  case array | pair | ifThenElse | apply => exact (h.take hwanted).emit rfl
  case group | unaryPlus | mapEntry => exact h.take hwanted
  case negate | unaryMinus | stringExprPart | index => exact (h.take hwanted).emit rfl
  case objectEntry => exact h.endObjectEntry hwanted hclean (hcs rfl)
  case expr | exprOperand | placeholder => cases hwaits
  all_goals cases hp

theorem beginExpr_problems {frame : Frame} {outer : List Frame} (hframes : b.frames = frame :: outer)
    (path : Tree.Path) (t : Tree) : (b.beginExpr path t).problems = b.problems := by
  rw [b.beginExpr_inside hframes path t]
  rfl

/-- An expression becomes a part of the one around it, and waits there. -/
theorem expression {l : Layout} (h : InStep n taken waiting b) {p : Production}
    (hexpr : p.isExpression = true) {e : Option Extent} {cs : List Tree}
    (ht : Derived (.node p e cs)) (hready : Ready l b (.node p e cs)) (path : Tree.Path) :
    InStep n taken (waiting ++ [b.forest.nextNode]) (walk path (.node p e cs) b) := by
  obtain ⟨place, outer, hframes⟩ := h.frames
  have hhost : b.host = n := by rw [host, hframes]
  have hself := h.self_lt
  -- nothing stands in the way of the new part
  have hfits := hready.self_fits (Tree.spot?_of_expression hexpr e cs)
  obtain ⟨he, -, hplaces⟩ := enter_expression_entered hready.orderly hexpr path hfits
    fun hnil => by rw [hframes] at hnil; cases hnil
  obtain ⟨q, parent, hsprout, -, hparent⟩ := he.sprout
  have hparent : parent = some n := by
    rw [← hhost]
    refine hparent.resolve_right fun hrefused => hrefused.2 ?_
    have hbegin : b.enter path (.node p e cs) = b.beginExpr path (.node p e cs) := by
      cases p <;> first | rfl | cases hexpr
    rw [hbegin]
    exact beginExpr_problems hframes path _
  obtain ⟨x, hx, hitems⟩ := h.items
  obtain ⟨qn, hqn, -, hsorts⟩ := Forest.exists_profile?_of_expr? hx
  have hbegun := hsprout.parts_kept n qn hparent hqn hsorts
  have hgrown := (hready.begins path).1.grown path 0
  have hdone : (walkList path 0 cs (b.enter path (.node p e cs))).forest.parts n =
      (b.enter path (.node p e cs)).forest.parts n := by
    refine hgrown.parts n (Nat.lt_of_lt_of_le hself he.le) ?_
    rw [host_of_place hplaces]
    exact Nat.ne_of_lt hself
  have hbuilds : Builds _ b (walk path (.node p e cs) b) :=
    builds_expression hexpr (walkList_restores path 0 cs ht.supplied.2) b
  obtain ⟨y, hy, -⟩ := hbuilds.built
  refine ⟨⟨place, outer, ?_⟩, ?_, ⟨x, (hbuilds.old n hself).trans hx, ?_⟩, fun id hid => ?_,
    fun id hid => ?_⟩
  · rw [hbuilds.frames, framesAround, hframes]
  · rw [walk, (exit_alike _ path _).parts, hdone, hbegun, h.parts, List.append_assoc]
  · rw [hitems]
    exact List.map_congr_left fun id hid =>
      (hbuilds.old id (h.lt (List.mem_append_left _ hid))).symm
  · rw [← List.append_assoc] at hid
    rcases List.mem_append.mp hid with hid | hid
    · exact h.later id hid
    · rw [List.mem_singleton.mp hid]
      exact hself
  · rcases List.mem_append.mp hid with hid | hid
    · obtain ⟨z, hz⟩ := h.found id hid
      exact ⟨z, (hbuilds.old id (h.lt (List.mem_append_right _ hid))).trans hz⟩
    · rw [List.mem_singleton.mp hid]
      exact ⟨y, hy⟩

theorem visitToken (h : InStep n taken waiting b) (k : Token) :
    InStep n taken waiting (b.visitToken k) :=
  h.still (b.visitToken_frames k) ((b.visitToken_quiet k).alike.parts n) (b.visitToken_expr? k)

/-- The options of a placeholder are read when it ends. -/
theorem placeholderOption (h : InStep n taken waiting b) {t : Tree}
    (ht : Phrase .placeholderOption t) (path : Tree.Path) :
    InStep n taken waiting (walk path t b) := by
  cases ht with
  | placeholderOption k hx =>
    cases hx with
    | literalValue hx =>
      cases hx with
      | literal k' => exact (h.visitToken k).visitToken k'
    | numberValue k' => exact (h.visitToken k).visitToken k'

theorem placeholderOptions (h : InStep n taken waiting b) {cs : List Tree}
    (hcs : ∀ c ∈ cs, Phrase .placeholderOption c) (path : Tree.Path) (i : Nat) :
    InStep n taken waiting (walkList path i cs b) := by
  induction cs generalizing i b with
  | nil => exact h
  | cons c cs ih =>
    obtain ⟨hc, hcs⟩ := List.forall_mem_cons.mp hcs
    exact ih (h.placeholderOption hc _) hcs (i + 1)

/-- The options of a placeholder go to the expression that waits last. -/
theorem endPlaceholder {w : NodeId} (h : InStep n taken (waiting ++ [w]) b)
    (hnew : ∀ id ∈ taken, id < w) (t : Tree) :
    InStep n taken (waiting ++ [w]) (b.endPlaceholder t) := by
  obtain ⟨path, outer, hframes⟩ := h.frames
  have htarget : b.placeholderTarget = some w := by
    rw [placeholderTarget, hframes]
    exact List.getLast?_concat
  obtain ⟨errors, problems, hend⟩ := b.endPlaceholder_eq t
  have hsame : ∀ id, id ≠ w → (b.endPlaceholder t).forest.expr? id = b.forest.expr? id := by
    intro id hid
    rw [hend, htarget]
    dsimp only
    split
    · next heq _ =>
      obtain rfl := Option.some.inj heq
      rw [giveOptions_expr?, if_neg (Ne.symm hid)]
    · rfl
  have hw : n < w := h.later w (List.mem_append_right _ (List.mem_append_right _ List.mem_cons_self))
  obtain ⟨x, hx, hitems⟩ := h.items
  refine ⟨⟨path, outer, ?_⟩, ?_, ⟨x, (hsame n (Nat.ne_of_lt hw)).trans hx, ?_⟩, h.later,
    fun id hid => ?_⟩
  · rw [hend]
    exact hframes
  · rw [(b.endPlaceholder_still t).alike.parts]
    exact h.parts
  · rw [hitems]
    exact List.map_congr_left fun id hid => (hsame id (Nat.ne_of_lt (hnew id hid))).symm
  · obtain ⟨y, hy⟩ := h.found id hid
    have hrel := (endPlaceholder_alters b t).exprs id
    rw [hy] at hrel
    generalize (b.endPlaceholder t).forest.expr? id = z at hrel
    cases hrel with
    | some _ => exact ⟨_, rfl⟩

/-- A placeholder leaves its expression waiting. -/
theorem placeholder {l : Layout} (h : InStep n taken waiting b) {e : Option Extent} {cs : List Tree}
    (ht : Derived (.node .placeholder e cs)) (hready : Ready l b (.node .placeholder e cs))
    (path : Tree.Path) :
    ∃ w, InStep n taken (waiting ++ [w]) (walk path (.node .placeholder e cs) b) := by
  have hchildren : ReadyList l b cs := (hready.begins path).1
  cases ht.phrase rfl with
  | @placeholder _ xs y hxs hy =>
    cases hy with
    | @expr e' z hz =>
      have hread := h.placeholderOptions hxs path 0
      have hlast := hread.expression rfl
        (ht.children _ (List.mem_append_right _ List.mem_cons_self))
        (hchildren.rest path 0).head (xs.length :: path)
      have hdone : walkList path 0 (xs ++ [.node .expr e' [z]]) b =
          walk (xs.length :: path) (.node .expr e' [z]) (walkList path 0 xs b) := by
        rw [walkList_append, Nat.zero_add]
        rfl
      rw [← hdone] at hlast
      exact ⟨_, hlast.endPlaceholder (fun id hid => hread.lt (List.mem_append_left _ hid)) _⟩

theorem leaves {l : Layout} (h : InStep n taken waiting b) {t : Tree} (ht : Derived t)
    (hwaits : t.waits = true) (hready : Ready l b t) (path : Tree.Path) :
    ∃ w, InStep n taken (waiting ++ [w]) (walk path t b) := by
  cases t with
  | token k => cases hwaits
  | node p e cs =>
    cases p
    case expr | exprOperand => exact ⟨_, h.expression rfl ht hready path⟩
    case placeholder => exact h.placeholder ht hready path
    all_goals cases hwaits

/-- Parts that all leave an expression waiting leave as many as they are. -/
theorem leavesAll {l : Layout} (h : InStep n taken waiting b) {cs : List Tree}
    (hcs : ∀ c ∈ cs, Derived c) (hwaits : ∀ c ∈ cs, c.waits = true) (hready : ReadyList l b cs)
    (path : Tree.Path) (i : Nat) :
    ∃ ws, InStep n taken (waiting ++ ws) (walkList path i cs b) ∧ ws.length = cs.length := by
  induction cs generalizing waiting i b with
  | nil => exact ⟨[], by rw [List.append_nil]; exact h, rfl⟩
  | cons c cs ih =>
    obtain ⟨hc, hcs⟩ := List.forall_mem_cons.mp hcs
    obtain ⟨hone, hwaits⟩ := List.forall_mem_cons.mp hwaits
    obtain ⟨w, hfirst⟩ := h.leaves hc hone hready.head (i :: path)
    obtain ⟨ws, hrest, hlength⟩ := ih hfirst hcs hwaits (hready.tail (i :: path)) (i + 1)
    refine ⟨w :: ws, ?_, congrArg (· + 1) hlength⟩
    rw [← List.append_cons] at hrest
    exact hrest

end InStep

/-! ## Walks -/

section Walks

variable {l : Layout} {n : NodeId}

mutual

/-- A part of an expression that leaves nothing waiting puts in all its nested expressions. -/
theorem walk_inStep {path : Tree.Path} {b : Builder} {taken : List NodeId} : {t : Tree} →
    Derived t → t.formed = true → t.waits = false → Ready l b t →
    (walk path t b).syntaxErrors = b.syntaxErrors → InStep n taken [] b →
      ∃ taken', InStep n taken' [] (walk path t b)
  | .token k, _, _, _, _, _, h => ⟨taken, h.visitToken k⟩
  | .node p e cs, ht, hformed, hwaits, hready, hclean, h => by
    have hexpr : p.isExpression = false := by
      cases p <;> first | rfl | cases hwaits
    obtain ⟨f, hf⟩ := Option.isSome_iff_exists.mp hformed
    obtain ⟨harranged, hwanted⟩ := (ht.phrase hf).arranged
    have hinner := walkList_errors path 0 cs (b.enter path (.node p e cs))
    have hexit := exit_grows (walkList path 0 cs (b.enter path (.node p e cs))) path (.node p e cs)
    have hbegun := enter_clean hclean
    rw [walk, ← hbegun] at hclean
    obtain ⟨taken', ws, hdone, hlength⟩ := walkList_inStep ht.children harranged
      (hready.begins path).1 (hinner.eq_left hexit hclean) (h.enter hformed hexpr path e cs)
    have hcs : p = .objectEntry → cs ≠ [] := by
      rintro rfl
      cases ht.phrase rfl <;> exact List.cons_ne_nil _ _
    exact ⟨_, hdone.exit hformed hwaits (hlength.trans hwanted) hcs path
      (hinner.eq_right hexit hclean)⟩

theorem walkList_inStep {path : Tree.Path} {i : Nat} {b : Builder} {taken : List NodeId} :
    {cs : List Tree} → (∀ c ∈ cs, Derived c) → Tree.Arranged cs → ReadyList l b cs →
    (walkList path i cs b).syntaxErrors = b.syntaxErrors → InStep n taken [] b →
      ∃ taken' ws, InStep n taken' ws (walkList path i cs b) ∧
        ws.length = (cs.filter Tree.waits).length
  | [], _, _, _, _, h => ⟨taken, [], h, rfl⟩
  | c :: cs, ht, harranged, hready, hclean, h => by
    obtain ⟨hformed, hpairwise⟩ := harranged
    obtain ⟨hafter, hpairwise⟩ := List.pairwise_cons.mp hpairwise
    obtain ⟨hone, hformed⟩ := List.forall_mem_cons.mp hformed
    cases hwaits : c.waits with
    | true =>
      -- from here on all leave an expression
      have hall : ∀ d ∈ c :: cs, d.waits = true :=
        List.forall_mem_cons.mpr ⟨hwaits, fun d hd => hafter d hd hwaits⟩
      obtain ⟨ws, hdone, hlength⟩ := h.leavesAll ht hall hready path i
      refine ⟨taken, ws, hdone, ?_⟩
      rw [hlength, List.filter_eq_self.mpr hall]
    | false =>
      obtain ⟨hc, hcs⟩ := List.forall_mem_cons.mp ht
      have hfirst := walk_errors (i :: path) c b
      have hrest := walkList_errors path (i + 1) cs (walk (i :: path) c b)
      rw [walkList] at hclean
      obtain ⟨taken', hdone⟩ := walk_inStep hc hone hwaits hready.head
        (hfirst.eq_left hrest hclean) h
      have hmore := walkList_inStep hcs ⟨hformed, hpairwise⟩ (hready.tail (i :: path))
        (hfirst.eq_right hrest hclean) hdone
      rw [walkList, List.filter_cons_of_neg (by rw [hwaits]; exact Bool.false_ne_true)]
      exact hmore

end

end Walks

end Builder
end Wdl
