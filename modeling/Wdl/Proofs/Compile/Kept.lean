import Wdl.Proofs.Builder.Commands
import Wdl.Proofs.Builder.Visits
import Wdl.Proofs.Compile.Alterations
import Wdl.Proofs.Grammar.Productions

/-!
What becomes of an expression after it has been compiled.

A placeholder gives its options to the expression that it is made of, `placeholder_own`, which was
begun when the options had been walked over.  With this the whole future of an expression is known:
`walk_alters` says that after a visit nothing happens to the expressions that it has added, except
that the one that it is itself may get options.
-/

namespace Wdl
namespace Builder

open Grammar Wdl.Expr

variable {b : Builder} {path : Tree.Path} {t : Tree} {v : Visit}

/-- The expressions that wait last are put in, in order. -/
theorem emitPending_rewrites {frame : Frame} {outer : List Frame} {ws : List NodeId} {es : List Expr}
    (hframes : b.frames = { frame with pending := frame.pending ++ ws } :: outer)
    (hes : ws.map b.forest.expr? = es.map some) (hne : ∀ w ∈ ws, w ≠ frame.node) :
    (b.emitPending ws.length).frames = frame :: outer ∧
      Rewrites frame.node (· ++ es.map Expr.toItem) { b with frames := frame :: outer }
        (b.emitPending ws.length) := by
  have hall := emitAll_rewrites (b := { b with frames := frame :: outer }) rfl ws es hne hes
  have hkept : (frame.pending ++ ws).length - ws.length = frame.pending.length := by
    rw [List.length_append, Nat.add_sub_cancel]
  have hdrop : (frame.pending ++ ws).drop frame.pending.length = ws := List.drop_left
  rw [emitPending, hframes]
  dsimp only
  rw [hkept, List.take_left, hdrop]
  exact ⟨hall.frames, hall⟩

/-! ## The builders of a walk -/

/-- The beginning of a production leaves the innermost open expression among the nodes. -/
theorem enter_seated (h : b.Seated) (path : Tree.Path) (t : Tree) :
    (b.enter path t).Seated ∧ b.forest.nextNode ≤ (b.enter path t).forest.nextNode := by
  cases t with
  | token k => exact ⟨h, Nat.le_refl _⟩
  | node p e cs =>
    cases hsection : p.sectionKind? with
    | some kind =>
      have hleaves := (Leaves.refl h).idle (enter_section_idle b hsection path e cs)
      exact ⟨hleaves.seated, hleaves.le⟩
    | none =>
      cases hexpr : p.isExpression with
      | false =>
        have hleaves := (enter_restores hsection hexpr h path e cs).leaves
        exact ⟨hleaves.seated, hleaves.le⟩
      | true =>
        have hbegin : b.enter path (.node p e cs) = b.beginExpr path (.node p e cs) := by
          cases p <;> first | rfl | cases hexpr
        have hcompiling := b.beginExpr_compiling path (.node p e cs)
        rw [hbegin]
        refine ⟨fun id hid => ?_, ?_⟩
        · rw [Leaves.focus?_of_frames hcompiling.frames] at hid
          obtain rfl := Option.some.inj hid
          exact ⟨_, hcompiling.current⟩
        · rw [beginExpr_nextNode]
          exact Nat.le_succ _

theorem walk_leaves (ht : Derived t) (path : Tree.Path) (h : b.Seated) :
    Leaves t.residue b (walk path t b) :=
  (walk_restores path t ht.supplied b h).leaves

theorem walkList_leaves {cs : List Tree} (hcs : ∀ c ∈ cs, Derived c) (path : Tree.Path) (i : Nat)
    (h : b.Seated) : Leaves (Tree.residueList cs) b (walkList path i cs b) :=
  (walkList_restores path i cs (Tree.suppliedList_iff.mpr fun c hc => (hcs c hc).supplied) b
    h).leaves

/-- What is known of the builder that a walk from `b` to `b'` comes to a production with. -/
structure Visit.Within (b b' : Builder) (v : Visit) : Prop where
  derived : Derived v.tree
  seated : v.before.Seated
  le : b.forest.nextNode ≤ v.node
  le' : v.after.forest.nextNode ≤ b'.forest.nextNode

mutual

theorem within_of_visit {path : Tree.Path} {b : Builder} : {t : Tree} → Derived t → b.Seated →
    v ∈ visits path t b → v.Within b (walk path t b)
  | .token _, _, _, hv => absurd hv List.not_mem_nil
  | .node p e cs, ht, h, hv => by
    rw [visits] at hv
    rcases List.mem_cons.mp hv with rfl | hv
    · exact ⟨ht, h, Nat.le_refl _, Nat.le_refl _⟩
    · obtain ⟨hseated, hle⟩ := enter_seated h path (.node p e cs)
      obtain ⟨hderived, hbefore, hnode, hafter⟩ := within_of_visitList ht.children hseated hv
      refine ⟨hderived, hbefore, Nat.le_trans hle hnode, Nat.le_trans hafter ?_⟩
      rw [walk, (exit_alike _ path _).nextNode]

theorem within_of_visitList {path : Tree.Path} {i : Nat} {b : Builder} : {cs : List Tree} →
    (∀ c ∈ cs, Derived c) → b.Seated → v ∈ visitsList path i cs b →
      v.Within b (walkList path i cs b)
  | [], _, _, hv => absurd hv List.not_mem_nil
  | c :: cs, ht, h, hv => by
    obtain ⟨hc, hcs⟩ := List.forall_mem_cons.mp ht
    have hfirst := walk_leaves hc (i :: path) h
    have hrest := walkList_leaves hcs path (i + 1) hfirst.seated
    rw [visitsList] at hv
    rw [walkList]
    rcases List.mem_append.mp hv with hv | hv
    · obtain ⟨hderived, hbefore, hnode, hafter⟩ := within_of_visit hc h hv
      exact ⟨hderived, hbefore, hnode, Nat.le_trans hafter hrest.le⟩
    · obtain ⟨hderived, hbefore, hnode, hafter⟩ := within_of_visitList hcs hfirst.seated hv
      exact ⟨hderived, hbefore, Nat.le_trans hfirst.le hnode, hafter⟩

end

/-! ## The expression of a placeholder -/

theorem Builds.target {is : List Item} {b b' : Builder} (h : Builds is b b') :
    b'.placeholderTarget = some b.forest.nextNode := by
  have hframes := h.frames
  unfold framesAround at hframes
  unfold placeholderTarget
  cases hb : b.frames with
  | nil =>
    rw [hb] at hframes
    rw [hframes]
    dsimp only
    rw [h.lastExpression, hb]
    rfl
  | cons frame outer =>
    rw [hb] at hframes
    rw [hframes]
    exact List.getLast?_concat

/-- The visit `v` is of a placeholder, and `w` of the expression that it is made of. -/
structure Visit.Owns (v w : Visit) : Prop where
  placeholder : v.tree.isA .placeholder = true
  own : v.parts .expr = [w]

theorem Visit.Owns.mem_parts {w : Visit} (h : v.Owns w) : w ∈ v.parts .expr :=
  h.own ▸ List.mem_singleton.mpr rfl

theorem Visit.Owns.expression {w : Visit} (h : v.Owns w) : w.tree.isA .expr = true :=
  (List.mem_filter.mp h.mem_parts).2

theorem begun_nextNode (hv : v.tree.isA .expr = true) :
    v.begun.forest.nextNode = v.node + 1 := by
  obtain ⟨path, tree, before⟩ := v
  cases tree with
  | token k => cases hv
  | node p e cs =>
    obtain rfl : p = .expr := by simpa [Tree.isA, Tree.production?] using hv
    exact before.beginExpr_nextNode path _

theorem exit_placeholder (hv : v.tree.isA .placeholder = true) (b : Builder) :
    b.exit v.path v.tree = b.endPlaceholder v.tree := by
  obtain ⟨path, tree, before⟩ := v
  cases tree with
  | token k => cases hv
  | node p e cs =>
    obtain rfl : p = .placeholder := by simpa [Tree.isA, Tree.production?] using hv
    rfl

/-- A production at whose beginning nothing happens. -/
theorem begun_eq {p : Production} (hp : ∀ b path e cs, enter b path (.node p e cs) = b)
    (hv : v.tree.isA p = true) : v.begun = v.before := by
  obtain ⟨path, tree, before⟩ := v
  cases tree with
  | token k => cases hv
  | node q e cs =>
    obtain rfl : q = p := by simpa [Tree.isA, Tree.production?] using hv
    exact hp before path e cs

theorem begun_placeholder (hv : v.tree.isA .placeholder = true) : v.begun = v.before :=
  begun_eq (fun _ _ _ _ => rfl) hv

/-- A placeholder is made of its options and of an expression, and gives the options to the node of
this expression, which has none before. -/
theorem exists_own (hv : v.tree.isA .placeholder = true) (ht : Derived v.tree)
    (h : v.before.Seated) : ∃ w, v.Owns w ∧ Derived w.tree ∧ w.before.Seated ∧
      v.done.placeholderTarget = some w.node ∧
      (∃ x, v.done.forest.expr? w.node = some x ∧ x.info.options = []) ∧
      ∃ others, visitsList v.path 0 v.tree.children v.begun =
        others ++ visits w.path w.tree w.before ∧ ∀ u ∈ others, u.after.forest.nextNode ≤ w.node := by
  obtain ⟨path, tree, b⟩ := v
  cases tree with
  | token k => cases hv
  | node p e cs =>
    obtain rfl : p = .placeholder := by simpa [Tree.isA, Tree.production?] using hv
    cases ht.phrase rfl with
    | @placeholder _ xs y hxs hy =>
      cases hy with
      | @expr e' z hz =>
        let w : Visit := ⟨xs.length :: path, .node .expr e' [z], walkList path 0 xs b⟩
        obtain ⟨hchildren, hlast⟩ := List.forall_mem_append.mp ht.children
        have hlast := List.forall_mem_singleton.mp hlast
        have hbuilds : Builds _ w.before (walk w.path w.tree w.before) :=
          builds_expression (p := .expr) rfl (walkList_restores w.path 0 [z] hlast.supplied.2) w.before
        have hdone : Visit.done ⟨path, .node .placeholder e (xs ++ [.node .expr e' [z]]), b⟩ =
            walk w.path w.tree w.before := by
          show walkList path 0 (xs ++ [.node .expr e' [z]]) b = _
          rw [walkList_append, Nat.zero_add]
          rfl
        obtain ⟨x, hx, hplaceless⟩ := hbuilds.built
        have hparts : Visit.parts ⟨path, .node .placeholder e (xs ++ [.node .expr e' [z]]), b⟩
            .expr = [w] := by
          have hnone : (rowVisits path 0 xs b).filter (·.tree.isA .expr) = [] := by
            refine List.filter_eq_nil_iff.mpr fun u hu => ?_
            have hoption := hxs u.tree (tree_mem_of_rowVisits hu)
            generalize u.tree = c at hoption ⊢
            cases hoption
            exact Bool.false_ne_true
          show (rowVisits path 0 (xs ++ [.node .expr e' [z]]) b).filter _ = [w]
          rw [rowVisits_append, List.filter_append, hnone, Nat.zero_add]
          rfl
        refine ⟨w, ⟨rfl, hparts⟩, hlast, (walkList_leaves hchildren path 0 h).seated,
          ?_, ⟨x, ?_, ?_⟩, visitsList path 0 xs b, ?_,
          fun u hu => (within_of_visitList hchildren h hu).le'⟩
        · rw [hdone]
          exact hbuilds.target
        · rw [hdone]
          exact hx
        · exact congrArg (fun x => x.info.options) hplaceless
        · show visitsList path 0 (xs ++ [.node .expr e' [z]]) b = _
          rw [visitsList_append, Nat.zero_add]
          exact congrArg (visitsList path 0 xs b ++ ·) (List.append_nil _)

/-! ## After a visit -/

mutual

/-- After a visit the expressions that it has added stay as they are, except that the one that it is
itself may get options. -/
theorem walk_alters {path : Tree.Path} {b : Builder} {id : NodeId} : {t : Tree} → Derived t →
    b.Seated → v ∈ visits path t b → id < v.after.forest.nextNode →
      Option.Rel (Altered (id < v.node) (id < v.begun.forest.nextNode))
        (v.after.forest.expr? id) ((walk path t b).forest.expr? id)
  | .token _, _, _, hv, _ => absurd hv List.not_mem_nil
  | .node p e cs, ht, h, hv, hid => by
    rw [visits] at hv
    rcases List.mem_cons.mp hv with rfl | hv
    · exact Altered.rel_refl _
    obtain ⟨hseated, -⟩ := enter_seated h path (.node p e cs)
    have hinner := walkList_alters ht.children hseated hv hid
    rw [walk]
    by_cases hstructure : p.sectionKind?.isSome ∨ p.isExpression = true
    · rw [(exit_forest hstructure _ path e cs).1]
      exact hinner
    refine Altered.rel_trans hinner ?_
    rw [not_or, Bool.not_eq_true, Option.isSome_eq_false_iff, Option.isNone_iff_eq_none,
      Bool.not_eq_true] at hstructure
    obtain ⟨hsection, hexpr⟩ := hstructure
    have hleaves := walkList_leaves ht.children path 0 hseated
    have hwithin := within_of_visitList ht.children hseated hv
    -- the expression that the production stands in was there before its children
    have hfocus : (walkList path 0 cs (b.enter path (.node p e cs))).focus? = some id →
        id < v.node := by
      intro hfocus
      rw [hleaves.focus?] at hfocus
      obtain ⟨x, hx⟩ := hseated id hfocus
      exact Nat.lt_of_lt_of_le (Forest.lt_of_expr? _ hx) hwithin.le
    by_cases hplaceholder : p = .placeholder
    · subst hplaceholder
      obtain ⟨w, howns, hderived, hbefore, htarget, -, others, hvisits, hothers⟩ :=
        exists_own (v := ⟨path, .node .placeholder e cs, b⟩) rfl ht h
      refine Altered.rel_mono ((exit_alters _ hsection hexpr (fun _ => rfl) path e cs).exprs id)
        hfocus fun hgiven => ?_
      obtain rfl : w.node = id := Option.some.inj (htarget.symm.trans hgiven)
      have hbegun := begun_nextNode howns.expression
      have hv : v ∈ others ++ visits w.path w.tree w.before := hvisits ▸ hv
      rw [visits_eq howns.expression] at hv
      rcases List.mem_append.mp hv with hv | hv
      · exact absurd hid (Nat.not_lt_of_le (hothers v hv))
      rcases List.mem_cons.mp hv with rfl | hv
      · rw [hbegun]
        exact Nat.lt_succ_self _
      · -- what stands in the expression was begun after it
        have hinside := within_of_visitList hderived.of_children
          (enter_seated hbefore w.path w.tree).1 hv
        have hle := (enter_seated hinside.seated v.path v.tree).2
        have hlt : w.begun.forest.nextNode ≤ v.node := hinside.le
        rw [hbegun] at hlt
        exact Nat.lt_of_lt_of_le hlt hle
    · have halters := exit_alters_of_ne (walkList path 0 cs (b.enter path (.node p e cs))) hsection
        hexpr hplaceholder path e cs
      exact Altered.rel_mono (halters.exprs id) hfocus (nomatch ·)

theorem walkList_alters {path : Tree.Path} {i : Nat} {b : Builder} {id : NodeId} :
    {cs : List Tree} → (∀ c ∈ cs, Derived c) → b.Seated → v ∈ visitsList path i cs b →
      id < v.after.forest.nextNode →
        Option.Rel (Altered (id < v.node) (id < v.begun.forest.nextNode))
          (v.after.forest.expr? id) ((walkList path i cs b).forest.expr? id)
  | [], _, _, hv, _ => absurd hv List.not_mem_nil
  | c :: cs, ht, h, hv, hid => by
    obtain ⟨hc, hcs⟩ := List.forall_mem_cons.mp ht
    have hfirst := walk_leaves hc (i :: path) h
    have hrest := walkList_leaves hcs path (i + 1) hfirst.seated
    rw [visitsList] at hv
    rw [walkList]
    rcases List.mem_append.mp hv with hv | hv
    · have hwithin := within_of_visit hc h hv
      refine Altered.rel_trans (walk_alters hc h hv hid) (Altered.rel_mono
        (hrest.altered (Nat.lt_of_lt_of_le hid hwithin.le')) (fun hfocus => ?_) False.elim)
      rw [hfirst.focus?] at hfocus
      obtain ⟨x, hx⟩ := h id hfocus
      exact Nat.lt_of_lt_of_le (Forest.lt_of_expr? _ hx) hwithin.le
    · exact walkList_alters hcs hfirst.seated hv hid

end

end Builder
end Wdl
