import Wdl.Proofs.Compile.Restores

/-!
How an expression can change while a tree is walked over.

An expression gets more items while it is the innermost open one, and options when the placeholder
ends that it belongs to; that is all that ever happens to it.  `Expr.Altered` says so of an
expression before and after, and `exit_alters` of the end of every production that is not itself an
expression or a section.

An item that has been put in stays where it is, except that a name at the end of the items can
become longer, so `Item.Extends` speaks of beginnings that do not end with a name.
-/

namespace Wdl

open Builder

/-- The items `js` begin as `is` do, except that a name at the end of `is` can be longer. -/
def Item.Extends (is js : List Item) : Prop :=
  ∀ front, (∀ n, front.getLast? ≠ some (.name n)) → front <+: is → front <+: js

theorem Item.Extends.append (is js : List Item) : Item.Extends is (is ++ js) :=
  fun _ _ hfront => hfront.trans (List.prefix_append is js)

/-- A name at the end gives way to another item. -/
theorem Item.Extends.replaceName {is : List Item} {n : String} (h : is.getLast? = some (.name n))
    (i : Item) : Item.Extends is (is.dropLast ++ [i]) := by
  obtain ⟨others, rfl⟩ := List.getLast?_eq_some_iff.mp h
  intro front hname hfront
  rw [List.dropLast_concat]
  rcases List.prefix_concat_iff.mp hfront with rfl | hfront
  · exact absurd h (hname n)
  · exact hfront.trans (List.prefix_append others [i])

/-- What happens to an expression: its items become more if it is open, and its options are set if
they are given to it. -/
structure Expr.Altered (opened given : Prop) (e e' : Expr) : Prop where
  info : ¬given → e'.info = e.info
  items : ¬opened → e'.items = e.items
  grows : Item.Extends e.items e'.items

namespace Expr.Altered

variable {opened given opened' given' : Prop}

theorem refl (e : Expr) : Altered opened given e e :=
  ⟨fun _ => rfl, fun _ => rfl, fun _ _ h => h⟩

theorem trans {e e' e'' : Expr} (h : Altered opened given e e')
    (h' : Altered opened given e' e'') : Altered opened given e e'' where
  info hgiven := (h'.info hgiven).trans (h.info hgiven)
  items hopened := (h'.items hopened).trans (h.items hopened)
  grows front hname hfront := h'.grows front hname (h.grows front hname hfront)

theorem mono {e e' : Expr} (h : Altered opened given e e') (hopened : opened → opened')
    (hgiven : given → given') : Altered opened' given' e e' where
  info hnot := h.info fun hg => hnot (hgiven hg)
  items hnot := h.items fun ho => hnot (hopened ho)
  grows := h.grows

/-- An expression that is not open and gets no options is as it was. -/
theorem eq {e e' : Expr} (h : Altered opened given e e') (hopened : ¬opened) (hgiven : ¬given) :
    e' = e := by
  obtain ⟨info, items⟩ := e
  obtain ⟨info', items'⟩ := e'
  obtain rfl := h.info hgiven
  obtain rfl := h.items hopened
  rfl

theorem rel_refl (x : Option Expr) : Option.Rel (Altered opened given) x x := by
  cases x with
  | none => exact .none
  | some e => exact .some (refl e)

theorem rel_of_eq {x y : Option Expr} (h : y = x) : Option.Rel (Altered opened given) x y := by
  rw [h]
  exact rel_refl x

theorem rel_trans {x y z : Option Expr} (h : Option.Rel (Altered opened given) x y)
    (h' : Option.Rel (Altered opened given) y z) : Option.Rel (Altered opened given) x z := by
  cases h with
  | none => exact h'
  | some h =>
    cases h' with
    | some h' => exact .some (h.trans h')

theorem rel_mono {x y : Option Expr} (h : Option.Rel (Altered opened given) x y)
    (hopened : opened → opened') (hgiven : given → given') :
    Option.Rel (Altered opened' given') x y := by
  cases h with
  | none => exact .none
  | some h => exact .some (h.mono hopened hgiven)

theorem rel_eq {x y : Option Expr} (h : Option.Rel (Altered opened given) x y)
    (hopened : ¬opened) (hgiven : ¬given) : y = x := by
  cases h with
  | none => rfl
  | some h => rw [h.eq hopened hgiven]

end Expr.Altered

namespace Builder

open Wdl.Expr

/-- Only the innermost open expression gets items, and only `target` gets options. -/
structure Alters (target : Option NodeId) (b b' : Builder) : Prop where
  focus : b'.focus? = b.focus?
  exprs : ∀ id, Option.Rel (Altered (b.focus? = some id) (target = some id))
    (b.forest.expr? id) (b'.forest.expr? id)

variable {target : Option NodeId} {b b' b'' : Builder}

namespace Alters

theorem of_expr? (hframes : b'.frames = b.frames)
    (hexpr : ∀ id, b'.forest.expr? id = b.forest.expr? id) : Alters target b b' where
  focus := by rw [Builder.focus?, Builder.focus?, hframes]
  exprs id := Altered.rel_of_eq (hexpr id)

theorem refl (b : Builder) : Alters target b b :=
  .of_expr? rfl fun _ => rfl

theorem trans (h : Alters target b b') (h' : Alters target b' b'') : Alters target b b'' where
  focus := h'.focus.trans h.focus
  exprs id := by
    have hnext := h'.exprs id
    rw [h.focus] at hnext
    exact Altered.rel_trans (h.exprs id) hnext

theorem foldl {α : Type} {f : Builder → α → Builder} (h : ∀ b x, Alters target b (f b x))
    (xs : List α) (b : Builder) : Alters target b (xs.foldl f b) := by
  induction xs generalizing b with
  | nil => exact .refl b
  | cons x xs ih => exact (h b x).trans (ih _)

end Alters

theorem Rewrites.alters {frame : Frame} {outer : List Frame} {g : List Item → List Item}
    (h : Rewrites frame.node g b b') (hframes : b.frames = frame :: outer)
    (hg : ∀ e, b.forest.expr? frame.node = some e → Item.Extends e.items (g e.items)) :
    Alters target b b' where
  focus := by rw [Builder.focus?, Builder.focus?, h.frames]
  exprs id := by
    by_cases hid : id = frame.node
    · subst hid
      rw [h.self]
      cases he : b.forest.expr? frame.node with
      | none => exact .none
      | some e =>
        exact .some ⟨fun _ => rfl, fun hnot => absurd (Leaves.focus?_of_frames hframes) hnot,
          hg e he⟩
    · exact Altered.rel_of_eq (h.other id hid)

/-! ## Steps -/

variable (b)

theorem withReports_alters (errors : List SyntaxError) (problems : List DocumentProblem) :
    Alters target b (b.withReports errors problems) :=
  .of_expr? rfl fun _ => rfl

theorem checkKeyword_alters (t : Tree) (name : String) :
    Alters target b (b.checkKeyword t name) := by
  obtain ⟨errors, h⟩ := b.checkKeyword_eq t name
  rw [h]
  exact withReports_alters b _ _

theorem emit_alters (i : Item) : Alters target b (b.emit i) := by
  cases hframes : b.frames with
  | nil =>
    rw [emit_of_nil hframes]
    exact .refl b
  | cons frame outer =>
    exact (emit_rewrites hframes i).alters hframes fun e _ => .append e.items [i]

theorem emitPending_alters (n : Nat) : Alters target b (b.emitPending n) := by
  unfold emitPending
  split
  · next frame outer hframes =>
    dsimp only
    refine Alters.trans ?_ (.foldl (fun b id => ?_) _ _)
    · refine ⟨?_, fun id => Altered.rel_refl _⟩
      rw [focus?, focus?, hframes]
      rfl
    · split
      · exact emit_alters b _
      · exact .refl b
  · exact .refl b

theorem emitInt_alters (t : Tree) : Alters target b (b.emitInt t) := by
  unfold emitInt
  dsimp only
  split
  · exact (withReports_alters b _ _).trans (emit_alters _ _)
  · exact emit_alters b _

theorem emitStringPart_alters (t : Tree) : Alters target b (b.emitStringPart t) := by
  unfold emitStringPart
  dsimp only
  split
  · exact emit_alters b _
  · exact withReports_alters b _ _

theorem endObjectEntry_alters (t : Tree) : Alters target b (b.endObjectEntry t) := by
  unfold endObjectEntry
  split
  · exact ((checkKeyword_alters b _ _).trans (emit_alters _ _)).trans (emitPending_alters _ 1)
  · split
    · exact (emit_alters b _).trans (emitPending_alters _ 1)
    · exact withReports_alters b _ _
  · exact .refl b

theorem endObject_alters (t : Tree) : Alters target b (b.endObject t) := by
  unfold endObject
  dsimp only
  split <;> exact emit_alters b _

/-- A member of a name makes the name longer; it is the last item. -/
theorem endMember_alters (t : Tree) : Alters target b (b.endMember t) := by
  have hcheck : Alters target b (if t.childText 1 == "left" || t.childText 1 == "right" then b
      else b.checkKeyword t (t.childText 1)) := by
    split
    · exact .refl b
    · exact checkKeyword_alters b t _
  unfold endMember
  dsimp only
  generalize (if t.childText 1 == "left" || t.childText 1 == "right" then b
    else b.checkKeyword t (t.childText 1)) = b' at hcheck ⊢
  refine hcheck.trans ?_
  split
  · next frame outer n hframes _ hlast =>
    refine (modifyItems_rewrites b' frame.node _).alters hframes fun e he => ?_
    rw [lastItem?, hframes] at hlast
    dsimp only at hlast
    rw [he, Option.bind_some] at hlast
    exact .replaceName hlast _
  · exact (emit_alters _ _).trans (emit_alters _ _)

theorem endPlaceholder_alters (t : Tree) : Alters b.placeholderTarget b (b.endPlaceholder t) := by
  obtain ⟨errors, problems, h⟩ := b.endPlaceholder_eq t
  rw [h]
  split
  · next id o htarget _ =>
    refine ⟨rfl, fun i => ?_⟩
    rw [htarget, giveOptions_expr?]
    split
    · next hid =>
      cases b.forest.expr? i with
      | none => exact .none
      | some e =>
        exact .some ⟨fun hnot => absurd (congrArg some hid) hnot, fun _ => rfl, fun _ _ h => h⟩
    · exact Altered.rel_refl _
  · exact withReports_alters b _ _

/-- The end of a production alters the expression that it stands in, and that of a placeholder the
expression that it gives its options to. -/
theorem exit_alters {p : Production} (hsection : p.sectionKind? = none)
    (hexpr : p.isExpression = false) (htarget : p = .placeholder → target = b.placeholderTarget)
    (path : Tree.Path) (e : Option Extent) (cs : List Tree) :
    Alters target b (b.exit path (.node p e cs)) := by
  cases p
  case expr | exprOperand => exact nomatch hexpr
  case struct | workflow | task | inputBlock | outputBlock | metaSection | parameterMetaSection |
      runtimeSection | command | call | decl | runtimeEntry | callInput | scatter | conditional =>
    exact nomatch hsection
  case binary | booleanTrue | booleanFalse | null | float | map => exact emit_alters b _
  case array | pair | ifThenElse | apply => exact (emitPending_alters b _).trans (emit_alters _ _)
  case int => exact emitInt_alters b _
  case leftName => exact (checkKeyword_alters b _ _).trans (emit_alters _ _)
  case group | unaryPlus | mapEntry => exact emitPending_alters b 1
  case negate | unaryMinus | stringExprPart | index =>
    exact (emitPending_alters b 1).trans (emit_alters _ _)
  case stringExprWithPart => exact (emit_alters b _).trans (emit_alters _ _)
  case stringPart => exact emitStringPart_alters b _
  case placeholder =>
    rw [htarget rfl]
    exact endPlaceholder_alters b _
  case objectEntry => exact endObjectEntry_alters b _
  case object => exact endObject_alters b _
  case member => exact endMember_alters b _
  case commandPlaceholder =>
    exact .of_expr? (b.addCommandPart_frames _) (b.addCommandPart_expr? _)
  all_goals exact .refl b

theorem exit_alters_of_ne {p : Production} (hsection : p.sectionKind? = none)
    (hexpr : p.isExpression = false) (hne : p ≠ .placeholder) (path : Tree.Path)
    (e : Option Extent) (cs : List Tree) : Alters none b (b.exit path (.node p e cs)) :=
  exit_alters b hsection hexpr (absurd · hne) path e cs

/-- A walk alters only the innermost expression that is open around it, of those that were there,
and gives options to none of them. -/
theorem Leaves.altered {r : Residue} {b b' : Builder} (h : Leaves r b b') {id : NodeId}
    (hid : id < b.forest.nextNode) : Option.Rel (Altered (b.focus? = some id) False)
      (b.forest.expr? id) (b'.forest.expr? id) := by
  by_cases hfocus : b.focus? = some id
  · cases h.contributes with
    | outside frames =>
      rw [Builder.focus?, frames] at hfocus
      cases hfocus
    | inside js ids frames frames' last current current' =>
      obtain rfl := Option.some.inj ((focus?_of_frames frames).symm.trans hfocus)
      rw [current, current']
      exact .some ⟨fun _ => rfl, fun hnot => absurd hfocus hnot, .append _ js⟩
  · exact Altered.rel_of_eq (h.old id hid hfocus)

end Builder
end Wdl
