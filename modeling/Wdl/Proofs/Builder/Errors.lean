import Wdl.Proofs.Builder.Steps

/-!
Syntax errors of a walk.

No event takes a syntax error back: `walk_errors` says that those of a builder stay at the front of
the list.  So a walk that ends with the errors that it began with has recorded none in between,
which is how an assumption about a whole tree reaches its parts.
-/

namespace Wdl
namespace Builder

variable (b : Builder)

/-! ## Steps that record no error -/

@[simp] theorem report_errors (p : Problem) (id : NodeId) :
    (b.report p id).syntaxErrors = b.syntaxErrors := rfl

@[simp] theorem reportAt_errors (p : Problem) (position : Option Position) :
    (b.reportAt p position).syntaxErrors = b.syntaxErrors := rfl

@[simp] theorem addNode_errors (t : Tree) (body : Body) :
    (b.addNode t body).syntaxErrors = b.syntaxErrors := rfl

@[simp] theorem addScoped_errors (t : Tree) (body : ScopeId → Body) :
    (b.addScoped t body).syntaxErrors = b.syntaxErrors := rfl

@[simp] theorem openSection_errors (path : Tree.Path) (id : NodeId) (name : Option String)
    (scope : Option ScopeId) :
    (b.openSection path id name scope).syntaxErrors = b.syntaxErrors := by
  unfold openSection
  dsimp only
  split <;> rfl

@[simp] theorem closeSection_errors (path : Tree.Path) (t : Tree) (kind : Kind) :
    (b.closeSection path t kind).syntaxErrors = b.syntaxErrors := by
  unfold closeSection
  dsimp only
  split
  · rfl
  · split <;> rfl

@[simp] theorem beginExpr_errors (path : Tree.Path) (t : Tree) :
    (b.beginExpr path t).syntaxErrors = b.syntaxErrors := by
  unfold beginExpr
  dsimp only
  split
  · rfl
  · split
    · rfl
    · split <;> rfl

@[simp] theorem endExpr_errors (path : Tree.Path) (t : Tree) :
    (b.endExpr path t).syntaxErrors = b.syntaxErrors := by
  unfold endExpr
  split
  · rfl
  · split <;> rfl

@[simp] theorem modifyItems_errors (id : NodeId) (g : List Item → List Item) :
    (b.modifyItems id g).syntaxErrors = b.syntaxErrors := rfl

@[simp] theorem emit_errors (item : Item) : (b.emit item).syntaxErrors = b.syntaxErrors := by
  unfold emit
  split <;> rfl

theorem foldl_errors {α : Type} {step : Builder → α → Builder}
    (h : ∀ b a, (step b a).syntaxErrors = b.syntaxErrors) (as : List α) :
    (as.foldl step b).syntaxErrors = b.syntaxErrors := by
  induction as generalizing b with
  | nil => rfl
  | cons a as ih => exact (ih _).trans (h b a)

@[simp] theorem emitPending_errors (n : Nat) :
    (b.emitPending n).syntaxErrors = b.syntaxErrors := by
  unfold emitPending
  split
  · refine foldl_errors _ (fun b id => ?_) _
    split <;> simp
  · rfl

@[simp] theorem emitApply_errors (t : Tree) (function : String) :
    (b.emitApply t function).syntaxErrors = b.syntaxErrors := by
  simp [emitApply]

@[simp] theorem addCommandPart_errors (text : String) :
    (b.addCommandPart text).syntaxErrors = b.syntaxErrors := by
  unfold addCommandPart
  split
  · split <;> rfl
  · rfl

@[simp] theorem visitToken_errors (k : Token) :
    (b.visitToken k).syntaxErrors = b.syntaxErrors := by
  unfold visitToken
  split <;> simp

@[simp] theorem endObject_errors (t : Tree) :
    (b.endObject t).syntaxErrors = b.syntaxErrors := by
  unfold endObject
  dsimp only
  split <;> simp

/-! ## Steps that may record errors -/

/-- The syntax errors of the first builder are kept by the second. -/
def Grows (b b' : Builder) : Prop :=
  b.syntaxErrors <+: b'.syntaxErrors

namespace Grows

variable {b b' b'' : Builder}

theorem refl (b : Builder) : Grows b b := List.prefix_refl _

theorem trans (h : Grows b b') (h' : Grows b' b'') : Grows b b'' := List.IsPrefix.trans h h'

theorem of_eq (h : b'.syntaxErrors = b.syntaxErrors) : Grows b b' :=
  show b.syntaxErrors <+: b'.syntaxErrors from h ▸ List.prefix_refl b'.syntaxErrors

/-- Between builders with the same errors there is only one with the same errors. -/
theorem eq_left (h : Grows b b') (h' : Grows b' b'') (heq : b''.syntaxErrors = b.syntaxErrors) :
    b'.syntaxErrors = b.syntaxErrors := by
  rw [Grows, heq] at h'
  exact (List.IsPrefix.eq_of_length_le h (List.IsPrefix.length_le h')).symm

theorem eq_right (h : Grows b b') (h' : Grows b' b'') (heq : b''.syntaxErrors = b.syntaxErrors) :
    b''.syntaxErrors = b'.syntaxErrors :=
  heq.trans (h.eq_left h' heq).symm

end Grows

theorem syntaxErrorAt_ne (t : Tree) (message : String) :
    (b.syntaxErrorAt t message).syntaxErrors ≠ b.syntaxErrors := by
  simp [syntaxErrorAt, syntaxError]

theorem syntaxErrorAt_grows (t : Tree) (message : String) :
    b.Grows (b.syntaxErrorAt t message) :=
  List.prefix_append _ _

theorem checkKeyword_grows (t : Tree) (name : String) : b.Grows (b.checkKeyword t name) := by
  unfold checkKeyword
  split
  · exact b.syntaxErrorAt_grows t _
  · exact .refl b

/-- A step that keeps the errors and then checks a keyword. -/
theorem Grows.checkKeyword {b b' : Builder} (h : b'.syntaxErrors = b.syntaxErrors) (t : Tree)
    (name : String) : b.Grows (b'.checkKeyword t name) :=
  (of_eq h).trans (b'.checkKeyword_grows t name)

theorem setVersion_grows (t : Tree) : b.Grows (b.setVersion t) := by
  unfold setVersion
  dsimp only
  split
  · exact .refl b
  · exact List.prefix_append _ _

theorem attachLeaf_errors (id : NodeId) (binding : Option (ScopeId × String)) :
    (b.attachLeaf id binding).syntaxErrors = b.syntaxErrors := by
  unfold attachLeaf
  split <;> rfl

theorem addImport_grows (t : Tree) : b.Grows (b.addImport t) := by
  rcases b.addImport_eq t with ⟨-, h⟩ | ⟨error, h⟩ | ⟨errors, problems, body, h⟩
  · rw [h]
    exact .refl b
  · rw [h]
    exact List.prefix_append _ _
  · rw [h, Grows, attachLeaf_errors]
    exact List.prefix_append _ _

theorem openCall_grows (path : Tree.Path) (t : Tree) : b.Grows (b.openCall path t) := by
  unfold openCall
  dsimp only
  split
  · exact .of_eq (by simp)
  · exact .checkKeyword (by simp) t _

theorem openScatter_grows (path : Tree.Path) (t : Tree) : b.Grows (b.openScatter path t) := by
  unfold openScatter
  dsimp only
  generalize hb : (Builder.checkKeyword _ t (t.childText 0) : Builder) = b₁
  have hname : b.Grows b₁ := by
    rw [← hb]
    exact .checkKeyword (by simp) t _
  refine hname.trans (.of_eq ?_)
  split
  · split
    · split <;> rfl
    · rfl
  · rfl

theorem openDeclaration_grows (path : Tree.Path) (t : Tree) :
    b.Grows (b.openDeclaration path t) := by
  unfold openDeclaration
  dsimp only
  split
  · exact .checkKeyword (by simp) _ _
  · exact .of_eq (by simp)

theorem addMetaEntry_errors (t : Tree) : (b.addMetaEntry t).syntaxErrors = b.syntaxErrors := by
  obtain ⟨key, value, h⟩ := b.addMetaEntry_eq t
  rw [h, attachLeaf_errors]
  rfl

theorem beginObject_grows (t : Tree) : b.Grows (b.beginObject t) := by
  unfold beginObject
  dsimp only
  split
  · exact .refl b
  · exact (b.checkKeyword_grows t _).trans (.of_eq (emit_errors _ _))

theorem emitInt_grows (t : Tree) : b.Grows (b.emitInt t) := by
  unfold emitInt
  dsimp only
  split
  · exact (b.syntaxErrorAt_grows t _).trans (.of_eq (emit_errors _ _))
  · exact .of_eq (emit_errors _ _)

theorem emitStringPart_grows (t : Tree) : b.Grows (b.emitStringPart t) := by
  unfold emitStringPart
  dsimp only
  split
  · exact .of_eq (emit_errors _ _)
  · exact b.syntaxErrorAt_grows t _

theorem endObjectEntry_grows (t : Tree) : b.Grows (b.endObjectEntry t) := by
  unfold endObjectEntry
  split
  · next k _ _ =>
    exact (b.checkKeyword_grows (.token k) k.text).trans (.of_eq (by simp))
  · split
    · exact .of_eq (by simp)
    · exact b.syntaxErrorAt_grows _ _
  · exact .refl b

theorem endMember_grows (t : Tree) : b.Grows (b.endMember t) := by
  unfold endMember
  dsimp only
  generalize (t.childText 1 == "left" || t.childText 1 == "right") = plain
  cases plain with
  | true =>
    refine .of_eq ?_
    simp only [if_true]
    split <;> simp
  | false =>
    refine (b.checkKeyword_grows t (t.childText 1)).trans (.of_eq ?_)
    simp only [Bool.false_eq_true, if_false]
    split <;> simp

theorem readOptions_grows (ts : List Tree) (o : OptionList) :
    b.Grows (b.readOptions ts o).1 := by
  induction ts generalizing b o with
  | nil => exact .refl b
  | cons t ts ih =>
    unfold readOptions
    dsimp only
    split
    · exact (b.syntaxErrorAt_grows t _).trans (ih _ o)
    · split
      · exact ih b _
      · split
        · split
          · exact ih b _
          · cases (Tree.children _).head? with
            | none => exact .refl b
            | some c => exact b.syntaxErrorAt_grows c _
        · exact ih b o

/-- The errors at the end of a placeholder are those of reading its options. -/
theorem endPlaceholder_errors (t : Tree) : (b.endPlaceholder t).syntaxErrors =
    (b.readOptions (t.childrenOf .placeholderOption) {}).1.syntaxErrors := by
  unfold endPlaceholder
  dsimp only
  split
  · next heq => rw [heq]
  · next heq =>
    rw [heq, foldl_errors _ fun _ _ => reportAt_errors _ _ _]
    split <;> rfl

theorem endPlaceholder_grows (t : Tree) : b.Grows (b.endPlaceholder t) := by
  rw [Grows, endPlaceholder_errors]
  exact b.readOptions_grows _ _

/-! ## Walks -/

theorem enter_grows (path : Tree.Path) (t : Tree) : b.Grows (b.enter path t) := by
  unfold enter
  split
  · exact .refl b
  · exact b.setVersion_grows t
  · exact b.addImport_grows t
  · exact .checkKeyword (by simp) t _
  · exact .checkKeyword (by simp) t _
  · exact .checkKeyword (by simp) t _
  all_goals first
    | exact .of_eq (openSection_errors _ _ _ _ _)
    | exact .of_eq (b.addMetaEntry_errors t)
    | exact .of_eq (b.beginExpr_errors path t)
    | exact b.openCall_grows path t
    | exact b.openScatter_grows path t
    | exact b.openDeclaration_grows path t
    | exact b.beginObject_grows t
    | exact .refl b

theorem exit_grows (path : Tree.Path) (t : Tree) : b.Grows (b.exit path t) := by
  unfold exit
  split
  all_goals first
    | exact .of_eq (by simp)
    | exact b.emitInt_grows t
    | exact (b.checkKeyword_grows t _).trans (.of_eq (emit_errors _ _))
    | exact b.emitStringPart_grows t
    | exact b.endPlaceholder_grows t
    | exact b.endObjectEntry_grows t
    | exact b.endMember_grows t
    | skip
  split
  · exact .of_eq (closeSection_errors _ _ _ _)
  · exact .refl b

mutual

/-- A walk keeps the syntax errors that there are. -/
theorem walk_errors (path : Tree.Path) : (t : Tree) → (b : Builder) → b.Grows (walk path t b)
  | .token k, b => .of_eq (b.visitToken_errors k)
  | .node _ _ cs, b =>
    (b.enter_grows path _).trans ((walkList_errors path 0 cs _).trans (exit_grows _ path _))

theorem walkList_errors (path : Tree.Path) (i : Nat) :
    (ts : List Tree) → (b : Builder) → b.Grows (walkList path i ts b)
  | [], b => .refl b
  | t :: ts, b => (walk_errors (i :: path) t b).trans (walkList_errors path (i + 1) ts _)

end

end Builder
end Wdl
