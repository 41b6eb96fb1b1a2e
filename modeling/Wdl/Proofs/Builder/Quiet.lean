import Wdl.Proofs.Builder.Sections
import Wdl.Proofs.Document.Holdings
import Wdl.Proofs.Grammar.Legible
import Wdl.Proofs.Grammar.Phrase

/-!
Steps that change no structure.

`Quiet b b'` says that the nodes of `b'` have the profiles and links that they have in `b`, that the
scopes are the same, that the same sections and expressions are open, and that no problem is lost.
This holds of all events but those that begin a section, an import, an entry of metadata or an
expression, and those that end a section or an expression.  `Still b b'` says as well that no node
holds anything else of commands, which only leaves out the events that add to the text of one.
-/

namespace Wdl

/-- What an open expression is known by. -/
def Frame.place (frame : Frame) : Tree.Path × NodeId := (frame.path, frame.node)

/-- The productions that begin an expression. -/
def Production.isExpression : Production → Bool
  | .expr | .exprOperand => true
  | _ => false

namespace Builder

structure Quiet (b b' : Builder) : Prop where
  alike : b.forest.Alike b'.forest
  scopes : b'.forest.scopes = b.forest.scopes
  document : b'.document = b.document
  scope : b'.scope = b.scope
  keywords : b'.keywords = b.keywords
  sections : b'.sections = b.sections
  frames : b'.frames.map Frame.place = b.frames.map Frame.place
  problems : b.problems <+: b'.problems

/-- A step that also leaves the source alone, and what nodes hold of commands. -/
structure Still (b b' : Builder) : Prop extends Quiet b b' where
  source : b'.source = b.source
  holding? : ∀ id, b'.forest.holding? id = b.forest.holding? id

namespace Quiet

variable {b b' b'' : Builder}

theorem refl (b : Builder) : Quiet b b :=
  ⟨.refl _, rfl, rfl, rfl, rfl, rfl, rfl, List.prefix_refl _⟩

theorem trans (h : Quiet b b') (h' : Quiet b' b'') : Quiet b b'' where
  alike := h.alike.trans h'.alike
  scopes := h'.scopes.trans h.scopes
  document := h'.document.trans h.document
  scope := h'.scope.trans h.scope
  keywords := h'.keywords.trans h.keywords
  sections := h'.sections.trans h.sections
  frames := h'.frames.trans h.frames
  problems := h.problems.trans h'.problems

theorem withReports (b : Builder) (errors : List SyntaxError) (problems : List DocumentProblem) :
    Quiet b (b.withReports errors (b.problems ++ problems)) :=
  ⟨.refl _, rfl, rfl, rfl, rfl, rfl, rfl, List.prefix_append _ _⟩

theorem withErrors (b : Builder) (errors : List SyntaxError) :
    Quiet b (b.withReports errors b.problems) :=
  ⟨.refl _, rfl, rfl, rfl, rfl, rfl, rfl, List.prefix_refl _⟩

/-- A change to one body that keeps what it was made with and its parts. -/
theorem modifyBody (b : Builder) (id : NodeId) (change : Body → Body)
    (hmade : ∀ body, (change body).made = body.made)
    (hparts : ∀ body, (change body).parts = body.parts) :
    Quiet b { b with forest := b.forest.modifyBody id change } :=
  ⟨.modifyBody _ id hmade hparts, rfl, rfl, rfl, rfl, rfl, rfl, List.prefix_refl _⟩

end Quiet

namespace Still

variable {b b' b'' : Builder}

theorem refl (b : Builder) : Still b b := ⟨.refl b, rfl, fun _ => rfl⟩

theorem trans (h : Still b b') (h' : Still b' b'') : Still b b'' :=
  ⟨h.toQuiet.trans h'.toQuiet, h'.source.trans h.source,
    fun id => (h'.holding? id).trans (h.holding? id)⟩

theorem withReports (b : Builder) (errors : List SyntaxError) (problems : List DocumentProblem) :
    Still b (b.withReports errors (b.problems ++ problems)) :=
  ⟨.withReports .., rfl, fun _ => rfl⟩

theorem withErrors (b : Builder) (errors : List SyntaxError) :
    Still b (b.withReports errors b.problems) :=
  ⟨.withErrors .., rfl, fun _ => rfl⟩

theorem modifyBody (b : Builder) (id : NodeId) (change : Body → Body)
    (hmade : ∀ body, (change body).made = body.made)
    (hparts : ∀ body, (change body).parts = body.parts)
    (hholding : ∀ body, (change body).holding = body.holding) :
    Still b { b with forest := b.forest.modifyBody id change } :=
  ⟨.modifyBody b id change hmade hparts, rfl, Forest.holding?_modifyBody hholding _ _⟩

theorem foldl {α : Type} {g : Builder → α → Builder} (h : ∀ b a, Still b (g b a)) (as : List α)
    (b : Builder) : Still b (as.foldl g b) := by
  induction as generalizing b with
  | nil => exact .refl b
  | cons a as ih => exact (h b a).trans (ih (g b a))

end Still

variable (b : Builder)

theorem syntaxErrorAt_still (t : Tree) (message : String) :
    Still b (b.syntaxErrorAt t message) :=
  .withErrors b _

theorem checkKeyword_still (t : Tree) (name : String) : Still b (b.checkKeyword t name) := by
  obtain ⟨errors, h⟩ := b.checkKeyword_eq t name
  rw [h]
  exact .withErrors b _

/-! ## Expressions -/

theorem modifyItems_still (id : NodeId) (g : List Item → List Item) :
    Still b (b.modifyItems id g) :=
  .modifyBody b id _ (fun body => by cases body <;> rfl) (fun body => by cases body <;> rfl)
    (fun body => by cases body <;> rfl)

theorem emit_still (i : Item) : Still b (b.emit i) := by
  unfold emit
  split
  · exact modifyItems_still b _ _
  · exact .refl b

theorem emitPending_still (n : Nat) : Still b (b.emitPending n) := by
  unfold emitPending
  split
  · next frame outer hframes =>
    dsimp only
    refine Still.trans ?_ (.foldl (fun b id => ?_) _ _)
    · refine ⟨⟨.refl _, rfl, rfl, rfl, rfl, rfl, ?_, List.prefix_refl _⟩, rfl, fun _ => rfl⟩
      rw [hframes]
      rfl
    · split
      · exact emit_still b _
      · exact .refl b
  · exact .refl b

theorem emitApply_still (t : Tree) (function : String) : Still b (b.emitApply t function) :=
  (emitPending_still b _).trans (emit_still _ _)

theorem emitInt_still (t : Tree) : Still b (b.emitInt t) := by
  unfold emitInt
  dsimp only
  split
  · exact (syntaxErrorAt_still b t _).trans (emit_still _ _)
  · exact emit_still b _

theorem emitName_still (t : Tree) : Still b (b.emitName t) :=
  (checkKeyword_still b t _).trans (emit_still _ _)

theorem emitStringPart_still (t : Tree) : Still b (b.emitStringPart t) := by
  unfold emitStringPart
  dsimp only
  split
  · exact emit_still b _
  · exact syntaxErrorAt_still b t _

theorem giveOptions_alike (f : Forest) (id : NodeId) (options : List (String × Value)) :
    f.Alike (giveOptions f id options) :=
  .modifyBody f id (fun body => by cases body <;> rfl) (fun body => by cases body <;> rfl)

theorem endPlaceholder_still (t : Tree) : Still b (b.endPlaceholder t) := by
  obtain ⟨errors, problems, h⟩ := b.endPlaceholder_eq t
  rw [h]
  split
  · refine ⟨⟨giveOptions_alike .., rfl, rfl, rfl, rfl, rfl, rfl, List.prefix_append _ _⟩, rfl,
      Forest.holding?_modifyBody (fun body => ?_) _ _⟩
    cases body <;> rfl
  · exact .withReports b _ _

theorem beginObject_still (t : Tree) : Still b (b.beginObject t) := by
  unfold beginObject
  dsimp only
  split
  · exact .refl b
  · exact (checkKeyword_still b t _).trans (emit_still _ _)

theorem endObjectEntry_still (t : Tree) : Still b (b.endObjectEntry t) := by
  unfold endObjectEntry
  split
  · exact ((checkKeyword_still b _ _).trans (emit_still _ _)).trans (emitPending_still _ 1)
  · split
    · exact (emit_still b _).trans (emitPending_still _ 1)
    · exact syntaxErrorAt_still b _ _
  · exact .refl b

theorem endObject_still (t : Tree) : Still b (b.endObject t) := by
  unfold endObject
  dsimp only
  split <;> exact emit_still b _

theorem endMember_still (t : Tree) : Still b (b.endMember t) := by
  have hcheck : Still b (if t.childText 1 == "left" || t.childText 1 == "right" then b
      else b.checkKeyword t (t.childText 1)) := by
    split
    · exact .refl b
    · exact checkKeyword_still b t _
  unfold endMember
  dsimp only
  generalize (if t.childText 1 == "left" || t.childText 1 == "right" then b
    else b.checkKeyword t (t.childText 1)) = b' at hcheck ⊢
  refine hcheck.trans ?_
  split
  · exact modifyItems_still _ _ _
  · exact (emit_still _ _).trans (emit_still _ _)

/-! ## Commands and versions -/

theorem addCommandPart_quiet (text : String) : Quiet b (b.addCommandPart text) := by
  unfold addCommandPart
  split
  · split
    · exact .modifyBody b _ _ (fun body => by cases body <;> rfl)
        (fun body => by cases body <;> rfl)
    · exact .refl b
  · exact .refl b

theorem visitToken_quiet (k : Token) : Quiet b (b.visitToken k) := by
  unfold visitToken
  split
  · exact addCommandPart_quiet b k.text
  · exact .refl b

theorem visitToken_still {k : Token} (hk : k.terminal.isFragment = false) :
    Still b (b.visitToken k) := by
  have hvisit : b.visitToken k = b := if_neg (Bool.eq_false_iff.mp hk)
  rw [hvisit]
  exact .refl b

theorem setVersion_still (t : Tree) : Still b (b.setVersion t) := by
  obtain ⟨errors, h⟩ := b.setVersion_eq t
  rw [h]
  exact (Still.modifyBody b b.document _ (fun body => by cases body <;> rfl)
    (fun body => by cases body <;> rfl) (fun body => by cases body <;> rfl)).trans
      (.withErrors _ _)

/-! ## Events -/

theorem enter_still {p : Production} (hsection : p.sectionKind? = none) (hleaf : p.isLeaf = false)
    (hexpr : p.isExpression = false) (path : Tree.Path) (e : Option Extent) (cs : List Tree) :
    Still b (b.enter path (.node p e cs)) := by
  cases p
  case expr | exprOperand => exact nomatch hexpr
  case importDoc | metaEntry => exact nomatch hleaf
  case struct | workflow | task | inputBlock | outputBlock | metaSection | parameterMetaSection |
      runtimeSection | command | call | decl | runtimeEntry | callInput | scatter | conditional =>
    exact nomatch hsection
  case document =>
    exact ⟨⟨.refl _, rfl, rfl, rfl, rfl, rfl, rfl, List.prefix_refl _⟩, rfl, fun _ => rfl⟩
  case version => exact setVersion_still b _
  case object => exact beginObject_still b _
  all_goals exact Still.refl b

theorem enter_quiet {p : Production} (hsection : p.sectionKind? = none) (hleaf : p.isLeaf = false)
    (hexpr : p.isExpression = false) (path : Tree.Path) (e : Option Extent) (cs : List Tree) :
    Quiet b (b.enter path (.node p e cs)) :=
  (enter_still b hsection hleaf hexpr path e cs).toQuiet

theorem exit_still {p : Production} (hsection : p.sectionKind? = none)
    (hexpr : p.isExpression = false) (hpart : p ≠ .commandPlaceholder) (path : Tree.Path)
    (e : Option Extent) (cs : List Tree) : Still b (b.exit path (.node p e cs)) := by
  cases p
  case expr | exprOperand => exact nomatch hexpr
  case struct | workflow | task | inputBlock | outputBlock | metaSection | parameterMetaSection |
      runtimeSection | command | call | decl | runtimeEntry | callInput | scatter | conditional =>
    exact nomatch hsection
  case commandPlaceholder => exact absurd rfl hpart
  case binary | booleanTrue | booleanFalse | null | float | map => exact emit_still b _
  case array | pair | ifThenElse | apply => exact emitApply_still b _ _
  case int => exact emitInt_still b _
  case leftName => exact emitName_still b _
  case group | unaryPlus | mapEntry => exact emitPending_still b 1
  case negate | unaryMinus | stringExprPart | index =>
    exact (emitPending_still b 1).trans (emit_still _ _)
  case stringExprWithPart => exact (emit_still b _).trans (emit_still _ _)
  case stringPart => exact emitStringPart_still b _
  case placeholder => exact endPlaceholder_still b _
  case objectEntry => exact endObjectEntry_still b _
  case object => exact endObject_still b _
  case member => exact endMember_still b _
  all_goals exact Still.refl b

theorem exit_quiet {p : Production} (hsection : p.sectionKind? = none)
    (hexpr : p.isExpression = false) (path : Tree.Path) (e : Option Extent) (cs : List Tree) :
    Quiet b (b.exit path (.node p e cs)) := by
  by_cases hpart : p = .commandPlaceholder
  · subst hpart
    exact addCommandPart_quiet b _
  · exact (exit_still b hsection hexpr hpart path e cs).toQuiet

theorem exit_leaf {p : Production} (hp : p.isLeaf = true) (path : Tree.Path)
    (e : Option Extent) (cs : List Tree) : b.exit path (.node p e cs) = b := by
  cases p <;> simp only [Production.isLeaf, Bool.false_eq_true] at hp <;> rfl

end Builder
end Wdl
