import Wdl.Proofs.Builder.EventOrder

/-!
Problems other than mismatches.

The end of a section or of an expression that is not the innermost one is recorded as a mismatch.
No other step records one: what a scope or a node objects to is never a mismatch, and neither is an
option or an alias that is given again.
-/

namespace Wdl

/-- Whether a problem is about the end of a section or of an expression. -/
def Problem.isMismatch : Problem → Bool
  | .mismatchContext _ _ => true
  | _ => false

namespace Forest

variable {f : Forest} {parent child : NodeId} {p : Problem}

theorem define_error {s : ScopeId} {name : String} (h : f.define s name child = .error p) :
    p.isMismatch = false := by
  unfold define at h
  dsimp only at h
  split at h
  · obtain rfl := Except.error.inj h
    rfl
  · split at h
    · obtain rfl := Except.error.inj h
      rfl
    · exact nomatch h

theorem tidy_of_guard {c : Prop} [Decidable c] {q : Problem} (hq : q.isMismatch = false)
    (h : (if c then some q else none) = some p) : p.isMismatch = false := by
  split at h
  · rw [← Option.some.inj h]
    exact hq
  · exact nomatch h

theorem executableObjection?_tidy {what : String} {x : Executable} {body : Body}
    (h : executableObjection? what x body = some p) : p.isMismatch = false := by
  unfold executableObjection? at h
  split at h
  · exact tidy_of_guard rfl h
  · exact nomatch h

theorem objection?_tidy {body item : Body} (h : f.objection? body item = some p) :
    p.isMismatch = false := by
  unfold objection? at h
  split at h
  · rw [← Option.some.inj h]
    rfl
  · split at h
    · obtain ⟨w, -, rfl⟩ := Option.map_eq_some_iff.mp h
      rfl
    · rw [← Option.some.inj h]
      rfl
    all_goals first
      | exact tidy_of_guard rfl h
      | exact executableObjection?_tidy h
      | exact nomatch h

theorem attach_error {binding : Option (ScopeId × String)}
    (h : f.attach parent child binding = .error p) : p.isMismatch = false := by
  unfold attach at h
  split at h
  · split at h
    · obtain rfl := Except.error.inj h
      rfl
    · split at h
      · exact nomatch h
      · split at h
        · next hobjection =>
          obtain rfl := Except.error.inj h
          exact objection?_tidy hobjection
        · cases binding with
          | none => exact nomatch h
          | some b =>
            obtain ⟨s, name⟩ := b
            cases hdefine : f.define s name child with
            | error e =>
              simp only [hdefine] at h
              obtain rfl := Except.error.inj h
              exact define_error hdefine
            | ok g =>
              simp only [hdefine] at h
              exact nomatch h
  · exact nomatch h

end Forest

namespace Builder

/-- All problems stay, and those that are new are not mismatches. -/
def Tidy (b b' : Builder) : Prop :=
  ∃ problems, b'.problems = b.problems ++ problems ∧
    ∀ p ∈ problems, p.problem.isMismatch = false

namespace Tidy

variable {b b' b'' : Builder}

theorem of_eq (h : b'.problems = b.problems) : Tidy b b' :=
  ⟨[], by rw [h, List.append_nil], List.forall_mem_nil _⟩

theorem refl (b : Builder) : Tidy b b := of_eq rfl

theorem trans (h : Tidy b b') (h' : Tidy b' b'') : Tidy b b'' := by
  obtain ⟨ps, hps, hall⟩ := h
  obtain ⟨qs, hqs, hall'⟩ := h'
  exact ⟨ps ++ qs, by rw [hqs, hps, List.append_assoc], List.forall_mem_append.mpr ⟨hall, hall'⟩⟩

theorem report (b : Builder) {p : Problem} (hp : p.isMismatch = false) (id : NodeId) :
    Tidy b (b.report p id) :=
  ⟨[_], rfl, List.forall_mem_singleton.mpr hp⟩

theorem reportAt (b : Builder) {p : Problem} (hp : p.isMismatch = false)
    (position : Option Position) : Tidy b (b.reportAt p position) :=
  ⟨[_], rfl, List.forall_mem_singleton.mpr hp⟩

theorem foldl {α : Type} {g : Builder → α → Builder} (h : ∀ b a, Tidy b (g b a)) (as : List α)
    (b : Builder) : Tidy b (as.foldl g b) := by
  induction as generalizing b with
  | nil => exact .refl b
  | cons a as ih => exact (h b a).trans (ih (g b a))

end Tidy

variable (b : Builder)

/-! ## Nodes and sections -/

theorem attachLeaf_tidy (id : NodeId) (binding : Option (ScopeId × String)) :
    Tidy b (b.attachLeaf id binding) := by
  unfold attachLeaf
  split
  · exact .of_eq rfl
  · next h => exact .report b (Forest.attach_error h) id

theorem openNew_tidy (path : Tree.Path) (t : Tree) (body : Body) (name : Option String) :
    Tidy b (b.openNew path t body name) := by
  have hintroduce : Tidy b (b.introduce t body) := by
    rw [introduce_eq]
    exact .of_eq rfl
  refine hintroduce.trans ?_
  unfold openNew openSection
  dsimp only
  split
  · exact .of_eq rfl
  · next h =>
    obtain ⟨problems, heq, hall⟩ := Tidy.report (b.introduce t body) (Forest.attach_error h)
      b.forest.nextNode
    exact ⟨problems, heq, hall⟩

theorem bindVariable_tidy (loopName? : Option String) : Tidy b (b.bindVariable loopName?) := by
  unfold bindVariable
  split
  · exact .refl b
  · dsimp only
    split
    · split
      · split
        · exact .of_eq rfl
        · next h => exact .report b (Forest.define_error h) _
      · exact .refl b
    · exact .refl b

theorem addImport_tidy (t : Tree) : Tidy b (b.addImport t) := by
  unfold addImport
  split
  · exact .refl b
  · split
    · exact .of_eq rfl
    · next uri _ =>
      dsimp only
      generalize structAliases (t.childrenOf .importAlias) = structs
      obtain ⟨aliases, again⟩ := structs
      have hvalid : ∀ valid : Bool, Tidy b
          (if valid then b else b.syntaxErrorAt t "invalid or missing import namespace") := by
        intro valid
        split
        · exact .refl b
        · exact .of_eq rfl
      have hagain : ∀ b : Builder, Tidy b (again.foldl
          (fun b x =>
            b.reportAt (.redefinition ("multiple aliases for struct " ++ x.2))
              (some (x.1.position b.origin))) b) :=
        Tidy.foldl (fun b x => .reportAt b rfl _) again
      have hadd : ∀ (b : Builder) body, Tidy b (b.addNode t body) := fun b body => .of_eq rfl
      exact ((hvalid _).trans (hagain _)).trans ((hadd _ _).trans (attachLeaf_tidy _ _ _))

theorem beginExpr_tidy (path : Tree.Path) (t : Tree) : Tidy b (b.beginExpr path t) := by
  unfold beginExpr
  dsimp only [addNode]
  cases b.frames with
  | cons frame outer => exact .of_eq rfl
  | nil =>
    dsimp only
    split
    · exact .of_eq rfl
    · split
      · exact .of_eq rfl
      · next h => exact ⟨[_], rfl, List.forall_mem_singleton.mpr (Forest.attach_error h)⟩

/-! ## Items -/

theorem emit_problems (i : Item) : (b.emit i).problems = b.problems := by
  unfold emit
  split <;> rfl

theorem emitPending_problems (n : Nat) : (b.emitPending n).problems = b.problems := by
  unfold emitPending
  split
  · next frame outer _ =>
    refine List.foldlRecOn (motive := fun b' : Builder => b'.problems = b.problems) _ _ rfl
      fun b' hb' id _ => ?_
    split
    · exact (emit_problems b' _).trans hb'
    · exact hb'
  · rfl

/-- Options that are given again are reported at their places. -/
theorem endPlaceholder_problems (t : Tree) :
    ∃ problems, (b.endPlaceholder t).problems = b.problems ++ problems ∧
      ∀ p ∈ problems, p.problem.isMismatch = false ∧ p.node = none := by
  obtain ⟨errors, hread⟩ := b.readOptions_eq (t.childrenOf .placeholderOption) {}
  unfold endPlaceholder
  generalize b.readOptions (t.childrenOf .placeholderOption) {} = result at hread ⊢
  obtain ⟨b₁, o?⟩ := result
  have hb₁ : b₁.problems = b.problems := by
    rw [show b₁ = _ from hread]
    rfl
  have hfold : ∀ (xs : List (Tree × String)) (b : Builder), ∃ problems,
      (xs.foldl (fun b x => b.reportAt (.redefinition ("repeated placeholder option " ++ x.2))
        (some (x.1.position b.origin))) b).problems = b.problems ++ problems ∧
      ∀ p ∈ problems, p.problem.isMismatch = false ∧ p.node = none := by
    intro xs
    induction xs with
    | nil => exact fun b => ⟨[], (List.append_nil _).symm, List.forall_mem_nil _⟩
    | cons x xs ih =>
      intro b
      obtain ⟨problems, heq, hall⟩ := ih (b.reportAt
        (.redefinition ("repeated placeholder option " ++ x.2)) (some (x.1.position b.origin)))
      refine ⟨[_] ++ problems, heq.trans (List.append_assoc ..),
        List.forall_mem_cons.mpr ⟨?_, hall⟩⟩
      exact ⟨rfl, rfl⟩
  cases o? with
  | none => exact ⟨[], by rw [hb₁, List.append_nil], List.forall_mem_nil _⟩
  | some o =>
    dsimp only
    obtain ⟨problems, heq, hall⟩ := hfold o.repeated _
    refine ⟨problems, heq.trans (congrArg (· ++ problems) ?_), hall⟩
    split <;> exact hb₁

theorem checkKeyword_problems (t : Tree) (name : String) :
    (b.checkKeyword t name).problems = b.problems := by
  obtain ⟨errors, h⟩ := b.checkKeyword_eq t name
  rw [h]
  rfl

theorem endMember_problems (t : Tree) : (b.endMember t).problems = b.problems := by
  have hcheck : (if t.childText 1 == "left" || t.childText 1 == "right" then b
      else b.checkKeyword t (t.childText 1)).problems = b.problems := by
    split
    · rfl
    · exact checkKeyword_problems b t _
  unfold endMember
  dsimp only
  generalize (if t.childText 1 == "left" || t.childText 1 == "right" then b
    else b.checkKeyword t (t.childText 1)) = b' at hcheck ⊢
  refine Eq.trans ?_ hcheck
  split
  · rfl
  · exact (emit_problems _ _).trans (emit_problems _ _)

theorem addCommandPart_problems (text : String) :
    (b.addCommandPart text).problems = b.problems := by
  unfold addCommandPart
  split
  · split <;> rfl
  · rfl

theorem visitToken_problems (k : Token) : (b.visitToken k).problems = b.problems := by
  unfold visitToken
  split
  · exact addCommandPart_problems b k.text
  · rfl

/-! ## Events -/

/-- The beginning of what adds no node records no problem. -/
theorem enter_problems {p : Production} (hsection : p.sectionKind? = none)
    (hleaf : p.isLeaf = false) (hexpr : p.isExpression = false) (path : Tree.Path)
    (e : Option Extent) (cs : List Tree) :
    (b.enter path (.node p e cs)).problems = b.problems := by
  cases p
  case importDoc | metaEntry => exact nomatch hleaf
  case expr | exprOperand => exact nomatch hexpr
  case struct | workflow | task | inputBlock | outputBlock | metaSection | parameterMetaSection |
      runtimeSection | command | call | decl | runtimeEntry | callInput | scatter | conditional =>
    exact nomatch hsection
  case version =>
    show (b.setVersion _).problems = b.problems
    unfold setVersion
    dsimp only
    split <;> rfl
  case object =>
    show (b.beginObject _).problems = b.problems
    unfold beginObject
    dsimp only
    split
    · rfl
    · exact (emit_problems _ _).trans (checkKeyword_problems b _ _)
  all_goals rfl

theorem enter_tidy (path : Tree.Path) (t : Tree) : Tidy b (b.enter path t) := by
  cases t with
  | token k => exact .refl b
  | node p e cs =>
    cases hsection : p.sectionKind? with
    | some kind =>
      obtain ⟨body, name, -, errors, henter⟩ := b.enter_section hsection path e cs
      rw [henter]
      refine Tidy.trans ?_ (bindVariable_tidy _ _)
      exact (openNew_tidy b path _ body name).trans (.of_eq rfl)
    | none =>
      cases hexpr : p.isExpression with
      | true =>
        have hbegin : b.enter path (.node p e cs) = b.beginExpr path (.node p e cs) := by
          cases p <;> first | rfl | cases hexpr
        rw [hbegin]
        exact beginExpr_tidy b path _
      | false =>
        cases hleaf : p.isLeaf with
        | false => exact .of_eq (enter_problems b hsection hleaf hexpr path e cs)
        | true =>
          cases p <;> simp only [Production.isLeaf, Bool.false_eq_true] at hleaf
          case importDoc => exact addImport_tidy b (.node .importDoc e cs)
          case metaEntry =>
            obtain ⟨key, value, h⟩ := b.addMetaEntry_eq (.node .metaEntry e cs)
            rw [show b.enter path (.node .metaEntry e cs) = _ from h]
            refine Tidy.trans ?_ (attachLeaf_tidy _ _ _)
            exact .of_eq rfl

/-- The end of what is neither a section nor an expression records only what options of a
placeholder are given again. -/
theorem exit_problems {p : Production} (hsection : p.sectionKind? = none)
    (hexpr : p.isExpression = false) (path : Tree.Path) (e : Option Extent) (cs : List Tree) :
    ∃ problems, (b.exit path (.node p e cs)).problems = b.problems ++ problems ∧
      ∀ q ∈ problems, q.problem.isMismatch = false ∧ q.node = none := by
  have hnone : p ≠ .placeholder → (b.exit path (.node p e cs)).problems = b.problems := by
    intro hne
    cases p
    case placeholder => exact absurd rfl hne
    case expr | exprOperand => exact nomatch hexpr
    case struct | workflow | task | inputBlock | outputBlock | metaSection |
        parameterMetaSection | runtimeSection | command | call | decl | runtimeEntry | callInput |
        scatter | conditional =>
      exact nomatch hsection
    case binary | booleanTrue | booleanFalse | null | float | map => exact emit_problems b _
    case array | pair | ifThenElse | apply =>
      exact (emit_problems _ _).trans (emitPending_problems b _)
    case int =>
      show (b.emitInt _).problems = b.problems
      unfold emitInt
      dsimp only
      split <;> exact emit_problems _ _
    case leftName => exact (emit_problems _ _).trans (checkKeyword_problems b _ _)
    case group | unaryPlus | mapEntry => exact emitPending_problems b 1
    case negate | unaryMinus | stringExprPart | index =>
      exact (emit_problems _ _).trans (emitPending_problems b 1)
    case stringExprWithPart => exact (emit_problems _ _).trans (emit_problems b _)
    case stringPart =>
      show (b.emitStringPart _).problems = b.problems
      unfold emitStringPart
      dsimp only
      split
      · exact emit_problems b _
      · rfl
    case objectEntry =>
      show (b.endObjectEntry _).problems = b.problems
      unfold endObjectEntry
      split
      · exact ((emitPending_problems _ 1).trans (emit_problems _ _)).trans
          (checkKeyword_problems b _ _)
      · split
        · exact (emitPending_problems _ 1).trans (emit_problems b _)
        · rfl
      · rfl
    case object =>
      show (b.endObject _).problems = b.problems
      unfold endObject
      dsimp only
      split <;> exact emit_problems b _
    case member => exact endMember_problems b _
    case commandPlaceholder => exact addCommandPart_problems b _
    all_goals rfl
  by_cases hp : p = .placeholder
  · subst hp
    exact endPlaceholder_problems b (.node .placeholder e cs)
  · exact ⟨[], by rw [hnone hp, List.append_nil], List.forall_mem_nil _⟩

theorem exit_tidy {p : Production} (hsection : p.sectionKind? = none)
    (hexpr : p.isExpression = false) (path : Tree.Path) (e : Option Extent) (cs : List Tree) :
    Tidy b (b.exit path (.node p e cs)) := by
  obtain ⟨problems, heq, hall⟩ := exit_problems b hsection hexpr path e cs
  exact ⟨problems, heq, fun q hq => (hall q hq).1⟩

end Builder
end Wdl
