import Wdl.Proofs.Builder.Names
import Wdl.Proofs.Builder.Ready

/-!
What a walk adds.

A walk adds nodes and problems, and the problems are about the nodes that it adds or about none: it
neither changes what the nodes before it were made with nor has any problem with them.  This is
`Augments`, and it holds from every production of a walk to the end, `augments_of_visit`.
-/

namespace Wdl

theorem Forest.isSome_made? (f : Forest) {id : NodeId} :
    (f.made? id).isSome = true ↔ id < f.nextNode := by
  rw [made?, Option.isSome_map, ← not_iff_not, Bool.not_eq_true, Option.isSome_eq_false_iff,
    Option.isNone_iff_eq_none, node?_eq_none_iff, Nat.not_lt]

namespace Builder

variable {l : Layout} {b b' b'' : Builder} {path : Tree.Path} {t : Tree} {v : Visit}

theorem Adds.nextNode {body : Body} (h : Adds b b' body) :
    b'.forest.nextNode = b.forest.nextNode + 1 := by
  refine eq_of_forall_lt_iff fun id => ?_
  rw [← Forest.isSome_made?, h.made?, Nat.lt_succ_iff_lt_or_eq]
  split
  · next heq => simp [heq]
  · next hne => simp [Forest.isSome_made?, hne]

/-- Nodes are added, and problems that are about them or about no node. -/
structure Augments (b b' : Builder) : Prop where
  le : b.forest.nextNode ≤ b'.forest.nextNode
  made? : ∀ id < b.forest.nextNode, b'.forest.made? id = b.forest.made? id
  problems : ∃ problems, b'.problems = b.problems ++ problems ∧
    ∀ p ∈ problems, ∀ id, p.node = some id →
      b.forest.nextNode ≤ id ∧ id < b'.forest.nextNode

namespace Augments

theorem of_alike (halike : b.forest.Alike b'.forest) (h : ∃ problems,
    b'.problems = b.problems ++ problems ∧ ∀ p ∈ problems, p.node = none) : Augments b b' where
  le := Nat.le_of_eq halike.nextNode.symm
  made? id _ := halike.made? id
  problems := by
    obtain ⟨problems, heq, hall⟩ := h
    refine ⟨problems, heq, fun p hp id hid => ?_⟩
    rw [hall p hp] at hid
    cases hid

theorem quiet (halike : b.forest.Alike b'.forest) (h : b'.problems = b.problems) :
    Augments b b' :=
  .of_alike halike ⟨[], by rw [h, List.append_nil], List.forall_mem_nil _⟩

theorem refl (b : Builder) : Augments b b := .quiet (.refl _) rfl

theorem trans (h : Augments b b') (h' : Augments b' b'') : Augments b b'' where
  le := Nat.le_trans h.le h'.le
  made? id hid := (h'.made? id (Nat.lt_of_lt_of_le hid h.le)).trans (h.made? id hid)
  problems := by
    obtain ⟨ps, hps, hall⟩ := h.problems
    obtain ⟨qs, hqs, hall'⟩ := h'.problems
    refine ⟨ps ++ qs, by rw [hqs, hps, List.append_assoc], List.forall_mem_append.mpr
      ⟨fun p hp id hid => ?_, fun p hp id hid => ?_⟩⟩
    · exact (hall p hp id hid).imp_right fun hlt => Nat.lt_of_lt_of_le hlt h'.le
    · exact (hall' p hp id hid).imp_left (Nat.le_trans h.le)

/-- One node is added, and no problem is about another. -/
theorem of_adds {body : Body} (hadds : Adds b b' body) (h : ∃ problems,
      b'.problems = b.problems ++ problems ∧
        ∀ p ∈ problems, p.node = some b.forest.nextNode) : Augments b b' where
  le := by rw [hadds.nextNode]; exact Nat.le_succ _
  made? id hid := by rw [hadds.made?, if_neg (Nat.ne_of_lt hid)]
  problems := by
    obtain ⟨problems, heq, hall⟩ := h
    refine ⟨problems, heq, fun p hp id hid => ?_⟩
    obtain rfl := Option.some.inj ((hall p hp).symm.trans hid)
    exact ⟨Nat.le_refl _, by rw [hadds.nextNode]; exact Nat.lt_succ_self _⟩

/-- Problems that are about nodes are about those that are there. -/
theorem node_lt (h : Augments b b')
    (hb : ∀ p ∈ b.problems, ∀ id, p.node = some id → id < b.forest.nextNode) :
    ∀ p ∈ b'.problems, ∀ id, p.node = some id → id < b'.forest.nextNode := by
  obtain ⟨problems, heq, hall⟩ := h.problems
  rw [heq]
  exact List.forall_mem_append.mpr ⟨fun p hp id hid => Nat.lt_of_lt_of_le (hb p hp id hid) h.le,
    fun p hp id hid => (hall p hp id hid).2⟩

/-- No problem with the nodes before is added. -/
theorem filter_problems (h : Augments b b') {about : DocumentProblem → Bool}
    (habout : ∀ p, about p = true → ∃ id < b.forest.nextNode, p.node = some id) :
    b'.problems.filter about = b.problems.filter about := by
  obtain ⟨problems, heq, hall⟩ := h.problems
  have hnone : problems.filter about = [] := List.filter_eq_nil_iff.mpr fun p hp hp' => by
    obtain ⟨id, hlt, hid⟩ := habout p hp'
    exact Nat.not_le_of_lt hlt (hall p hp id hid).1
  rw [heq, List.filter_append, hnone, List.append_nil]

end Augments

/-! ## Steps -/

variable (b)

/-- A node that is refused is reported. -/
theorem attachLeaf_problems (id : NodeId) (binding : Option (ScopeId × String)) : ∃ problems,
    (b.attachLeaf id binding).problems = b.problems ++ problems ∧
      ∀ p ∈ problems, p.node = some id := by
  unfold attachLeaf
  split
  · exact ⟨[], (List.append_nil _).symm, List.forall_mem_nil _⟩
  · exact ⟨[_], rfl, List.forall_mem_singleton.mpr rfl⟩

theorem openNew_problems (path : Tree.Path) (t : Tree) (body : Body) (name : Option String) :
    ∃ problems, (b.openNew path t body name).problems = b.problems ++ problems ∧
      ∀ p ∈ problems, p.node = some b.forest.nextNode := by
  have hintroduce : (b.introduce t body).problems = b.problems := by rw [introduce_eq]
  unfold openNew openSection
  dsimp only
  split
  · exact ⟨[], by rw [List.append_nil, ← hintroduce], List.forall_mem_nil _⟩
  · exact ⟨[_], congrArg (· ++ [_]) hintroduce, List.forall_mem_singleton.mpr rfl⟩

/-- A variable that is refused is a problem with the node of its section. -/
theorem bindVariable_problems (loopName? : Option String) : ∃ problems,
    (b.bindVariable loopName?).problems = b.problems ++ problems ∧
      ∀ p ∈ problems, p.node = some b.current.node := by
  have hnamed := b.bindVariable_named loopName?
  generalize b.bindVariable loopName? = b' at hnamed ⊢
  cases hnamed with
  | refused => exact ⟨[_], rfl, List.forall_mem_singleton.mpr rfl⟩
  | _ => exact ⟨[], (List.append_nil _).symm, List.forall_mem_nil _⟩

theorem beginExpr_problems (path : Tree.Path) (t : Tree) : ∃ problems,
    (b.beginExpr path t).problems = b.problems ++ problems ∧
      ∀ p ∈ problems, p.node = some b.forest.nextNode := by
  cases hframes : b.frames with
  | cons frame outer =>
    rw [b.beginExpr_inside hframes path t]
    exact ⟨[], (List.append_nil _).symm, List.forall_mem_nil _⟩
  | nil =>
    rw [b.beginExpr_outside hframes path t]
    dsimp only
    split
    · exact ⟨[], (List.append_nil _).symm, List.forall_mem_nil _⟩
    · exact attachLeaf_problems _ b.forest.nextNode none

/-- The aliases that are left out are reported at their places, and the import itself if it is
refused. -/
theorem addImport_augments (t : Tree) : Augments b (b.addImport t) := by
  cases hnodes : t.nodes with
  | nil =>
    have hnone : b.addImport t = b := by
      unfold addImport
      rw [hnodes]
    rw [hnone]
    exact .refl b
  | cons literal rest =>
    cases huri : literalText? literal with
    | none =>
      have hbad : b.addImport t = b.badEscape literal := by
        unfold addImport
        rw [hnodes]
        dsimp only
        rw [huri]
      rw [hbad]
      exact .quiet (.refl _) rfl
    | some uri =>
      obtain ⟨errors, body, -, h⟩ := b.addImport_legible hnodes huri
      rw [h]
      have hagain : Augments b (b.withReports (b.syntaxErrors ++ errors) (b.problems ++
          (structAliases (t.childrenOf .importAlias)).2.map b.secondAlias)) :=
        .of_alike (.refl _) ⟨_, rfl, List.forall_mem_map.mpr fun _ _ => rfl⟩
      exact hagain.trans (.of_adds ((addNode_adds _ t _).inherits (attachLeaf_inherits _ _ _))
        (attachLeaf_problems _ _ _))

theorem addMetaEntry_augments (t : Tree) : Augments b (b.addMetaEntry t) := by
  obtain ⟨key, value, h⟩ := b.addMetaEntry_eq t
  rw [h]
  exact .of_adds ((b.addNode_adds t _).inherits (attachLeaf_inherits _ _ _))
    (attachLeaf_problems _ _ _)

/-- The end of a production reports no node. -/
theorem exit_augments (path : Tree.Path) (t : Tree) : Augments b (b.exit path t) := by
  refine .of_alike (exit_alike b path t) ?_
  have hnone : ∀ b : Builder, ∃ problems, b.problems = b.problems ++ problems ∧
      ∀ p ∈ problems, p.node = none :=
    fun b => ⟨[], (List.append_nil _).symm, List.forall_mem_nil _⟩
  cases t with
  | token k => exact hnone b
  | node p e cs =>
    cases hsection : p.sectionKind? with
    | some kind =>
      rw [exit_section hsection]
      unfold closeSection
      dsimp only
      split
      · exact ⟨[_], rfl, List.forall_mem_singleton.mpr rfl⟩
      · split
        · exact hnone b
        · exact ⟨[_], rfl, List.forall_mem_singleton.mpr rfl⟩
    | none =>
      cases hexpr : p.isExpression with
      | true =>
        rw [exit_expression hexpr]
        unfold endExpr
        split
        · exact ⟨[_], rfl, List.forall_mem_singleton.mpr rfl⟩
        · split
          · exact hnone b
          · exact ⟨[_], rfl, List.forall_mem_singleton.mpr rfl⟩
      | false =>
        obtain ⟨problems, heq, hall⟩ := b.exit_problems hsection hexpr path e cs
        exact ⟨problems, heq, fun q hq => (hall q hq).2⟩

theorem visitToken_augments (k : Token) : Augments b (b.visitToken k) :=
  .quiet (b.visitToken_quiet k).alike (b.visitToken_problems k)

variable {b}

/-- The end of a walk reports no node. -/
theorem finish_augments : Augments b b.finish := by
  obtain ⟨errors, hfinish⟩ := b.finish_eq
  rw [hfinish]
  exact .of_alike (.refl _) ⟨_, rfl, List.forall_mem_map.mpr fun _ _ => rfl⟩

/-- Where a walk is ready for a production, what begins it has problems with its own node only. -/
theorem Ready.enter_augments {p : Production} {e : Option Extent} {cs : List Tree}
    (h : Ready l b (.node p e cs)) (path : Tree.Path) :
    Augments b (b.enter path (.node p e cs)) := by
  cases h.suited.standing with
  | quiet hsection hleaf hexpr hcs =>
    exact .quiet (enter_quiet b hsection hleaf hexpr path e cs).alike
      (b.enter_problems hsection hleaf hexpr path e cs)
  | @inSection kind hp hplaces hvariable hcs =>
    have hspot : (Tree.node p e cs).spot? = some (kind, (Tree.node p e cs).span) := by
      have hnode : p.nodeKind? = some kind := by
        rw [← hp]
        cases p <;> first | rfl | exact nomatch hp
      exact congrArg (Option.map fun k => (k, (Tree.node p e cs).span)) hnode
    obtain ⟨-, -, c, hsections, -, hnode⟩ := enter_section_entered hp path e cs h.orderly
      (host_of_frames_nil hplaces ▸ h.self_fits hspot) hvariable
    obtain ⟨body, name, -, errors, henter⟩ := b.enter_section hp path e cs
    rw [henter] at hsections ⊢
    let b₁ := (b.openNew path (.node p e cs) body name).withReports (b.syntaxErrors ++ errors)
      (b.openNew path (.node p e cs) body name).problems
    obtain ⟨-, -, -, hkept, -⟩ := (b₁.bindVariable_named body.loopName?).fields
    -- the variable of a scatter is bound when its section is open
    have hcurrent : b₁.current.node = b.forest.nextNode := by
      rw [current_of_sections (hkept.symm.trans hsections), hnode]
    obtain ⟨ps, hps, hall⟩ := b.openNew_problems path (.node p e cs) body name
    obtain ⟨qs, hqs, hall'⟩ := b₁.bindVariable_problems body.loopName?
    rw [hcurrent] at hall'
    have hopened : Adds b b₁ body :=
      (b.openNew_adds path (.node p e cs) body name).inherits (.of_forest rfl rfl)
    refine .of_adds (hopened.inherits (b₁.bindVariable_inherits _)) ⟨ps ++ qs, ?_,
      List.forall_mem_append.mpr ⟨hall, hall'⟩⟩
    rw [hqs, ← List.append_assoc, ← hps]
    rfl
  | leaf hp =>
    cases p <;> simp only [Production.isLeaf, Bool.false_eq_true] at hp
    case importDoc => exact b.addImport_augments (.node .importDoc e cs)
    case metaEntry => exact b.addMetaEntry_augments (.node .metaEntry e cs)
  | expression hexpr =>
    rw [enter_expression hexpr]
    exact .of_adds (b.beginExpr_adds path _) (b.beginExpr_problems path _)

/-! ## Walks -/

mutual

theorem Ready.augments {b : Builder} (path : Tree.Path) : {t : Tree} → Ready l b t →
    Augments b (walk path t b)
  | .token k, _ => b.visitToken_augments k
  | .node _ _ _, h => by
    have hinner := ReadyList.augments path 0 (h.begins path).1
    exact ((h.enter_augments path).trans hinner).trans (exit_augments _ path _)

theorem ReadyList.augments {b : Builder} (path : Tree.Path) (i : Nat) : {cs : List Tree} →
    ReadyList l b cs → Augments b (walkList path i cs b)
  | [], _ => .refl b
  | _ :: _, h =>
    (Ready.augments (i :: path) h.head).trans (ReadyList.augments path (i + 1) (h.tail _))

end

mutual

/-- What has been added before a production and what is added after it. -/
theorem augments_of_visit {path : Tree.Path} {b : Builder} : {t : Tree} → Ready l b t →
    v ∈ visits path t b → Augments b v.before ∧ Augments v.after (walk path t b)
  | .token _, _, hv => absurd hv List.not_mem_nil
  | .node _ _ _, h, hv => by
    rcases List.mem_cons.mp hv with rfl | hv
    · exact ⟨.refl b, .refl _⟩
    · obtain ⟨hbefore, hafter⟩ := augments_of_visitList (h.begins path).1 hv
      exact ⟨(h.enter_augments path).trans hbefore, hafter.trans (exit_augments _ path _)⟩

theorem augments_of_visitList {path : Tree.Path} {i : Nat} {b : Builder} : {cs : List Tree} →
    ReadyList l b cs → v ∈ visitsList path i cs b →
      Augments b v.before ∧ Augments v.after (walkList path i cs b)
  | [], _, hv => absurd hv List.not_mem_nil
  | _ :: _, h, hv => by
    rw [visitsList] at hv
    rw [walkList]
    rcases List.mem_append.mp hv with hv | hv
    · obtain ⟨hbefore, hafter⟩ := augments_of_visit h.head hv
      exact ⟨hbefore, hafter.trans (ReadyList.augments path _ (h.tail _))⟩
    · obtain ⟨hbefore, hafter⟩ := augments_of_visitList (h.tail _) hv
      exact ⟨(Ready.augments _ h.head).trans hbefore, hafter⟩

end

end Builder
end Wdl
