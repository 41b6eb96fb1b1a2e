import Wdl.Proofs.Builder.Account

/-!
What a walk leaves alone.

A walk over a part of a document that has nothing to do with commands changes nothing that the nodes
which are there hold of commands.  Where no command is open this is `walk_bypasses`; in the command
of a task it holds inside of every expression, `walk_enclosed`.
-/

namespace Wdl

namespace Builder

variable {b b' b'' : Builder}

/-- The nodes that are there are what they were, and hold of commands what they held. -/
structure Spares (b b' : Builder) : Prop where
  source : b'.source = b.source
  nextNode : b.forest.nextNode ≤ b'.forest.nextNode
  profile? : ∀ id, id < b.forest.nextNode → b'.forest.profile? id = b.forest.profile? id
  holding? : ∀ id, id < b.forest.nextNode → b'.forest.holding? id = b.forest.holding? id

/-- The same of all nodes but one, which may hold something else. -/
structure Touches (b b' : Builder) (node : NodeId) : Prop where
  source : b'.source = b.source
  nextNode : b.forest.nextNode ≤ b'.forest.nextNode
  profile? : ∀ id, id < b.forest.nextNode → b'.forest.profile? id = b.forest.profile? id
  others : ∀ id, id < b.forest.nextNode → id ≠ node → b'.forest.holding? id = b.forest.holding? id

namespace Touches

variable {node : NodeId}

theorem trans (h : Touches b b' node) (h' : Touches b' b'' node) : Touches b b'' node where
  source := h'.source.trans h.source
  nextNode := Nat.le_trans h.nextNode h'.nextNode
  profile? id hid := (h'.profile? id (Nat.lt_of_lt_of_le hid h.nextNode)).trans (h.profile? id hid)
  others id hid hne :=
    (h'.others id (Nat.lt_of_lt_of_le hid h.nextNode) hne).trans (h.others id hid hne)

/-- What is done after that to a new node alone does nothing to those that were there before. -/
theorem trans_new {new : NodeId} (h : Touches b b' node) (h' : Touches b' b'' new)
    (hnew : b.forest.nextNode ≤ new) : Touches b b'' node where
  source := h'.source.trans h.source
  nextNode := Nat.le_trans h.nextNode h'.nextNode
  profile? id hid := (h'.profile? id (Nat.lt_of_lt_of_le hid h.nextNode)).trans (h.profile? id hid)
  others id hid hne :=
    (h'.others id (Nat.lt_of_lt_of_le hid h.nextNode)
      (Nat.ne_of_lt (Nat.lt_of_lt_of_le hid hnew))).trans (h.others id hid hne)

end Touches

namespace Spares

theorem touches (h : Spares b b') (node : NodeId) : Touches b b' node :=
  ⟨h.source, h.nextNode, h.profile?, fun id hid _ => h.holding? id hid⟩

theorem refl (b : Builder) : Spares b b :=
  ⟨rfl, Nat.le_refl _, fun _ _ => rfl, fun _ _ => rfl⟩

theorem trans (h : Spares b b') (h' : Spares b' b'') : Spares b b'' where
  source := h'.source.trans h.source
  nextNode := Nat.le_trans h.nextNode h'.nextNode
  profile? id hid := (h'.profile? id (Nat.lt_of_lt_of_le hid h.nextNode)).trans (h.profile? id hid)
  holding? id hid := (h'.holding? id (Nat.lt_of_lt_of_le hid h.nextNode)).trans (h.holding? id hid)

theorem of_still (h : Still b b') : Spares b b' where
  source := h.source
  nextNode := Nat.le_of_eq h.alike.nextNode.symm
  profile? id _ := h.alike.profile? id
  holding? id _ := h.holding? id

/-- It does not matter which sections and expressions are open, nor what has been reported. -/
theorem of_forest (hforest : b'.forest = b.forest) (hsource : b'.source = b.source) :
    Spares b b' :=
  ⟨hsource, Nat.le_of_eq (by rw [hforest]), fun _ _ => by rw [hforest], fun _ _ => by rw [hforest]⟩

theorem kind? (h : Spares b b') {id : NodeId} (hid : id < b.forest.nextNode) :
    b'.forest.kind? id = b.forest.kind? id := by
  rw [Forest.kind?_eq, Forest.kind?_eq, h.profile? id hid]

end Spares

/-! ## Events that add a node -/

theorem nestScope_node? (b : Builder) (g : Forest) (scope : Option ScopeId) (id : NodeId) :
    (b.nestScope g scope).node? id = g.node? id := by
  unfold nestScope
  split
  · split <;> rfl
  · rfl

theorem introduce_node?_of_ne (b : Builder) (t : Tree) (body : Body) {id : NodeId}
    (hid : id ≠ b.forest.nextNode) :
    (b.introduce t body).forest.node? id = b.forest.node? id := by
  have hadd : (b.forest.addNode (b.nodeOf t body)).node? id = b.forest.node? id := by
    rw [Forest.node?_addNode, if_neg hid]
  unfold introduce
  split <;> exact hadd

/-- The section of a node that is attached. -/
theorem openNew_of_ok {t : Tree} {body : Body} {name : Option String} {g : Forest} {id : NodeId}
    (h : (b.introduce t body).forest.attach b.current.node b.forest.nextNode (b.bindingFor name) =
      .ok (g, id)) (path : Tree.Path) : b.openNew path t body name =
        { b with
          forest := b.nestScope g body.scope?
          sections := ⟨path, id, body.scope?, b.current.rooted⟩ :: b.sections } := by
  unfold openNew openSection
  dsimp only
  rw [introduce_current, introduce_currentScope]
  rw [bindingFor] at h
  rw [h, introduce_eq]
  rfl

/-- The section of a node that is refused. -/
theorem openNew_of_error {t : Tree} {body : Body} {name : Option String} {problem : Problem}
    (h : (b.introduce t body).forest.attach b.current.node b.forest.nextNode (b.bindingFor name) =
      .error problem) (path : Tree.Path) : ∃ problems, b.openNew path t body name =
        { b with
          forest := (b.introduce t body).forest
          sections := ⟨path, b.forest.nextNode, body.scope?, false⟩ :: b.sections
          problems := b.problems ++ problems } := by
  unfold openNew openSection
  dsimp only
  rw [introduce_current, introduce_currentScope]
  rw [bindingFor] at h
  rw [h, introduce_eq]
  exact ⟨_, rfl⟩

/-- A node without parts that has nothing to do with commands is added and offered to one that is no
block of a command. -/
theorem holding?_of_offer {f f₁ g : Forest} {p : NodeId} {n : Node}
    {binding : Option (ScopeId × String)} {i : NodeId}
    (hold : ∀ id, id < f.nextNode → f₁.node? id = f.node? id) (hnew : f₁.node? f.nextNode = some n)
    (hparts : n.body.parts = []) (hkind : n.kind.isOfTasks = false) (hp : p < f.nextNode)
    (hout : f.kind? p ≠ some (.block .command))
    (h : f₁.attach p f.nextNode binding = .ok (g, i)) {id : NodeId} (hid : id < f.nextNode) :
    g.holding? id = f.holding? id := by
  refine (Forest.attach_holding? h ?_ (fun c hc => ?_) id).trans
    (Forest.holding?_congr (hold id hid))
  · rwa [Forest.kind?, hold p hp, ← Forest.kind?]
  · obtain rfl := Option.some.inj (hnew.symm.trans hc)
    exact ⟨hkind, hparts⟩

theorem openNew_holding? (h : Steady b) (path : Tree.Path) (t : Tree) {body : Body}
    (name : Option String) (hparts : body.parts = []) (hkind : body.kind.isOfTasks = false)
    (hout : b.forest.kind? b.current.node ≠ some (.block .command)) {id : NodeId}
    (hid : id < b.forest.nextNode) :
    (b.openNew path t body name).forest.holding? id = b.forest.holding? id := by
  have hold : ∀ id, id < b.forest.nextNode →
      (b.introduce t body).forest.node? id = b.forest.node? id :=
    fun id hid => b.introduce_node?_of_ne t body (Nat.ne_of_lt hid)
  cases hresult : (b.introduce t body).forest.attach b.current.node b.forest.nextNode
      (b.bindingFor name) with
  | error problem =>
    obtain ⟨problems, hopen⟩ := openNew_of_error hresult path
    rw [hopen]
    exact Forest.holding?_congr (hold id hid)
  | ok done =>
    rw [openNew_of_ok hresult path]
    refine (Forest.holding?_congr (b.nestScope_node? done.1 body.scope? id)).trans
      (holding?_of_offer hold (b.introduce_node? t body) hparts hkind h.current.2 hout hresult hid)

theorem attachLeaf_holding? (h : Steady b) (t : Tree) (body : Body)
    (binding : Option (ScopeId × String)) (hparts : body.parts = [])
    (hkind : body.kind.isOfTasks = false)
    (hout : b.forest.kind? b.current.node ≠ some (.block .command)) {id : NodeId}
    (hid : id < b.forest.nextNode) :
    ((b.addNode t body).attachLeaf b.forest.nextNode binding).forest.holding? id =
      b.forest.holding? id := by
  have hold : ∀ id, id < b.forest.nextNode →
      (b.addNode t body).forest.node? id = b.forest.node? id := fun id hid =>
    b.forest.node?_addNode_of_lt (b.nodeOf t body) hid
  unfold attachLeaf
  generalize hresult : (b.addNode t body).forest.attach _ b.forest.nextNode binding = result
  cases result with
  | error p => exact Forest.holding?_congr (hold id hid)
  | ok done =>
    exact holding?_of_offer hold (b.forest.node?_addNode_self (b.nodeOf t body)) hparts hkind
      h.current.2 hout hresult hid

theorem beginExpr_holding? (h : Steady b) (path : Tree.Path) (t : Tree)
    (hout : b.frames = [] → b.forest.kind? b.current.node ≠ some (.block .command)) {id : NodeId}
    (hid : id < b.forest.nextNode) :
    (b.beginExpr path t).forest.holding? id = b.forest.holding? id := by
  have hold : ∀ id, id < b.forest.nextNode →
      (b.addNode t (.expression {})).forest.node? id = b.forest.node? id :=
    fun id hid => b.forest.node?_addNode_of_lt (b.nodeOf t (.expression {})) hid
  cases hframes : b.frames with
  | nil =>
    rw [b.beginExpr_outside hframes path t]
    dsimp only
    split
    · exact Forest.holding?_congr (hold id hid)
    · have hlast : Steady { b with lastExpression := some b.forest.nextNode } :=
        h.shrink (.refl _) rfl rfl (List.Subset.refl _) (List.Subset.refl _)
      exact attachLeaf_holding? hlast t (.expression {}) none rfl rfl (hout hframes) hid
  | cons frame outer =>
    rw [b.beginExpr_inside hframes path t]
    dsimp only
    unfold graft
    generalize hresult : Forest.attach _ frame.node b.forest.nextNode none = result
    cases result with
    | error p => exact Forest.holding?_congr (hold id hid)
    | ok done =>
      obtain ⟨-, q, hq, hkind⟩ := h.frames frame.place (by rw [hframes]; exact List.mem_cons_self)
      refine holding?_of_offer hold (b.forest.node?_addNode_self (b.nodeOf t (.expression {})))
        rfl rfl (b.forest.lt_of_profile? hq) ?_ hresult hid
      rw [Forest.kind?_of_profile? hq, hkind]
      simp

theorem Named.node? {loopName? : Option String} (hn : b.Named loopName? b') (id : NodeId) :
    b'.forest.node? id = b.forest.node? id := by
  cases hn with
  | bound _ _ _ hdefine =>
    rw [(Forest.define_ok hdefine).2.2]
    rfl
  | _ => rfl

theorem Named.source {loopName? : Option String} (hn : b.Named loopName? b') :
    b'.source = b.source := by
  cases hn <;> rfl

theorem openNew_source (path : Tree.Path) (t : Tree) (body : Body) (name : Option String) :
    (b.openNew path t body name).source = b.source := by
  cases hresult : (b.introduce t body).forest.attach b.current.node b.forest.nextNode
      (b.bindingFor name) with
  | error problem =>
    obtain ⟨problems, hopen⟩ := openNew_of_error hresult path
    rw [hopen]
  | ok done => rw [openNew_of_ok hresult path]

/-- No command is open. -/
def Outside (b : Builder) : Prop :=
  ∀ c ∈ b.sections, b.forest.kind? c.node ≠ some (.block .command)

theorem Steady.kind?_document (h : Steady b) : b.forest.kind? b.document = some .document := by
  obtain ⟨q, hq, hkind, -⟩ := h.document
  rw [Forest.kind?_of_profile? hq, hkind]

theorem Outside.current (h : b.Outside) (hs : Steady b) :
    b.forest.kind? b.current.node ≠ some (.block .command) := by
  unfold Builder.current
  cases hsections : b.sections with
  | nil =>
    show b.forest.kind? b.document ≠ _
    rw [hs.kind?_document]
    simp
  | cons c outer => exact h c (hsections ▸ List.mem_cons_self)

theorem Outside.spares (h : b.Outside) (hs : Steady b) (hb : Spares b b')
    (hsections : b'.sections ⊆ b.sections) : b'.Outside := by
  intro c hc
  rw [hb.kind? (hs.sections c (hsections hc)).2]
  exact h c (hsections hc)

theorem kind_isOfTasks {p : Production} {kind : Kind} (hp : p.sectionKind? = some kind)
    (h : p.isOfTasks = false) : kind.isOfTasks = false := by
  cases p <;> cases hp <;> first | rfl | cases h

theorem enter_section_spares {p : Production} {kind : Kind} (hp : p.sectionKind? = some kind)
    (hless : p.isOfTasks = false) (path : Tree.Path) (e : Option Extent) (cs : List Tree)
    (h : Steady b) (hout : b.Outside) :
    Spares b (b.enter path (.node p e cs)) ∧ (b.enter path (.node p e cs)).Outside := by
  obtain ⟨body, name, hopening, errors, henter⟩ := b.enter_section hp path e cs
  obtain ⟨id, parent, accepted, ho⟩ :=
    openNew_opened h path (.node p e cs) hopening.parts name
  have hkind : body.kind.isOfTasks = false := kind_isOfTasks hopening.kind hless
  have hholding : ∀ id, id < b.forest.nextNode →
      (b.openNew path (.node p e cs) body name).forest.holding? id = b.forest.holding? id :=
    fun id hid =>
      openNew_holding? h path (.node p e cs) name hopening.parts hkind (hout.current h) hid
  have hsource := openNew_source (b := b) path (.node p e cs) body name
  rw [henter]
  generalize b.openNew path (.node p e cs) body name = b₁ at ho hholding hsource ⊢
  have hn := bindVariable_named (b₁.withReports (b.syntaxErrors ++ errors) b₁.problems)
    body.loopName?
  generalize (b₁.withReports (b.syntaxErrors ++ errors) b₁.problems).bindVariable body.loopName? =
    b' at hn ⊢
  have hsprout := (ho.sprout hopening.parts).alike hn.alike
  have hspares : Spares b b' := by
    refine ⟨hn.source.trans hsource, ?_, fun id hid => hsprout.profile?_of_lt hid, fun id hid => ?_⟩
    · rw [hsprout.nextNode]
      exact Nat.le_succ _
    · exact (Forest.holding?_congr (hn.node? id)).trans (hholding id hid)
  refine ⟨hspares, fun c hc => ?_⟩
  obtain ⟨-, -, -, hsections, -⟩ := hn.fields
  rw [hsections] at hc
  rcases List.mem_cons.mp (ho.sections ▸ hc) with rfl | hc
  · have hbody : b'.forest.kind? id = some body.kind := by
      cases ho with
      | twin hmem hq hkind _ =>
        rw [hspares.kind? (h.lt_of_part h.current.1 hmem), Forest.kind?_of_profile? hq, hkind]
      | _ => exact Forest.kind?_of_profile? hsprout.profile?_new
    rw [hbody]
    intro heq
    rw [Option.some.inj heq] at hkind
    cases hkind
  · rw [hspares.kind? (h.sections c hc).2]
    exact hout c hc

theorem attachLeaf_source (b : Builder) (id : NodeId) (binding : Option (ScopeId × String)) :
    (b.attachLeaf id binding).source = b.source := by
  unfold attachLeaf
  generalize Forest.attach _ _ _ _ = result
  cases result <;> rfl

theorem attachLeaf_forest {id i : NodeId} {binding : Option (ScopeId × String)} {f : Forest}
    (h : b.forest.attach b.current.node id binding = .ok (f, i)) :
    (b.attachLeaf id binding).forest = f := by
  rw [attachLeaf, h]

theorem attachLeaf_spares (h : Steady b) (t : Tree) (body : Body)
    (binding : Option (ScopeId × String)) (hparts : body.parts = [])
    (hkind : body.kind.isOfTasks = false)
    (hout : b.forest.kind? b.current.node ≠ some (.block .command)) :
    Spares b ((b.addNode t body).attachLeaf b.forest.nextNode binding) := by
  obtain ⟨parent, hleafed⟩ := attachLeaf_leafed h t body hparts binding
  have hsprout := hleafed.sprout hparts
  refine ⟨attachLeaf_source .., ?_, fun id hid => hsprout.profile?_of_lt hid,
    fun id hid => attachLeaf_holding? h t body binding hparts hkind hout hid⟩
  rw [hsprout.nextNode]
  exact Nat.le_succ _

theorem enter_leaf_spares {p : Production} (hp : p.isLeaf = true) (path : Tree.Path)
    (e : Option Extent) (cs : List Tree) (h : Steady b) (hout : b.Outside) :
    Spares b (b.enter path (.node p e cs)) ∧
      (b.enter path (.node p e cs)).sections = b.sections := by
  cases p <;> simp only [Production.isLeaf, Bool.false_eq_true] at hp
  case importDoc =>
    show Spares b (b.addImport (.node .importDoc e cs)) ∧ (b.addImport _).sections = _
    rcases b.addImport_eq (.node .importDoc e cs) with
      ⟨-, heq⟩ | ⟨error, heq⟩ | ⟨errors, problems, body, heq⟩
    · rw [heq]
      exact ⟨.refl b, rfl⟩
    · rw [heq]
      exact ⟨.of_forest rfl rfl, rfl⟩
    · have hreports := h.quiet (.withReports b (b.syntaxErrors ++ errors) problems)
      have hleaf := attachLeaf_spares hreports (.node .importDoc e cs) (.importDoc body)
        (if b.isNamespace body.namespaceName && b.current.rooted then
          some (b.scope, body.namespaceName) else none) rfl rfl (hout.current h)
      have hspares : Spares b (b.withReports (b.syntaxErrors ++ errors) (b.problems ++ problems)) :=
        .of_forest rfl rfl
      rw [heq]
      exact ⟨hspares.trans hleaf, attachLeaf_sections ..⟩
  case metaEntry =>
    show Spares b (b.addMetaEntry (.node .metaEntry e cs)) ∧ (b.addMetaEntry _).sections = _
    obtain ⟨key, value, heq⟩ := b.addMetaEntry_eq (.node .metaEntry e cs)
    rw [heq]
    exact ⟨attachLeaf_spares h (.node .metaEntry e cs) (.entry { key, value }) none rfl rfl
      (hout.current h), attachLeaf_sections ..⟩

theorem beginExpr_source (b : Builder) (path : Tree.Path) (t : Tree) :
    (b.beginExpr path t).source = b.source := by
  cases hframes : b.frames with
  | nil =>
    rw [b.beginExpr_outside hframes path t]
    dsimp only
    split
    · rfl
    · exact attachLeaf_source ..
  | cons frame outer =>
    rw [b.beginExpr_inside hframes path t]
    rfl

theorem beginExpr_spares (h : Steady b) (path : Tree.Path) (t : Tree)
    (hout : b.frames = [] → b.forest.kind? b.current.node ≠ some (.block .command)) :
    Spares b (b.beginExpr path t) := by
  obtain ⟨parent, hbegun⟩ := beginExpr_begun h path t
  refine ⟨beginExpr_source b path t, ?_, fun id hid => hbegun.sprout.profile?_of_lt hid,
    fun id hid => beginExpr_holding? h path t hout hid⟩
  rw [hbegun.sprout.nextNode]
  exact Nat.le_succ _

theorem enter_expression {p : Production} (hp : p.isExpression = true) (b : Builder)
    (path : Tree.Path) (e : Option Extent) (cs : List Tree) :
    b.enter path (.node p e cs) = b.beginExpr path (.node p e cs) := by
  cases p <;> first | rfl | cases hp

theorem exit_expression {p : Production} (hp : p.isExpression = true) (b : Builder)
    (path : Tree.Path) (e : Option Extent) (cs : List Tree) :
    b.exit path (.node p e cs) = b.endExpr path (.node p e cs) := by
  cases p <;> first | rfl | cases hp

/-! ## Walks -/

/-- A step that bypasses commands: none is open before it or after it, and it spares what is
there. -/
structure Bypasses (b b' : Builder) : Prop extends Spares b b' where
  rooted : Rooted b'
  outside : b'.Outside

namespace Bypasses

theorem trans (h : Bypasses b b') (h' : Bypasses b' b'') : Bypasses b b'' :=
  ⟨h.toSpares.trans h'.toSpares, h'.rooted, h'.outside⟩

theorem of_still (h : Rooted b) (hout : b.Outside) (hb : Still b b') : Bypasses b b' :=
  ⟨.of_still hb, h.quiet hb.toQuiet, hout.spares h.steady (.of_still hb)
    (hb.sections ▸ List.Subset.refl _)⟩

end Bypasses

theorem enter_bypasses {p : Production} (hless : p.isOfTasks = false) (path : Tree.Path)
    (e : Option Extent) (cs : List Tree) (h : Rooted b) (hout : b.Outside) :
    Bypasses b (b.enter path (.node p e cs)) := by
  have hrooted := (enter_advances h path (.node p e cs)).rooted
  cases hsection : p.sectionKind? with
  | some kind =>
    obtain ⟨hspares, hout⟩ := enter_section_spares hsection hless path e cs h.steady hout
    exact ⟨hspares, hrooted, hout⟩
  | none =>
    cases hleaf : p.isLeaf with
    | true =>
      obtain ⟨hspares, hsections⟩ := enter_leaf_spares hleaf path e cs h.steady hout
      exact ⟨hspares, hrooted, hout.spares h.steady hspares (hsections ▸ List.Subset.refl _)⟩
    | false =>
      cases hexpr : p.isExpression with
      | true =>
        rw [enter_expression hexpr] at hrooted ⊢
        have hspares := beginExpr_spares h.steady path (.node p e cs)
          fun _ => hout.current h.steady
        obtain ⟨parent, hbegun⟩ := beginExpr_begun h.steady path (.node p e cs)
        exact ⟨hspares, hrooted,
          hout.spares h.steady hspares (hbegun.sections ▸ List.Subset.refl _)⟩
      | false => exact .of_still h hout (enter_still b hsection hleaf hexpr path e cs)

theorem exit_bypasses {p : Production} (hless : p.isOfTasks = false) (path : Tree.Path)
    (e : Option Extent) (cs : List Tree) (h : Rooted b) (hout : b.Outside) :
    Bypasses b (b.exit path (.node p e cs)) := by
  have hrooted := (exit_advances h path (.node p e cs)).rooted
  have hsame : ∀ b', b'.forest = b.forest → b'.source = b.source → b'.sections ⊆ b.sections →
      Rooted b' → Bypasses b b' := fun b' hforest hsource hsections hrooted =>
    ⟨.of_forest hforest hsource, hrooted,
      hout.spares h.steady (.of_forest hforest hsource) hsections⟩
  cases hsection : p.sectionKind? with
  | some kind =>
    rw [exit_section hsection] at hrooted ⊢
    rcases b.closeSection_unwinds path (.node p e cs) kind with
      ⟨-, heq⟩ | ⟨inner, c, outer, hsections, -, -, heq⟩
    · rw [heq] at hrooted ⊢
      exact hsame _ rfl rfl (List.Subset.refl _) hrooted
    · rw [heq] at hrooted ⊢
      refine hsame _ rfl rfl ?_ hrooted
      rw [hsections]
      exact fun x hx => List.mem_append_right _ (List.mem_cons_of_mem _ hx)
  | none =>
    cases hexpr : p.isExpression with
    | true =>
      rw [exit_expression hexpr] at hrooted ⊢
      obtain ⟨frames, problems, -, heq⟩ := b.endExpr_eq_shrink path (.node p e cs)
      rw [heq] at hrooted ⊢
      exact hsame _ rfl rfl (List.Subset.refl _) hrooted
    | false =>
      refine .of_still h hout (exit_still b hsection hexpr ?_ path e cs)
      rintro rfl
      cases hless

theorem walkList_bypasses {cs : List Tree}
    (hcs : ∀ c ∈ cs, ∀ path b, Rooted b → b.Outside → Bypasses b (walk path c b))
    (path : Tree.Path) (i : Nat) (h : Rooted b) (hout : b.Outside) :
    Bypasses b (walkList path i cs b) := by
  induction cs generalizing i b with
  | nil => exact .of_still h hout (.refl b)
  | cons c cs ih =>
    obtain ⟨hc, hcs⟩ := List.forall_mem_cons.mp hcs
    have hfirst := hc (i :: path) b h hout
    exact hfirst.trans (ih hcs (i + 1) hfirst.rooted hfirst.outside)

/-- A walk over what has nothing to do with commands. -/
theorem walk_bypasses {t : Tree} (ht : Commandless t) (path : Tree.Path) (h : Rooted b)
    (hout : b.Outside) : Bypasses b (walk path t b) := by
  induction ht generalizing path b with
  | token hk => exact .of_still h hout (visitToken_still b hk)
  | @node p e cs hp _ ih =>
    have henter := enter_bypasses hp path e cs h hout
    have hinner := walkList_bypasses (fun c hc path b hb hout => ih c hc path hb hout) path 0
      henter.rooted henter.outside
    exact (henter.trans hinner).trans (exit_bypasses hp path e cs hinner.rooted hinner.outside)

/-- A step inside of an expression: the same sections and expressions are open after it, and it
spares what is there. -/
structure Enclosed (b b' : Builder) : Prop extends Spares b b' where
  rooted : Rooted b'
  sections : b'.sections = b.sections
  frames : b'.frames.map Frame.place = b.frames.map Frame.place

namespace Enclosed

theorem trans (h : Enclosed b b') (h' : Enclosed b' b'') : Enclosed b b'' :=
  ⟨h.toSpares.trans h'.toSpares, h'.rooted, h'.sections.trans h.sections,
    h'.frames.trans h.frames⟩

theorem of_still (h : Rooted b) (hb : Still b b') : Enclosed b b' :=
  ⟨.of_still hb, h.quiet hb.toQuiet, hb.sections, hb.frames⟩

theorem frames_ne (h : Enclosed b b') (hframes : b.frames ≠ []) : b'.frames ≠ [] := by
  intro hnil
  have hplaces := h.frames
  rw [hnil] at hplaces
  exact hframes (List.map_eq_nil_iff.mp hplaces.symm)

end Enclosed

theorem walkList_enclosed {cs : List Tree}
    (hcs : ∀ c ∈ cs, ∀ path b, Rooted b → b.frames ≠ [] → Enclosed b (walk path c b))
    (path : Tree.Path) (i : Nat) (h : Rooted b) (hframes : b.frames ≠ []) :
    Enclosed b (walkList path i cs b) := by
  induction cs generalizing i b with
  | nil => exact .of_still h (.refl b)
  | cons c cs ih =>
    obtain ⟨hc, hcs⟩ := List.forall_mem_cons.mp hcs
    have hfirst := hc (i :: path) b h hframes
    exact hfirst.trans (ih hcs (i + 1) hfirst.rooted (hfirst.frames_ne hframes))

/-- The children of an expression are walked over inside of it, and then it ends. -/
theorem walk_expression {p : Production} {e : Option Extent} {cs : List Tree}
    (hexpr : p.isExpression = true)
    (hcs : ∀ c ∈ cs, ∀ path b, Rooted b → b.frames ≠ [] → Enclosed b (walk path c b))
    (path : Tree.Path) (h : Rooted b) :
    Enclosed (b.beginExpr path (.node p e cs))
        (walkList path 0 cs (b.beginExpr path (.node p e cs))) ∧
      ∃ frames, frames.map Frame.place = b.frames.map Frame.place ∧
        walk path (.node p e cs) b =
          { walkList path 0 cs (b.beginExpr path (.node p e cs)) with frames } := by
  obtain ⟨parent, hbegun⟩ := beginExpr_begun h.steady path (.node p e cs)
  have hrooted := (hbegun.advances h).rooted
  have hinner := walkList_enclosed hcs path 0 hrooted fun hnil => by
    have hplaces := hbegun.frames
    rw [hnil] at hplaces
    cases hplaces
  refine ⟨hinner, ?_⟩
  -- the expression that ends is the innermost one
  obtain ⟨frame, outer, hcons, hplace, houter⟩ :=
    List.map_eq_cons_iff.mp (hinner.frames.trans hbegun.frames)
  refine ⟨outer, houter, ?_⟩
  rw [walk, enter_expression hexpr, exit_expression hexpr, endExpr, hcons]
  dsimp only
  exact if_pos (beq_iff_eq.mpr (congrArg Prod.fst hplace))

/-- A walk over parts of an expression. -/
theorem walk_enclosed {t : Tree} (ht : Inert t) (hless : Commandless t) (path : Tree.Path)
    (h : Rooted b) (hframes : b.frames ≠ []) : Enclosed b (walk path t b) := by
  induction ht generalizing path b with
  | token k =>
    cases hless with
    | token hk => exact .of_still h (visitToken_still b hk)
  | @node p e cs hsection hleaf _ ih =>
    cases hless with
    | node hp hcs =>
      have hcs : ∀ c ∈ cs, ∀ path b, Rooted b → b.frames ≠ [] → Enclosed b (walk path c b) :=
        fun c hc path b hb hne => ih c hc (hcs c hc) path hb hne
      cases hexpr : p.isExpression with
      | true =>
        obtain ⟨hinner, frames, hplaces, hwalk⟩ := walk_expression (e := e) hexpr hcs path h
        obtain ⟨parent, hbegun⟩ := beginExpr_begun h.steady path (.node p e cs)
        have hspares := beginExpr_spares h.steady path (.node p e cs)
          fun hnil => absurd hnil hframes
        rw [hwalk]
        refine ⟨(hspares.trans hinner.toSpares).trans (.of_forest rfl rfl), ?_,
          hinner.sections.trans hbegun.sections, hplaces⟩
        refine hinner.rooted.shrink (.refl _) rfl rfl rfl (List.Subset.refl _) ?_
        rw [hplaces, hinner.frames, hbegun.frames]
        exact List.subset_cons_self _ _
      | false =>
        have henter := enter_still b hsection hleaf hexpr path e cs
        have hopen := Enclosed.of_still h henter
        have hinner := walkList_enclosed hcs path 0 hopen.rooted (hopen.frames_ne hframes)
        refine (hopen.trans hinner).trans (.of_still hinner.rooted (exit_still _ hsection hexpr ?_
          path e cs))
        rintro rfl
        cases hp

end Builder
end Wdl
