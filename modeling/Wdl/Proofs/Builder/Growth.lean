import Wdl.Proofs.Builder.Quiet
import Wdl.Proofs.Document.Scopes

/-!
How documents grow.

Events that are not quiet close sections or expressions, or add one node, which is offered to
another: to the current section, or for a nested expression to the one around it.  `Steady` are the
builders in which there always is such a node, and `enter_leaf`, `openNew_opened` and
`beginExpr_begun` say what becomes of the new one.
-/

namespace Wdl
namespace Builder

/-! ## Steady builders -/

/-- The nodes that events rely on are there, and the links of nodes agree. -/
structure Steady (b : Builder) : Prop where
  linked : Forest.Linked b.document b.forest
  document : ∃ q, b.forest.profile? b.document = some q ∧ q.kind = .document ∧
    q.scope = some b.scope
  sections : ∀ c ∈ b.sections, b.document < c.node ∧ c.node < b.forest.nextNode
  frames : ∀ x ∈ b.frames.map Frame.place, b.document < x.2 ∧
    ∃ q, b.forest.profile? x.2 = some q ∧ q.kind = .expression

namespace Steady

variable {b b' : Builder}

theorem document_lt (h : Steady b) : b.document < b.forest.nextNode := by
  obtain ⟨q, hq, -⟩ := h.document
  exact b.forest.lt_of_profile? hq

theorem current (h : Steady b) :
    b.document ≤ b.current.node ∧ b.current.node < b.forest.nextNode := by
  unfold Builder.current
  cases hsections : b.sections with
  | nil => exact ⟨Nat.le_refl _, h.document_lt⟩
  | cons c outer =>
    obtain ⟨hlt, hnext⟩ := h.sections c (hsections ▸ List.mem_cons_self)
    exact ⟨Nat.le_of_lt hlt, hnext⟩

theorem lt_of_part (h : Steady b) {p c : NodeId} (hp : b.document ≤ p)
    (hc : c ∈ b.forest.parts p) : c < b.forest.nextNode :=
  h.linked.lt_of_part hp hc

/-- Steadiness does not depend on reports, nor on which of the sections and expressions are open. -/
theorem shrink (h : Steady b) (halike : b.forest.Alike b'.forest)
    (hdocument : b'.document = b.document)
    (hscope : b'.scope = b.scope) (hsections : b'.sections ⊆ b.sections)
    (hframes : b'.frames.map Frame.place ⊆ b.frames.map Frame.place) : Steady b' where
  linked := by
    rw [hdocument]
    exact h.linked.alike halike
  document := by
    rw [hdocument, hscope, halike.profile?]
    exact h.document
  sections c hc := by
    rw [hdocument, halike.nextNode]
    exact h.sections c (hsections hc)
  frames x hx := by
    rw [hdocument, halike.profile?]
    exact h.frames x (hframes hx)

theorem quiet (h : Steady b) (hq : Quiet b b') : Steady b' :=
  h.shrink hq.alike hq.document hq.scope (by rw [hq.sections]; exact fun _ => id)
    (by rw [hq.frames]; exact fun _ => id)

/-- A new node keeps a builder steady if it is not put below a node that is not of the document. -/
theorem sprout {q : Profile} {parent : Option NodeId} (h : Steady b)
    (hs : b.forest.Sprout b'.forest q parent) (hparent : ∀ p, parent = some p → b.document ≤ p)
    (hdocument : b'.document = b.document) (hscope : b'.scope = b.scope)
    (hsections : ∀ c ∈ b'.sections, c ∈ b.sections ∨
      b.document < c.node ∧ c.node < b'.forest.nextNode)
    (hframes : ∀ x ∈ b'.frames.map Frame.place, x ∈ b.frames.map Frame.place ∨
      x.2 = b.forest.nextNode ∧ q.kind = .expression) : Steady b' where
  linked := by
    rw [hdocument]
    exact hs.linked _ h.linked hparent
  document := by
    rw [hdocument, hscope, hs.profile?_of_lt h.document_lt]
    exact h.document
  sections c hc := by
    rw [hdocument]
    rcases hsections c hc with hc | hc
    · obtain ⟨hlt, hnext⟩ := h.sections c hc
      exact ⟨hlt, by rw [hs.nextNode]; exact Nat.lt_succ_of_lt hnext⟩
    · exact hc
  frames x hx := by
    rw [hdocument]
    rcases hframes x hx with hx | ⟨hx, hkind⟩
    · obtain ⟨hlt, qx, hqx, hkind⟩ := h.frames x hx
      exact ⟨hlt, qx, by rw [hs.profile?_of_lt (b.forest.lt_of_profile? hqx), hqx], hkind⟩
    · rw [hx]
      exact ⟨h.document_lt, q, hs.profile?_new, hkind⟩

end Steady

/-- A builder that has just begun its document is steady. -/
theorem start_steady (f : Forest) (path : String) (stop : Int) (origin : Origin)
    (source : List Char) (keywords : List String) (errors : List SyntaxError) :
    Steady (start f path stop origin source keywords errors) := by
  have hnew := f.node?_addNode_self
    (⟨.document { path, scope := f.nextScope }, ⟨0, stop⟩, none, none⟩ : Node)
  refine ⟨?_, ?_, ?_, ?_⟩
  · exact ((Forest.Linked.nextNode f).add rfl rfl).alike (.of_node? rfl fun _ => rfl)
  · exact ⟨_, Forest.profile?_of_node? _ hnew, rfl, rfl⟩
  · exact fun c hc => absurd hc List.not_mem_nil
  · exact fun x hx => absurd hx List.not_mem_nil

/-! ## Sections -/

variable (b : Builder)

/-- What can become of the node of a new section.  The section is opened for the node itself, unless
it counts as one that is there. -/
inductive Opened (path : Tree.Path) (t : Tree) (body : Body) (name : Option String) :
    Builder → NodeId → Option NodeId → Bool → Prop
  | refused (problem : DocumentProblem) : Opened path t body name
    { b with
      forest := (b.introduce t body).forest
      sections := ⟨path, b.forest.nextNode, body.scope?, false⟩ :: b.sections
      problems := b.problems ++ [problem] } b.forest.nextNode none false
  | twin {id : NodeId} {q : Profile} : id ∈ b.forest.parts b.current.node →
    b.forest.profile? id = some q → q.kind = body.kind → q.span = t.span → Opened path t body name
    { b with
      forest := b.nestScope (b.introduce t body).forest body.scope?
      sections := ⟨path, id, body.scope?, b.current.rooted⟩ :: b.sections } id none true
  | grafted {f g : Forest} :
    (b.introduce t body).forest.bind? b.forest.nextNode (b.bindingFor name) = .ok f →
    g.scopes = f.scopes → b.forest.Sprout g (body.profile t.span) (some b.current.node) →
    Opened path t body name
    { b with
      forest := b.nestScope g body.scope?
      sections := ⟨path, b.forest.nextNode, body.scope?, b.current.rooted⟩ :: b.sections }
      b.forest.nextNode (some b.current.node) true

variable {b}

theorem openNew_opened (h : Steady b) (path : Tree.Path) (t : Tree) {body : Body}
    (hparts : body.parts = []) (name : Option String) :
    ∃ id parent accepted,
      b.Opened path t body name (b.openNew path t body name) id parent accepted := by
  have hoffer := Forest.offer (b.introduce_forest t body) (b.introduce_node? t body) hparts rfl
    h.current.2 (fun x hx => h.lt_of_part h.current.1 hx) (b.bindingFor name)
  unfold openNew openSection
  dsimp only
  rw [introduce_current, introduce_currentScope]
  rw [bindingFor] at hoffer
  generalize (b.introduce t body).forest.attach b.current.node b.forest.nextNode _ = result
    at hoffer ⊢
  rw [introduce_eq]
  cases hoffer with
  | refused problem => exact ⟨_, _, _, .refused _⟩
  | twin hmem hq hkind hspan => exact ⟨_, _, _, .twin hmem hq hkind hspan⟩
  | grafted _ _ hbind hscopes hsprout => exact ⟨_, _, _, .grafted hbind hscopes hsprout⟩

namespace Opened

variable {path : Tree.Path} {t : Tree} {body : Body} {name : Option String} {b' : Builder}
  {id : NodeId} {parent : Option NodeId} {accepted : Bool}

theorem nestScope_scopes (b : Builder) (g : Forest) (scope : Option ScopeId) :
    g.Alike (b.nestScope g scope) := by
  unfold nestScope
  split
  · split
    · exact .of_node? rfl fun _ => rfl
    · exact .refl g
  · exact .refl g

/-- The node is new, and is put below the current section if it is put anywhere. -/
theorem sprout (ho : b.Opened path t body name b' id parent accepted) (hparts : body.parts = []) :
    b.forest.Sprout b'.forest (body.profile t.span) parent := by
  have hloose : b.forest.Sprout (b.introduce t body).forest (body.profile t.span) none :=
    Forest.sprout_loose (n := b.nodeOf t body) hparts rfl (b.introduce_forest t body)
  cases ho with
  | refused problem => exact hloose
  | twin _ _ _ _ => exact hloose.alike (nestScope_scopes b _ _)
  | grafted _ _ hsprout => exact hsprout.alike (nestScope_scopes b _ _)

theorem parent_eq (ho : b.Opened path t body name b' id parent accepted) {p : NodeId}
    (hp : parent = some p) : p = b.current.node := by
  cases ho with
  | grafted => exact (Option.some.inj hp).symm
  | _ => exact nomatch hp

theorem sections (ho : b.Opened path t body name b' id parent accepted) :
    b'.sections = ⟨path, id, body.scope?, accepted && b.current.rooted⟩ :: b.sections := by
  cases ho <;> rfl

theorem document (ho : b.Opened path t body name b' id parent accepted) :
    b'.document = b.document ∧ b'.scope = b.scope ∧ b'.keywords = b.keywords ∧
      b'.frames = b.frames := by
  cases ho <;> exact ⟨rfl, rfl, rfl, rfl⟩

theorem problems (ho : b.Opened path t body name b' id parent accepted) :
    b.problems <+: b'.problems := by
  cases ho with
  | refused problem => exact List.prefix_append _ _
  | _ => exact List.prefix_refl _

theorem node_lt (ho : b.Opened path t body name b' id parent accepted) (h : Steady b)
    (hparts : body.parts = []) : b.document < id ∧ id < b'.forest.nextNode := by
  rw [(ho.sprout hparts).nextNode]
  cases ho with
  | twin hmem _ _ _ =>
    have hlt := h.lt_of_part h.current.1 hmem
    have := (h.linked.parent_of_part _ _ h.current.1 hmem).2
    exact ⟨Nat.lt_of_le_of_lt h.current.1 this, Nat.lt_succ_of_lt hlt⟩
  | _ => exact ⟨h.document_lt, Nat.lt_succ_self _⟩

theorem steady (ho : b.Opened path t body name b' id parent accepted) (h : Steady b)
    (hparts : body.parts = []) : Steady b' := by
  obtain ⟨hdocument, hscope, -, hframes⟩ := ho.document
  refine h.sprout (ho.sprout hparts) (fun p hp => ?_) hdocument hscope (fun c hc => ?_)
    fun x hx => .inl (hframes ▸ hx)
  · rw [ho.parent_eq hp]
    exact h.current.1
  · rw [ho.sections] at hc
    rcases List.mem_cons.mp hc with rfl | hc
    · exact .inr (ho.node_lt h hparts)
    · exact .inl hc

end Opened

/-! ### Variables of scatters -/

theorem scopeOf?_eq (f : Forest) (id : NodeId) : (f.body? id).bind Body.scope? = f.scopeOf? id := by
  unfold Forest.scopeOf? Forest.profile? Forest.body?
  cases f.node? id <;> rfl

/-- What becomes of the variable of a scatter, if there is one to bind. -/
inductive Named (b : Builder) (loopName? : Option String) : Builder → Prop
  | nothing : loopName? = none ∨ b.current.rooted = false ∨
    b.forest.scopeOf? b.current.node = none → Named b loopName? b
  | refused {own : ScopeId} {name : String} {p : Problem} : loopName? = some name →
    b.current.rooted = true → b.forest.scopeOf? b.current.node = some own →
    b.forest.define own name b.current.node = .error p →
    Named b loopName? (b.report p b.current.node)
  | bound {own : ScopeId} {name : String} {g : Forest} : loopName? = some name →
    b.current.rooted = true → b.forest.scopeOf? b.current.node = some own →
    b.forest.define own name b.current.node = .ok g → Named b loopName? { b with forest := g }

theorem bindVariable_named (b : Builder) (loopName? : Option String) :
    b.Named loopName? (b.bindVariable loopName?) := by
  unfold bindVariable
  split
  · exact .nothing (.inl rfl)
  · next name =>
    dsimp only
    rw [scopeOf?_eq]
    split
    · next hrooted =>
      split
      · next own hown =>
        cases hdefine : b.forest.define own name b.current.node with
        | error p => exact .refused rfl hrooted hown hdefine
        | ok g => exact .bound rfl hrooted hown hdefine
      · next hnone => exact .nothing (.inr (.inr hnone))
    · next hrooted => exact .nothing (.inr (.inl (Bool.eq_false_iff.mpr hrooted)))

namespace Named

variable {b' : Builder} {loopName? : Option String}

theorem alike (hn : b.Named loopName? b') : b.forest.Alike b'.forest := by
  cases hn with
  | bound _ _ _ hdefine =>
    rw [(Forest.define_ok hdefine).2.2]
    exact .of_node? rfl fun _ => rfl
  | _ => exact .refl _

theorem fields (hn : b.Named loopName? b') : b'.document = b.document ∧ b'.scope = b.scope ∧
    b'.keywords = b.keywords ∧ b'.sections = b.sections ∧ b'.frames = b.frames := by
  cases hn <;> exact ⟨rfl, rfl, rfl, rfl, rfl⟩

theorem problems (hn : b.Named loopName? b') : b.problems <+: b'.problems := by
  cases hn with
  | refused => exact List.prefix_append _ _
  | _ => exact List.prefix_refl _

theorem steady (hn : b.Named loopName? b') (h : Steady b) : Steady b' := by
  obtain ⟨hdocument, hscope, -, hsections, hframes⟩ := hn.fields
  exact h.shrink hn.alike hdocument hscope (by rw [hsections]; exact fun _ => id)
    (by rw [hframes]; exact fun _ => id)

end Named

/-! ## Imports and metadata -/

/-- What can become of a node that no section is opened for. -/
inductive Leafed (b : Builder) (t : Tree) (body : Body) (binding : Option (ScopeId × String)) :
    Builder → Option NodeId → Prop
  | refused (problem : DocumentProblem) : Leafed b t body binding
    { b.addNode t body with problems := b.problems ++ [problem] } none
  | twin {id : NodeId} {q : Profile} : id ∈ b.forest.parts b.current.node →
    b.forest.profile? id = some q → q.kind = body.kind → q.span = t.span →
    Leafed b t body binding (b.addNode t body) none
  | grafted {f g : Forest} {above : Body} {span : Span} :
    b.forest.profile? b.current.node = some (above.profile span) →
    above.accepts body.kind = true →
    (b.addNode t body).forest.bind? b.forest.nextNode binding = .ok f → g.scopes = f.scopes →
    b.forest.Sprout g (body.profile t.span) (some b.current.node) →
    Leafed b t body binding { b with forest := g } (some b.current.node)

theorem attachLeaf_leafed (h : Steady b) (t : Tree) (body : Body) (hparts : body.parts = [])
    (binding : Option (ScopeId × String)) : ∃ parent,
      b.Leafed t body binding ((b.addNode t body).attachLeaf b.forest.nextNode binding) parent := by
  have hoffer := Forest.offer (n := b.nodeOf t body) (.refl (b.forest.addNode (b.nodeOf t body)))
    (b.forest.node?_addNode_self (b.nodeOf t body)) hparts rfl h.current.2
    (fun x hx => h.lt_of_part h.current.1 hx) binding
  unfold attachLeaf
  generalize hresult : (b.addNode t body).forest.attach (b.addNode t body).current.node
    b.forest.nextNode binding = result
  change (b.forest.addNode (b.nodeOf t body)).attach b.current.node _ _ = _ at hresult
  rw [hresult] at hoffer
  cases hoffer with
  | refused problem => exact ⟨_, .refused _⟩
  | twin hmem hq hkind hspan => exact ⟨_, .twin hmem hq hkind hspan⟩
  | grafted hq haccepts hbind hscopes hsprout =>
    exact ⟨_, .grafted hq haccepts hbind hscopes hsprout⟩

namespace Leafed

variable {t : Tree} {body : Body} {binding : Option (ScopeId × String)} {b' : Builder}
  {parent : Option NodeId}

theorem sprout (hl : b.Leafed t body binding b' parent) (hparts : body.parts = []) :
    b.forest.Sprout b'.forest (body.profile t.span) parent := by
  have hloose : b.forest.Sprout (b.addNode t body).forest (body.profile t.span) none :=
    Forest.sprout_loose (n := b.nodeOf t body) hparts rfl (.refl _)
  cases hl with
  | refused | twin => exact hloose
  | grafted _ _ _ _ hsprout => exact hsprout

theorem parent_eq (hl : b.Leafed t body binding b' parent) {p : NodeId} (hp : parent = some p) :
    p = b.current.node := by
  cases hl with
  | grafted => exact (Option.some.inj hp).symm
  | _ => exact nomatch hp

theorem fields (hl : b.Leafed t body binding b' parent) : b'.document = b.document ∧
    b'.scope = b.scope ∧ b'.keywords = b.keywords ∧ b'.sections = b.sections ∧
    b'.frames = b.frames := by
  cases hl <;> exact ⟨rfl, rfl, rfl, rfl, rfl⟩

theorem problems (hl : b.Leafed t body binding b' parent) : b.problems <+: b'.problems := by
  cases hl with
  | refused => exact List.prefix_append _ _
  | _ => exact List.prefix_refl _

theorem steady (hl : b.Leafed t body binding b' parent) (h : Steady b) (hparts : body.parts = []) :
    Steady b' := by
  obtain ⟨hdocument, hscope, -, hsections, hframes⟩ := hl.fields
  refine h.sprout (hl.sprout hparts) (fun p hp => ?_) hdocument hscope
    (fun c hc => .inl (hsections ▸ hc)) fun x hx => .inl (hframes ▸ hx)
  rw [hl.parent_eq hp]
  exact h.current.1

end Leafed

/-! ## Expressions -/

/-- The node that a new expression is offered to. -/
def host (b : Builder) : NodeId :=
  match b.frames with
  | frame :: _ => frame.node
  | [] => b.current.node

/-- What a new expression is, before it has items. -/
def exprProfile (t : Tree) : Profile :=
  (Body.expression {}).profile t.span

/-- What can become of a new expression. -/
inductive Hosted (b b' : Builder) (t : Tree) : Option NodeId → Prop
  | refused : b'.problems ≠ b.problems → Hosted b b' t none
  | twin {id : NodeId} {q : Profile} : id ∈ b.forest.parts b.host → b.forest.profile? id = some q →
    q.kind = .expression → q.span = t.span → Hosted b b' t none
  | alone : b.frames = [] → b.forest.kind? b.current.node = some .document → Hosted b b' t none
  | grafted : Hosted b b' t (some b.host)

/-- An expression is begun: a node is added, and put below `parent` if one is given. -/
structure Begun (b b' : Builder) (path : Tree.Path) (t : Tree) (parent : Option NodeId) : Prop where
  sprout : b.forest.Sprout b'.forest (exprProfile t) parent
  scopes : b'.forest.scopes = b.forest.scopes
  document : b'.document = b.document
  scope : b'.scope = b.scope
  keywords : b'.keywords = b.keywords
  sections : b'.sections = b.sections
  frames : b'.frames.map Frame.place = (path, b.forest.nextNode) :: b.frames.map Frame.place
  problems : b.problems <+: b'.problems
  hosted : Hosted b b' t parent

theorem Steady.host (h : Steady b) : b.document ≤ b.host ∧ b.host < b.forest.nextNode := by
  unfold Builder.host
  split
  · next frame outer hframes =>
    obtain ⟨hlt, q, hq, -⟩ := h.frames frame.place (by rw [hframes]; exact List.mem_cons_self)
    exact ⟨Nat.le_of_lt hlt, b.forest.lt_of_profile? hq⟩
  · exact h.current

/-- An expression never refuses another. -/
theorem attach_expression_ok {f : Forest} {p c : Node} {parent child : NodeId}
    (hp : f.node? parent = some p) (hkind : p.kind = .expression) (hc : f.node? child = some c)
    (hchild : c.kind = .expression) (problem : Problem) :
    f.attach parent child none ≠ .error problem := by
  obtain ⟨body, span, position, above⟩ := p
  obtain ⟨cbody, cspan, cposition, cabove⟩ := c
  cases body with
  | expression e =>
    cases cbody with
    | expression x =>
      unfold Forest.attach
      rw [hp, hc]
      intro h
      have haccepts : (Body.expression e).accepts
          (Node.kind ⟨.expression x, cspan, cposition, cabove⟩) = true := rfl
      dsimp only at h
      rw [haccepts, Bool.not_true, if_neg Bool.false_ne_true] at h
      split at h
      · cases h
      · cases h
    | region r => cases hv : r.loopVariable <;> simp [Node.kind, Body.kind, hv] at hchild
    | _ => cases hchild
  | region r => cases hv : r.loopVariable <;> simp [Node.kind, Body.kind, hv] at hkind
  | _ => cases hkind

theorem beginExpr_begun (h : Steady b) (path : Tree.Path) (t : Tree) :
    ∃ parent, Begun b (b.beginExpr path t) path t parent := by
  have hnode := b.forest.node?_addNode_self (b.nodeOf t (.expression {}))
  have hloose : b.forest.Sprout (b.forest.addNode (b.nodeOf t (.expression {}))) (exprProfile t)
      none := Forest.sprout_loose (n := b.nodeOf t (.expression {})) rfl rfl (.refl _)
  have hoffer := Forest.offer (n := b.nodeOf t (.expression {})) (.refl _) hnode rfl rfl h.host.2
    (fun x hx => h.lt_of_part h.host.1 hx) none
  cases hframes : b.frames with
  | cons frame outer =>
    have hhost : b.host = frame.node := by rw [host, hframes]
    have hbegin := b.beginExpr_inside hframes path t
    unfold graft at hbegin
    have hplaces : (b.beginExpr path t).frames.map Frame.place =
        (path, b.forest.nextNode) :: b.frames.map Frame.place := by
      rw [hbegin, hframes]
      rfl
    rw [hhost] at hoffer
    rw [hbegin] at hplaces ⊢
    generalize hresult : (b.addNode t (.expression {})).forest.attach frame.node
      b.forest.nextNode none = result at hplaces ⊢
    change (b.forest.addNode (b.nodeOf t (.expression {}))).attach _ _ _ = _ at hresult
    rw [hresult] at hoffer
    cases hoffer with
    | refused problem =>
      exfalso
      have hmem : frame.place ∈ b.frames.map Frame.place := by
        rw [hframes]
        exact List.mem_cons_self
      obtain ⟨-, q, hq, hkind⟩ := h.frames frame.place hmem
      obtain ⟨n, hn, rfl⟩ := Option.map_eq_some_iff.mp hq
      have hn' : (b.forest.addNode (b.nodeOf t (.expression {}))).node? frame.node = some n := by
        have hlt : frame.node < b.forest.nextNode := b.forest.lt_of_node? hn
        rw [Forest.node?_addNode, if_neg (Nat.ne_of_lt hlt)]
        exact hn
      exact attach_expression_ok hn' hkind hnode rfl problem hresult
    | twin hmem hq hkind hspan =>
      exact ⟨none, hloose, rfl, rfl, rfl, rfl, rfl, hplaces, List.prefix_refl _,
        .twin (hhost ▸ hmem) hq hkind hspan⟩
    | grafted _ _ hbind hscopes hsprout =>
      refine ⟨some frame.node, hsprout, ?_, rfl, rfl, rfl, rfl, hplaces, List.prefix_refl _,
        hhost ▸ .grafted⟩
      dsimp only
      rw [hscopes, ← Except.ok.inj hbind]
      rfl
  | nil =>
    have hhost : b.host = b.current.node := by rw [host, hframes]
    have hkind : (b.forest.addNode (b.nodeOf t (.expression {}))).kind? b.current.node =
        b.forest.kind? b.current.node := by
      rw [Forest.kind?, Forest.node?_addNode, if_neg (Nat.ne_of_lt h.current.2), Forest.kind?]
    have hbegin := b.beginExpr_outside hframes path t
    unfold attachLeaf at hbegin
    rw [hhost] at hoffer
    rw [hbegin]
    dsimp only
    split
    · next hdoc =>
      refine ⟨none, hloose, rfl, rfl, rfl, rfl, rfl, by rw [hframes]; rfl, List.prefix_refl _,
        .alone hframes ?_⟩
      have hdoc : ((b.forest.addNode (b.nodeOf t (.expression {}))).kind? b.current.node).getD
          .document = .document := eq_of_beq hdoc
      obtain ⟨n, hn⟩ := b.forest.exists_node? h.current.2
      rw [hkind, Forest.kind?, hn] at hdoc
      rw [Forest.kind?, hn]
      exact congrArg some hdoc
    · generalize hresult : Forest.attach _ _ _ _ = result
      change (b.forest.addNode (b.nodeOf t (.expression {}))).attach b.current.node _ _ = _ at hresult
      rw [hresult] at hoffer
      cases hoffer with
      | refused problem =>
        exact ⟨none, hloose, rfl, rfl, rfl, rfl, rfl, by rw [hframes]; rfl,
          List.prefix_append _ _, .refused (by simp [report, addNode])⟩
      | twin hmem hq hkind hspan =>
        exact ⟨none, hloose, rfl, rfl, rfl, rfl, rfl, by rw [hframes]; rfl, List.prefix_refl _,
          .twin (hhost ▸ hmem) hq hkind hspan⟩
      | grafted _ _ hbind hscopes hsprout =>
        refine ⟨some b.current.node, hsprout, ?_, rfl, rfl, rfl, rfl, by rw [hframes]; rfl,
          List.prefix_refl _, hhost ▸ .grafted⟩
        dsimp only
        rw [hscopes, ← Except.ok.inj hbind]
        rfl

theorem Begun.parent_eq {b' : Builder} {path : Tree.Path} {t : Tree} {parent : Option NodeId}
    (hb : Begun b b' path t parent) {p : NodeId} (hp : parent = some p) : p = b.host := by
  cases hb.hosted with
  | grafted => exact (Option.some.inj hp).symm
  | _ => exact nomatch hp

theorem Begun.steady {b' : Builder} {path : Tree.Path} {t : Tree} {parent : Option NodeId}
    (hb : Begun b b' path t parent) (h : Steady b) : Steady b' := by
  refine h.sprout hb.sprout (fun p hp => ?_) hb.document hb.scope
    (fun c hc => .inl (hb.sections ▸ hc)) fun x hx => ?_
  · rw [hb.parent_eq hp]
    exact h.host.1
  · rw [hb.frames] at hx
    rcases List.mem_cons.mp hx with rfl | hx
    · exact .inr ⟨rfl, rfl⟩
    · exact .inl hx

end Builder
end Wdl
