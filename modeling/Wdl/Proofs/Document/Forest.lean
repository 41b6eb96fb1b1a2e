import Wdl.Document.Attach

/-!
Reading a forest after it has changed.

Every change of a forest is made of a few: a node or a scope is added at the end, or one that is
there is changed in its place.  The lemmas here say what each of them leaves of the nodes, of the
scopes and of the compiled expressions.

`Attached` lists the ways in which `Forest.attach` succeeds.  Of these only one changes the forest:
the name is bound, if there is one, and the node is adopted.
-/

namespace Wdl
namespace Forest

variable (f : Forest)

/-! ## Numbers -/

@[simp] theorem nextNode_addNode (n : Node) : (f.addNode n).nextNode = f.nextNode + 1 := by
  simp [addNode, nextNode]

@[simp] theorem nextNode_addScope (s : Scope) : (f.addScope s).nextNode = f.nextNode := rfl

@[simp] theorem nextNode_addScoped (body : ScopeId → Body) (span : Span)
    (position : Option Position) :
    (f.addScoped body span position).nextNode = f.nextNode + 1 := by
  simp [addScoped]

@[simp] theorem nextNode_modifyNode (id : NodeId) (g : Node → Node) :
    (f.modifyNode id g).nextNode = f.nextNode := by
  simp [modifyNode, nextNode]

@[simp] theorem nextNode_modifyBody (id : NodeId) (g : Body → Body) :
    (f.modifyBody id g).nextNode = f.nextNode :=
  nextNode_modifyNode f id _

@[simp] theorem nextNode_modifyScope (id : ScopeId) (g : Scope → Scope) :
    (f.modifyScope id g).nextNode = f.nextNode := rfl

@[simp] theorem nextNode_pushScope (parent child : ScopeId) :
    (f.pushScope parent child).nextNode = f.nextNode := rfl

@[simp] theorem nextScope_addNode (n : Node) : (f.addNode n).nextScope = f.nextScope := rfl

@[simp] theorem nextScope_addScope (s : Scope) : (f.addScope s).nextScope = f.nextScope + 1 := by
  simp [addScope, nextScope]

@[simp] theorem nextScope_addScoped (body : ScopeId → Body) (span : Span)
    (position : Option Position) :
    (f.addScoped body span position).nextScope = f.nextScope + 1 := by
  simp [addScoped]

@[simp] theorem nextScope_modifyNode (id : NodeId) (g : Node → Node) :
    (f.modifyNode id g).nextScope = f.nextScope := rfl

@[simp] theorem nextScope_modifyBody (id : NodeId) (g : Body → Body) :
    (f.modifyBody id g).nextScope = f.nextScope := rfl

@[simp] theorem nextScope_modifyScope (id : ScopeId) (g : Scope → Scope) :
    (f.modifyScope id g).nextScope = f.nextScope := by
  simp [modifyScope, nextScope]

@[simp] theorem nextScope_pushScope (parent child : ScopeId) :
    (f.pushScope parent child).nextScope = f.nextScope := by
  simp [pushScope]

/-! ## Nodes -/

theorem node?_eq_none_iff {id : NodeId} : f.node? id = none ↔ f.nextNode ≤ id := by
  simp [node?, nextNode]

theorem lt_of_node? {id : NodeId} {n : Node} (h : f.node? id = some n) : id < f.nextNode := by
  refine Nat.lt_of_not_le fun hle => ?_
  rw [(node?_eq_none_iff f).mpr hle] at h
  exact absurd h (Option.some_ne_none n).symm

variable {f} in
theorem lt_of_kind? {id : NodeId} {k : Kind} (h : f.kind? id = some k) : id < f.nextNode := by
  obtain ⟨n, hn, -⟩ := Option.map_eq_some_iff.mp h
  exact f.lt_of_node? hn

theorem exists_node? {id : NodeId} (h : id < f.nextNode) : ∃ n, f.node? id = some n :=
  ⟨f.nodes[id], Array.getElem?_eq_getElem h⟩

theorem node?_addNode (n : Node) (id : NodeId) :
    (f.addNode n).node? id = if id = f.nextNode then some n else f.node? id :=
  Array.getElem?_push

@[simp] theorem node?_addNode_self (n : Node) : (f.addNode n).node? f.nextNode = some n := by
  simp [node?_addNode]

theorem node?_addNode_of_lt (n : Node) {id : NodeId} (h : id < f.nextNode) :
    (f.addNode n).node? id = f.node? id := by
  rw [node?_addNode, if_neg (Nat.ne_of_lt h)]

@[simp] theorem node?_addScope (s : Scope) (id : NodeId) :
    (f.addScope s).node? id = f.node? id := rfl

theorem node?_addScoped (body : ScopeId → Body) (span : Span) (position : Option Position)
    (id : NodeId) :
    (f.addScoped body span position).node? id =
      if id = f.nextNode then some ⟨body f.nextScope, span, position, none⟩ else f.node? id := by
  simp [addScoped, node?_addNode]

theorem node?_modifyNode (id : NodeId) (g : Node → Node) (j : NodeId) :
    (f.modifyNode id g).node? j = if id = j then (f.node? j).map g else f.node? j := by
  simp [modifyNode, node?, Array.getElem?_modify]

theorem node?_modifyBody (id : NodeId) (g : Body → Body) (j : NodeId) :
    (f.modifyBody id g).node? j =
      if id = j then (f.node? j).map fun n => { n with body := g n.body } else f.node? j :=
  node?_modifyNode f id _ j

@[simp] theorem node?_modifyScope (id : ScopeId) (g : Scope → Scope) (j : NodeId) :
    (f.modifyScope id g).node? j = f.node? j := rfl

@[simp] theorem node?_pushScope (parent child : ScopeId) (id : NodeId) :
    (f.pushScope parent child).node? id = f.node? id := rfl

/-! ## Scopes -/

@[simp] theorem scope?_addNode (n : Node) (s : ScopeId) : (f.addNode n).scope? s = f.scope? s := rfl

theorem scope?_addScope (sc : Scope) (s : ScopeId) :
    (f.addScope sc).scope? s = if s = f.nextScope then some sc else f.scope? s :=
  Array.getElem?_push

theorem scope?_addScoped (body : ScopeId → Body) (span : Span) (position : Option Position)
    (s : ScopeId) :
    (f.addScoped body span position).scope? s =
      if s = f.nextScope then some { node := some f.nextNode } else f.scope? s :=
  scope?_addScope _ _ s

@[simp] theorem scope?_modifyNode (id : NodeId) (g : Node → Node) (s : ScopeId) :
    (f.modifyNode id g).scope? s = f.scope? s := rfl

@[simp] theorem scope?_modifyBody (id : NodeId) (g : Body → Body) (s : ScopeId) :
    (f.modifyBody id g).scope? s = f.scope? s := rfl

theorem scope?_modifyScope (id : ScopeId) (g : Scope → Scope) (s : ScopeId) :
    (f.modifyScope id g).scope? s = if id = s then (f.scope? s).map g else f.scope? s := by
  simp [modifyScope, scope?, Array.getElem?_modify]

/-! ## Compiled expressions

A compiled expression is read from its node alone, so a change that keeps what nodes compile to
keeps all of them. -/

theorem expr?_eq (id : NodeId) :
    f.expr? id = ((f.node? id).bind Node.expr?).map
      fun e => { e with info := { e.info with node := some id } } := by
  unfold expr?
  cases (f.node? id).bind Node.expr? <;> rfl

theorem lt_of_expr? {id : NodeId} {e : Expr} (h : f.expr? id = some e) : id < f.nextNode := by
  rw [expr?_eq] at h
  cases hn : f.node? id with
  | none => simp [hn] at h
  | some n => exact lt_of_node? f hn

theorem expr?_congr {f g : Forest} {id : NodeId}
    (h : (g.node? id).bind Node.expr? = (f.node? id).bind Node.expr?) : g.expr? id = f.expr? id := by
  rw [expr?_eq, expr?_eq, h]

theorem expr?_addNode_of_lt (n : Node) {id : NodeId} (h : id < f.nextNode) :
    (f.addNode n).expr? id = f.expr? id :=
  expr?_congr (by rw [node?_addNode_of_lt f n h])

theorem expr?_modifyNode (id : NodeId) {g : Node → Node} (hg : ∀ n, (g n).expr? = n.expr?)
    (j : NodeId) : (f.modifyNode id g).expr? j = f.expr? j := by
  refine expr?_congr ?_
  rw [node?_modifyNode]
  split
  · cases f.node? j with
    | none => rfl
    | some n => exact hg n
  · rfl

theorem expr?_modifyBody (id : NodeId) {g : Body → Body}
    (hg : ∀ n : Node, ({ n with body := g n.body } : Node).expr? = n.expr?) (j : NodeId) :
    (f.modifyBody id g).expr? j = f.expr? j :=
  expr?_modifyNode f id hg j

theorem expr?_modifyBody_of_ne {id : NodeId} {g : Body → Body} {j : NodeId} (h : id ≠ j) :
    (f.modifyBody id g).expr? j = f.expr? j :=
  expr?_congr (by rw [node?_modifyBody, if_neg h])

end Forest
end Wdl

/-! ## What attaching a node does -/

namespace Wdl

/-! ## Bodies -/

/-- A node with a new one below it compiles to the same expression. -/
theorem Node.expr?_adopt (n : Node) (id : NodeId) (child : Body) :
    ({ n with body := n.body.adopt id child } : Node).expr? = n.expr? := by
  obtain ⟨body, span, position, parent⟩ := n
  cases body <;> cases child <;> rfl

theorem Node.expr?_file (n : Node) (k : BlockKind) (id : NodeId) (item : Body) :
    ({ n with body := n.body.file k id item } : Node).expr? = n.expr? := by
  obtain ⟨body, span, position, parent⟩ := n
  cases body <;> rfl

namespace Forest

variable {f g : Forest} {parent child id : NodeId}

/-! ## Bindings -/

theorem define_ok {s : ScopeId} {name : String} (h : f.define s name child = .ok g) :
    name.isEmpty = false ∧ Assoc.contains name ((f.scope? s).getD {}).symbols = false ∧
      g = f.modifyScope s fun sc => { sc with symbols := sc.symbols ++ [(name, child)] } := by
  unfold define at h
  dsimp only at h
  split at h
  · cases h
  · next hname =>
    split at h
    · cases h
    · next hbound =>
      exact ⟨Bool.eq_false_iff.mpr hname, Bool.eq_false_iff.mpr hbound, (Except.ok.inj h).symm⟩

/-- Binds the name of a node, if it is to have one. -/
def bind? (f : Forest) (child : NodeId) : Option (ScopeId × String) → Except Problem Forest
  | some (s, name) => f.define s name child
  | none => .ok f

theorem bind?_node? {binding : Option (ScopeId × String)} (h : f.bind? child binding = .ok g)
    (j : NodeId) : g.node? j = f.node? j := by
  cases binding with
  | none => rw [Except.ok.inj h]
  | some b =>
    rw [(define_ok h).2.2]
    rfl

theorem bind?_nextNode {binding : Option (ScopeId × String)} (h : f.bind? child binding = .ok g) :
    g.nextNode = f.nextNode := by
  cases binding with
  | none => rw [Except.ok.inj h]
  | some b =>
    rw [(define_ok h).2.2]
    rfl

/-! ## Attaching -/

/-- The outcome of attaching a node. -/
inductive Attached (f : Forest) (parent child : NodeId) (binding : Option (ScopeId × String)) :
    Forest → NodeId → Prop
  /-- there is nothing to attach, or nothing to attach it to -/
  | absent : f.node? parent = none ∨ f.node? child = none → Attached f parent child binding f child
  /-- the node counts as one that is there already -/
  | twin {c : Node} {id : NodeId} : f.node? child = some c → f.twin? parent c = some id →
    Attached f parent child binding f id
  | adopted {p c : Node} {g : Forest} : f.node? parent = some p → f.node? child = some c →
    p.body.accepts c.kind = true → f.twin? parent c = none → f.objection? p.body c.body = none →
      f.bind? child binding = .ok g → Attached f parent child binding (g.adopt parent p child c) child

theorem attached_of_ok {binding : Option (ScopeId × String)}
    (h : f.attach parent child binding = .ok (g, id)) : Attached f parent child binding g id := by
  unfold attach at h
  split at h
  · next p c hp hc =>
    split at h
    · cases h
    · next haccepts =>
      split at h
      · next twin htwin =>
        obtain ⟨rfl, rfl⟩ := Prod.mk.inj (Except.ok.inj h)
        exact .twin hc htwin
      · next htwin =>
        split at h
        · cases h
        · next hobjection =>
          have hbind : ∃ g', f.bind? child binding = .ok g' ∧
              (g'.adopt parent p child c, child) = (g, id) := by
            cases binding with
            | none => exact ⟨f, rfl, Except.ok.inj h⟩
            | some b =>
              obtain ⟨s, name⟩ := b
              cases hdefine : f.define s name child with
              | error e =>
                simp only [hdefine] at h
                cases h
              | ok g' =>
                simp only [hdefine] at h
                exact ⟨g', hdefine, Except.ok.inj h⟩
          obtain ⟨g', hbind, heq⟩ := hbind
          obtain ⟨rfl, rfl⟩ := Prod.mk.inj heq
          have haccepts : p.body.accepts c.kind = true := by simpa using haccepts
          exact .adopted hp hc haccepts htwin hobjection hbind
  · next hmissing =>
    obtain ⟨rfl, rfl⟩ := Prod.mk.inj (Except.ok.inj h)
    refine .absent ?_
    cases hp : f.node? parent with
    | none => exact .inl rfl
    | some p =>
      cases hc : f.node? child with
      | none => exact .inr rfl
      | some c => exact absurd hc (hmissing p c hp)

/-! ## Adopting

Adopting a node changes the body of its parent, then lists the contents of a block in tasks and
workflows, and then links the node to its parent. -/

/-- An item of a block, and the task or workflow that lists it. -/
structure Filing where
  owner : NodeId
  kind : BlockKind
  id : NodeId
  item : Body

def fileAll (f : Forest) (filings : List Filing) : Forest :=
  filings.foldl (fun f x => f.modifyBody x.owner fun b => b.file x.kind x.id x.item) f

/-- Lists all items of a block. -/
def fileItems (f : Forest) (owner : NodeId) (k : BlockKind) (ids : List NodeId) : Forest :=
  ids.foldl
    (fun f id =>
      match f.body? id with
      | some item => f.modifyBody owner fun b => b.file k id item
      | none => f)
    f

theorem fileItems_eq (f : Forest) (owner : NodeId) (k : BlockKind) (ids : List NodeId) :
    ∃ filings, f.fileItems owner k ids = f.fileAll filings := by
  induction ids generalizing f with
  | nil => exact ⟨[], rfl⟩
  | cons id ids ih =>
    cases hid : f.body? id with
    | none =>
      obtain ⟨filings, h⟩ := ih f
      refine ⟨filings, Eq.trans ?_ h⟩
      simp only [fileItems, List.foldl_cons, hid]
    | some item =>
      obtain ⟨filings, h⟩ := ih (f.modifyBody owner fun b => b.file k id item)
      refine ⟨⟨owner, k, id, item⟩ :: filings, Eq.trans ?_ h⟩
      simp only [fileItems, List.foldl_cons, hid]

theorem adopt_eq (f : Forest) (parent : NodeId) (p : Node) (child : NodeId) (c : Node) :
    ∃ filings, f.adopt parent p child c =
      ((f.modifyBody parent fun b => b.adopt child c.body).fileAll filings).modifyNode child
        fun n => { n with parent := some parent } := by
  unfold adopt
  dsimp only
  split
  · next k _ _ =>
    split
    · next owner _ => exact ⟨[⟨owner, k, child, c.body⟩], rfl⟩
    · exact ⟨[], rfl⟩
  · next k items _ _ =>
    obtain ⟨filings, h⟩ :=
      fileItems_eq (f.modifyBody parent fun b => b.adopt child c.body) parent k items
    exact ⟨filings, congrArg (modifyNode · child _) h⟩
  · exact ⟨[], rfl⟩

theorem fileAll_nextNode (filings : List Filing) (f : Forest) :
    (f.fileAll filings).nextNode = f.nextNode := by
  induction filings generalizing f with
  | nil => rfl
  | cons x xs ih => exact (ih _).trans (nextNode_modifyBody ..)

theorem fileAll_expr? (filings : List Filing) (f : Forest) (j : NodeId) :
    (f.fileAll filings).expr? j = f.expr? j := by
  induction filings generalizing f with
  | nil => rfl
  | cons x xs ih =>
    exact (ih _).trans (expr?_modifyBody f _ (fun n => n.expr?_file x.kind x.id x.item) j)

theorem adopt_nextNode (f : Forest) (parent : NodeId) (p : Node) (child : NodeId) (c : Node) :
    (f.adopt parent p child c).nextNode = f.nextNode := by
  obtain ⟨filings, h⟩ := adopt_eq f parent p child c
  rw [h, nextNode_modifyNode, fileAll_nextNode, nextNode_modifyBody]

theorem adopt_expr? (f : Forest) (parent : NodeId) (p : Node) (child : NodeId) (c : Node)
    (j : NodeId) : (f.adopt parent p child c).expr? j = f.expr? j := by
  obtain ⟨filings, h⟩ := adopt_eq f parent p child c
  rw [h]
  refine (expr?_modifyNode _ child (fun n => ?_) j).trans ((fileAll_expr? _ _ j).trans ?_)
  · rfl
  · exact expr?_modifyBody f _ (fun n => n.expr?_adopt child c.body) j

/-- Attaching a node changes no compiled expression. -/
theorem attach_expr? {binding : Option (ScopeId × String)}
    (h : f.attach parent child binding = .ok (g, id)) (j : NodeId) : g.expr? j = f.expr? j := by
  cases attached_of_ok h with
  | absent => rfl
  | twin => rfl
  | adopted _ _ _ _ _ hbind =>
    rw [adopt_expr?]
    exact expr?_congr (by rw [bind?_node? hbind])

theorem attach_nextNode {binding : Option (ScopeId × String)}
    (h : f.attach parent child binding = .ok (g, id)) : g.nextNode = f.nextNode := by
  cases attached_of_ok h with
  | absent => rfl
  | twin => rfl
  | adopted _ _ _ _ _ hbind => rw [adopt_nextNode, bind?_nextNode hbind]

end Forest
end Wdl
