import Wdl.Proofs.Document.Forest

/-!
Nodes and the links between them.

What a node is apart from its links is its profile, and nothing changes it once the node is there:
it is settled by what the node was made with.  The links go both ways: a node lists its parts, and a
part names its parent.  `Linked` says that the two agree.  A new node has no links, and the only way
to get any is to be grafted onto another.
-/

namespace Wdl

/-- The name under which a node is bound in the scope around it. -/
def Body.symbol? : Body → Option String
  | .importDoc i => some i.namespaceName
  | .declaration d => some d.name
  | .struct s => some s.name
  | .task x _ => some x.name
  | .workflow x _ => some x.name
  | .call c => some c.name
  | _ => none

/-- The name under which a node is bound in its own scope. -/
def Body.loopName? : Body → Option String
  | .region r => r.loopVariable
  | _ => none

/-- What a task or workflow has before anything is put into it. -/
def Executable.made (x : Executable) : Executable where
  name := x.name
  scope := x.scope
  rawElements := x.rawElements

/-- What a node is made with, before it takes in others or is given what comes later. -/
def Body.made : Body → Body
  | .document d => .document { path := d.path, scope := d.scope }
  | .importDoc i => .importDoc i
  | .declaration d => .declaration { name := d.name, type := d.type }
  | .struct s => .struct { name := s.name }
  | .entry e => .entry { key := e.key, value := e.value }
  | .block k _ => .block k []
  | .task x _ => .task x.made {}
  | .workflow x _ => .workflow x.made {}
  | .call c => .call { target := c.target, nickname := c.nickname, afters := c.afters }
  | .region r => .region { loopVariable := r.loopVariable, scope := r.scope }
  | .expression _ => .expression {}

/-- What a node is, apart from its links to others. -/
structure Profile where
  kind : Kind
  isStruct : Bool
  symbol : Option String
  loopVariable : Option String
  scope : Option ScopeId
  sortsParts : Bool
  span : Span

def Body.profile (b : Body) (span : Span) : Profile :=
  ⟨b.kind, b.isStruct, b.symbol?, b.loopName?, b.scope?, b.sortsParts, span⟩

def Node.profile (n : Node) : Profile :=
  n.body.profile n.span

/-! ## Bodies -/

theorem Body.made_adopt (b : Body) (id : NodeId) (child : Body) :
    (b.adopt id child).made = b.made := by
  cases b <;> cases child <;> rfl

theorem Body.made_file (b : Body) (k : BlockKind) (id : NodeId) (item : Body) :
    (b.file k id item).made = b.made := by
  cases b with
  | task x t => cases k <;> cases item <;> rfl
  | workflow x w => cases k <;> cases item <;> rfl
  | _ => rfl

/-- The profile of a node is settled when it is made. -/
theorem Body.profile_made (b : Body) (span : Span) : b.made.profile span = b.profile span := by
  cases b <;> rfl

theorem Body.profile_of_made {b b' : Body} (h : b'.made = b.made) (span : Span) :
    b'.profile span = b.profile span := by
  rw [← b'.profile_made, h, b.profile_made]

theorem Body.parts_file (b : Body) (k : BlockKind) (id : NodeId) (item : Body) :
    (b.file k id item).parts = b.parts := by
  cases b with
  | task x t => cases k <;> cases item <;> rfl
  | workflow x w => cases k <;> cases item <;> rfl
  | _ => rfl

/-- A key that had no value and gets one adds it to the values. -/
theorem perm_filterMap_update {α β : Type} [DecidableEq α] {g : α → Option β} {k : α}
    (hg : g k = none) (v : β) (ks : List α) (hk : k ∈ ks) (hnodup : ks.Nodup) :
    (ks.filterMap fun k' => if k' = k then some v else g k').Perm (ks.filterMap g ++ [v]) := by
  induction ks with
  | nil => exact absurd hk List.not_mem_nil
  | cons k' ks ih =>
    obtain ⟨hnew, hrest⟩ := List.nodup_cons.mp hnodup
    by_cases heq : k' = k
    · subst heq
      have hsame : (ks.filterMap fun k => if k = k' then some v else g k) = ks.filterMap g := by
        clear ih hk hnodup hrest
        induction ks with
        | nil => rfl
        | cons a as ih =>
          obtain ⟨hne, hnew⟩ := List.ne_and_not_mem_of_not_mem_cons hnew
          rw [List.filterMap_cons, List.filterMap_cons, if_neg (Ne.symm hne), ih hnew]
      rw [List.filterMap_cons, if_pos rfl, List.filterMap_cons, hg, hsame]
      exact (List.perm_append_singleton v _).symm
    · have := ih ((List.mem_cons.mp hk).resolve_left (Ne.symm heq)) hrest
      rw [List.filterMap_cons, if_neg heq, List.filterMap_cons]
      cases g k' with
      | none => exact this
      | some w => exact this.cons w

/-- A block of a kind of its own comes among the others. -/
theorem Body.blocks_append {x : Executable} {k : BlockKind} (h : x.blocks.lookup k = none)
    (id : NodeId) :
    (Body.blocks { x with blocks := x.blocks ++ [(k, id)] }).Perm (Body.blocks x ++ [id]) := by
  have hlookup : ∀ k', (x.blocks ++ [(k, id)]).lookup k' =
      if k' = k then some id else x.blocks.lookup k' := by
    intro k'
    rw [List.lookup_append, List.lookup_cons, List.lookup_nil]
    by_cases heq : k' = k
    · rw [if_pos heq, heq, h, beq_self_eq_true]
      rfl
    · rw [if_neg heq, beq_eq_false_iff_ne.mpr heq, Option.or_none]
  simp only [Body.blocks, hlookup]
  exact perm_filterMap_update (g := fun k => x.blocks.lookup k) h id BlockKind.all
    (by cases k <;> decide) (by decide)

theorem Body.lookup_of_objection {what : String} {x : Executable} {k : BlockKind}
    (items : List NodeId) (h : Forest.executableObjection? what x (.block k items) = none) :
    x.blocks.lookup k = none := by
  unfold Forest.executableObjection? at h
  dsimp only at h
  split at h
  · exact nomatch h
  · next hnone => exact Option.not_isSome_iff_eq_none.mp hnone

/-- The blocks of a task or workflow that does not object to another one. -/
theorem Body.blocks_of_objection {what : String} {x : Executable} {k : BlockKind}
    (items : List NodeId) (h : Forest.executableObjection? what x (.block k items) = none)
    (id : NodeId) :
    (Body.blocks { x with blocks := x.blocks ++ [(k, id)] }).Perm (Body.blocks x ++ [id]) :=
  blocks_append (lookup_of_objection items h) id

/-- Where parts are listed as they are kept, a new one comes last. -/
theorem Body.parts_adopt {f : Forest} {b child : Body} (haccepts : b.accepts child.kind = true)
    (hobjection : f.objection? b child = none) (hsorts : b.sortsParts = false) (id : NodeId) :
    (b.adopt id child).parts = b.parts ++ [id] := by
  cases b with
  | declaration d =>
    have hnone : d.initializer = none := by
      cases child <;> simp_all [Forest.objection?, isStruct, accepts, kind]
    cases child with
    | expression e => simp [adopt, parts, hnone]
    | region r => cases hv : r.loopVariable <;> simp [accepts, kind, hv] at haccepts
    | _ => simp [accepts, kind] at haccepts
  | struct s =>
    cases child with
    | declaration d => rfl
    | struct s => simp [Forest.objection?, isStruct, kind] at hobjection
    | region r => cases hv : r.loopVariable <;> simp [accepts, kind, hv] at haccepts
    | _ => simp [accepts, kind] at haccepts
  | entry e =>
    have hnone : e.expression = none := by
      cases child <;> simp_all [Forest.objection?, isStruct, accepts, kind]
    cases child with
    | expression e => simp [adopt, parts, hnone]
    | region r => cases hv : r.loopVariable <;> simp [accepts, kind, hv] at haccepts
    | _ => simp [accepts, kind] at haccepts
  | call c =>
    cases child with
    | entry e => rfl
    | region r => cases hv : r.loopVariable <;> simp [accepts, kind, hv] at haccepts
    | _ => simp [accepts, kind] at haccepts
  | block k items => rfl
  | expression e => rfl
  | importDoc i => exact nomatch haccepts
  | _ => exact nomatch hsorts

/-- What a node accepts and does not object to is added to its parts. -/
theorem Body.perm_parts_adopt {f : Forest} {b child : Body} (haccepts : b.accepts child.kind = true)
    (hobjection : f.objection? b child = none) (id : NodeId) :
    (b.adopt id child).parts.Perm (b.parts ++ [id]) := by
  cases hsorts : b.sortsParts with
  | false => rw [parts_adopt haccepts hobjection hsorts]
  | true =>
    rw [List.perm_iff_count]
    intro a
    cases b with
    | document d =>
      cases child with
      | workflow x w =>
        have hnone : d.workflow = none := by simpa [Forest.objection?, isStruct] using hobjection
        simp only [adopt, parts, hnone, Option.toList, List.count_append, List.count_nil]
        omega
      | declaration d => simp [Forest.objection?, isStruct] at hobjection
      | region r => cases hv : r.loopVariable <;> simp [accepts, kind, hv] at haccepts
      | _ =>
        first
        | simp only [adopt, parts, List.count_append]; omega
        | simp [accepts, kind] at haccepts
    | task x t =>
      cases child with
      | declaration d =>
        simp only [adopt, parts, blocks, List.count_append]
        omega
      | block k items =>
        have hblocks := List.perm_iff_count.mp (blocks_of_objection items hobjection id) a
        simp only [adopt, parts, List.count_append] at hblocks ⊢
        omega
      | struct s => simp [Forest.objection?, isStruct, kind] at hobjection
      | region r =>
        cases hv : r.loopVariable <;> simp [accepts, kind, hv, BlockKind.all] at haccepts
      | _ => simp [accepts, kind, BlockKind.all] at haccepts
    | workflow x w =>
      cases child with
      | block k items =>
        have hblocks := List.perm_iff_count.mp (blocks_of_objection items hobjection id) a
        simp only [adopt, parts, List.count_append] at hblocks ⊢
        omega
      | struct s => simp [Forest.objection?, isStruct, kind] at hobjection
      | _ =>
        first
        | simp only [adopt, parts, blocks, List.count_append]; omega
        | simp [accepts, kind] at haccepts
    | region r =>
      cases child with
      | expression e =>
        have hnone : r.expression = none := by simpa [Forest.objection?, isStruct] using hobjection
        simp only [adopt, parts, hnone, Option.toList, List.count_append, List.count_nil]
        omega
      | struct s =>
        cases hv : r.loopVariable <;> simp [Forest.objection?, isStruct, kind, hv] at hobjection
      | _ =>
        first
        | simp only [adopt, parts, List.count_append]; omega
        | simp [accepts, kind] at haccepts
    | _ => exact nomatch hsorts

namespace Forest

/-! ## Reading links -/

section Reading

variable (f : Forest)

def profile? (id : NodeId) : Option Profile := (f.node? id).map Node.profile

/-- What a node was made with. -/
def made? (id : NodeId) : Option Body := (f.node? id).map fun n => n.body.made

def parent? (id : NodeId) : Option NodeId := (f.node? id).bind Node.parent

/-- The nodes directly below a node, in the order in which they are kept. -/
def parts (id : NodeId) : List NodeId := ((f.node? id).map fun n => n.body.parts).getD []

theorem mem_children {p c : NodeId} : c ∈ f.children p ↔ c ∈ f.parts p := by
  unfold children parts body?
  cases f.node? p with
  | none => rfl
  | some n =>
    dsimp only [Option.map_some, Option.getD_some]
    split
    · exact List.mem_mergeSort
    · rfl

theorem profile?_of_node? {id : NodeId} {n : Node} (h : f.node? id = some n) :
    f.profile? id = some n.profile := by
  rw [profile?, h, Option.map_some]

theorem parts_of_node? {id : NodeId} {n : Node} (h : f.node? id = some n) :
    f.parts id = n.body.parts := by
  rw [parts, h, Option.map_some, Option.getD_some]

theorem lt_of_profile? {id : NodeId} {q : Profile} (h : f.profile? id = some q) :
    id < f.nextNode := by
  obtain ⟨n, hn, -⟩ := Option.map_eq_some_iff.mp h
  exact f.lt_of_node? hn

theorem exists_profile? {id : NodeId} (h : id < f.nextNode) : ∃ q, f.profile? id = some q := by
  obtain ⟨n, hn⟩ := f.exists_node? h
  exact ⟨n.profile, f.profile?_of_node? hn⟩

theorem parts_of_le {id : NodeId} (h : f.nextNode ≤ id) : f.parts id = [] := by
  rw [parts, (f.node?_eq_none_iff).mpr h]
  rfl

theorem parent?_of_le {id : NodeId} (h : f.nextNode ≤ id) : f.parent? id = none := by
  rw [parent?, (f.node?_eq_none_iff).mpr h]
  rfl

variable (n : Node) (j : NodeId)

theorem profile?_addNode :
    (f.addNode n).profile? j = if j = f.nextNode then some n.profile else f.profile? j := by
  rw [profile?, node?_addNode, profile?]
  split <;> rfl

theorem made?_addNode :
    (f.addNode n).made? j = if j = f.nextNode then some n.body.made else f.made? j := by
  rw [made?, node?_addNode, made?]
  split <;> rfl

theorem parent?_addNode :
    (f.addNode n).parent? j = if j = f.nextNode then n.parent else f.parent? j := by
  rw [parent?, node?_addNode, parent?]
  split <;> rfl

theorem parts_addNode :
    (f.addNode n).parts j = if j = f.nextNode then n.body.parts else f.parts j := by
  rw [parts, node?_addNode, parts]
  split <;> rfl

end Reading

theorem made?_modifyBody {change : Body → Body} (h : ∀ b, (change b).made = b.made) (f : Forest)
    (id j : NodeId) : (f.modifyBody id change).made? j = f.made? j := by
  rw [made?, made?, node?_modifyBody]
  split
  · cases f.node? j with
    | none => rfl
    | some n => exact congrArg some (h n.body)
  · rfl

/-- Two forests whose nodes were made alike, and have the same profiles and links. -/
structure Alike (f g : Forest) : Prop where
  nextNode : g.nextNode = f.nextNode
  made? : ∀ j, g.made? j = f.made? j
  profile? : ∀ j, g.profile? j = f.profile? j
  parent? : ∀ j, g.parent? j = f.parent? j
  parts : ∀ j, g.parts j = f.parts j

namespace Alike

variable {f g h : Forest}

theorem refl (f : Forest) : Alike f f :=
  ⟨rfl, fun _ => rfl, fun _ => rfl, fun _ => rfl, fun _ => rfl⟩

theorem trans (hfg : Alike f g) (hgh : Alike g h) : Alike f h where
  nextNode := hgh.nextNode.trans hfg.nextNode
  made? j := (hgh.made? j).trans (hfg.made? j)
  profile? j := (hgh.profile? j).trans (hfg.profile? j)
  parent? j := (hgh.parent? j).trans (hfg.parent? j)
  parts j := (hgh.parts j).trans (hfg.parts j)

theorem of_node? (hnext : g.nextNode = f.nextNode) (hnode : ∀ j, g.node? j = f.node? j) :
    Alike f g where
  nextNode := hnext
  made? j := by rw [Forest.made?, hnode, ← Forest.made?]
  profile? j := by rw [Forest.profile?, hnode, ← Forest.profile?]
  parent? j := by rw [Forest.parent?, hnode, ← Forest.parent?]
  parts j := by rw [Forest.parts, hnode, ← Forest.parts]

/-- A change to a body that keeps what it was made with and its parts. -/
theorem modifyBody (f : Forest) (id : NodeId) {change : Body → Body}
    (hmade : ∀ b, (change b).made = b.made)
    (hparts : ∀ b, (change b).parts = b.parts) : Alike f (f.modifyBody id change) where
  nextNode := nextNode_modifyBody f id change
  made? j := made?_modifyBody hmade f id j
  profile? j := by
    rw [Forest.profile?, Forest.profile?, node?_modifyBody]
    split
    · cases f.node? j with
      | none => rfl
      | some n => exact congrArg some (Body.profile_of_made (hmade n.body) n.span)
    · rfl
  parent? j := by
    rw [Forest.parent?, Forest.parent?, node?_modifyBody]
    split
    · cases f.node? j <;> rfl
    · rfl
  parts j := by
    rw [Forest.parts, Forest.parts, node?_modifyBody]
    split
    · cases f.node? j with
      | none => rfl
      | some n => exact hparts n.body
    · rfl

theorem fileAll (filings : List Filing) (f : Forest) : Alike f (f.fileAll filings) := by
  induction filings generalizing f with
  | nil => exact .refl f
  | cons x xs ih =>
    refine (modifyBody f x.owner ?_ ?_).trans (ih _)
    · exact fun b => b.made_file x.kind x.id x.item
    · exact fun b => b.parts_file x.kind x.id x.item

end Alike

/-! ## Grafts -/

/-- One node is put below another, and nothing else changes. -/
structure Grafts (f g : Forest) (parent child : NodeId) : Prop where
  nextNode : g.nextNode = f.nextNode
  profile? : ∀ j, g.profile? j = f.profile? j
  parent? : ∀ j, g.parent? j = if j = child then some parent else f.parent? j
  parts_of_ne : ∀ j, j ≠ parent → g.parts j = f.parts j
  parts_perm : (g.parts parent).Perm (f.parts parent ++ [child])
  parts_kept : ∀ q, f.profile? parent = some q → q.sortsParts = false →
    g.parts parent = f.parts parent ++ [child]

theorem Grafts.of_alike {f f' g g' : Forest} {parent child : NodeId} (hf : Alike f f')
    (h : Grafts f' g parent child) (hg : Alike g g') : Grafts f g' parent child where
  nextNode := hg.nextNode.trans (h.nextNode.trans hf.nextNode)
  profile? j := (hg.profile? j).trans ((h.profile? j).trans (hf.profile? j))
  parent? j := by rw [hg.parent?, h.parent?, hf.parent?]
  parts_of_ne j hj := by rw [hg.parts, h.parts_of_ne j hj, hf.parts]
  parts_perm := by rw [hg.parts, ← hf.parts]; exact h.parts_perm
  parts_kept q hq hsorts := by
    rw [hg.parts, ← hf.parts]
    exact h.parts_kept q (by rw [hf.profile?, hq]) hsorts

theorem parts_adoptBody {f : Forest} {parent : NodeId} {p : Node} (hp : f.node? parent = some p)
    (child : NodeId) (body : Body) (j : NodeId) :
    (f.modifyBody parent fun b => b.adopt child body).parts j =
      if j = parent then (p.body.adopt child body).parts else f.parts j := by
  rw [parts, node?_modifyBody]
  by_cases hj : j = parent
  · subst hj
    rw [if_pos rfl, if_pos rfl, hp]
    rfl
  · rw [if_neg hj, if_neg (Ne.symm hj), parts]

theorem profile?_adoptBody (f : Forest) (parent child : NodeId) (body : Body) (j : NodeId) :
    (f.modifyBody parent fun b => b.adopt child body).profile? j = f.profile? j := by
  rw [profile?, profile?, node?_modifyBody]
  split
  · cases f.node? j with
    | none => rfl
    | some n => exact congrArg some (Body.profile_of_made (n.body.made_adopt child body) n.span)
  · rfl

theorem parent?_modifyBody (f : Forest) (id : NodeId) (change : Body → Body) (j : NodeId) :
    (f.modifyBody id change).parent? j = f.parent? j := by
  rw [parent?, parent?, node?_modifyBody]
  split
  · cases f.node? j <;> rfl
  · rfl

/-- Links a node to its parent. -/
def linkTo (f : Forest) (parent child : NodeId) : Forest :=
  f.modifyNode child fun n => { n with parent := some parent }

theorem made?_linkTo (f : Forest) (parent child j : NodeId) :
    (f.linkTo parent child).made? j = f.made? j := by
  rw [made?, made?, linkTo, node?_modifyNode]
  split
  · cases f.node? j <;> rfl
  · rfl

theorem profile?_linkTo (f : Forest) (parent child j : NodeId) :
    (f.linkTo parent child).profile? j = f.profile? j := by
  rw [profile?, profile?, linkTo, node?_modifyNode]
  split
  · cases f.node? j <;> rfl
  · rfl

theorem parts_linkTo (f : Forest) (parent child j : NodeId) :
    (f.linkTo parent child).parts j = f.parts j := by
  rw [parts, parts, linkTo, node?_modifyNode]
  split
  · cases f.node? j <;> rfl
  · rfl

theorem parent?_linkTo {f : Forest} {parent child : NodeId} (h : child < f.nextNode) (j : NodeId) :
    (f.linkTo parent child).parent? j = if j = child then some parent else f.parent? j := by
  obtain ⟨n, hn⟩ := f.exists_node? h
  rw [parent?, parent?, linkTo, node?_modifyNode]
  by_cases hj : j = child
  · subst hj
    rw [if_pos rfl, if_pos rfl, hn]
    rfl
  · rw [if_neg (Ne.symm hj), if_neg hj]

/-- A node that is adopted is grafted onto its parent. -/
theorem adopt_grafts {f f' : Forest} {parent child : NodeId} {p c : Node}
    (hp : f.node? parent = some p) (hc : f.node? child = some c)
    (haccepts : p.body.accepts c.kind = true) (hobjection : f'.objection? p.body c.body = none) :
    Grafts f (f.adopt parent p child c) parent child := by
  obtain ⟨filings, hadopt⟩ := adopt_eq f parent p child c
  have hfiled := Alike.fileAll filings (f.modifyBody parent fun b => b.adopt child c.body)
  have hnext : ((f.modifyBody parent fun b => b.adopt child c.body).fileAll filings).nextNode =
      f.nextNode := hfiled.nextNode.trans (nextNode_modifyBody ..)
  rw [← linkTo] at hadopt
  rw [hadopt]
  refine ⟨?_, fun j => ?_, fun j => ?_, fun j hj => ?_, ?_, fun q hq hsorts => ?_⟩
  · exact (nextNode_modifyNode ..).trans hnext
  · rw [profile?_linkTo, hfiled.profile?, profile?_adoptBody]
  · rw [parent?_linkTo (by rw [hnext]; exact f.lt_of_node? hc), hfiled.parent?, parent?_modifyBody]
  · rw [parts_linkTo, hfiled.parts, parts_adoptBody hp, if_neg hj]
  · rw [parts_linkTo, hfiled.parts, parts_adoptBody hp, if_pos rfl, parts_of_node? f hp]
    exact Body.perm_parts_adopt haccepts hobjection child
  · rw [parts_linkTo, hfiled.parts, parts_adoptBody hp, if_pos rfl, parts_of_node? f hp]
    rw [profile?_of_node? f hp] at hq
    refine Body.parts_adopt haccepts hobjection ?_ child
    rw [← hsorts, ← Option.some.inj hq]
    rfl

theorem fileAll_scopes (filings : List Filing) (f : Forest) :
    (f.fileAll filings).scopes = f.scopes := by
  induction filings generalizing f with
  | nil => rfl
  | cons x xs ih => exact ih _

theorem adopt_scopes (f : Forest) (parent : NodeId) (p : Node) (child : NodeId) (c : Node) :
    (f.adopt parent p child c).scopes = f.scopes := by
  obtain ⟨filings, h⟩ := adopt_eq f parent p child c
  rw [h]
  exact fileAll_scopes filings _

/-- To attach a node changes nothing that any node was made with. -/
theorem attach_made? {f g : Forest} {parent child id : NodeId}
    {binding : Option (ScopeId × String)} (h : f.attach parent child binding = .ok (g, id))
    (j : NodeId) : g.made? j = f.made? j := by
  cases attached_of_ok h with
  | absent => rfl
  | twin => rfl
  | @adopted p c f' _ _ _ _ _ hbind =>
    obtain ⟨filings, hadopt⟩ := adopt_eq f' parent p child c
    rw [hadopt, ← linkTo, made?_linkTo, (Alike.fileAll filings _).made?,
      made?_modifyBody (fun b => b.made_adopt child c.body), made?, bind?_node? hbind, ← made?]

/-- A node that is attached counts as one that is there, or it is bound and grafted onto the other.
-/
theorem attach_cases {f g : Forest} {parent child id : NodeId}
    {binding : Option (ScopeId × String)} {p c : Node} (hp : f.node? parent = some p)
    (hc : f.node? child = some c) (h : f.attach parent child binding = .ok (g, id)) :
    (g = f ∧ f.twin? parent c = some id) ∨
    (id = child ∧ p.body.accepts c.kind = true ∧ f.twin? parent c = none ∧
      Grafts f g parent child ∧ ∃ f', f.bind? child binding = .ok f' ∧ g.scopes = f'.scopes) := by
  cases attached_of_ok h with
  | absent hmissing =>
    rcases hmissing with hmissing | hmissing
    · exact absurd (hp.symm.trans hmissing) (Option.some_ne_none p)
    · exact absurd (hc.symm.trans hmissing) (Option.some_ne_none c)
  | twin hc' htwin =>
    obtain rfl := Option.some.inj (hc.symm.trans hc')
    exact .inl ⟨rfl, htwin⟩
  | @adopted p' c' f' hp' hc' haccepts htwin hobjection hbind =>
    obtain rfl := Option.some.inj (hp.symm.trans hp')
    obtain rfl := Option.some.inj (hc.symm.trans hc')
    have halike : Alike f f' := .of_node? (bind?_nextNode hbind) (bind?_node? hbind)
    have hgrafts : Grafts f' (f'.adopt parent p child c) parent child :=
      adopt_grafts ((bind?_node? hbind parent).trans hp) ((bind?_node? hbind child).trans hc)
        haccepts hobjection
    exact .inr ⟨rfl, haccepts, htwin, .of_alike halike hgrafts (.refl _), f', hbind,
      adopt_scopes ..⟩

/-- A node whose span no part of the parent has does not count as one of them. -/
theorem twin?_eq_none {f : Forest} {parent : NodeId} {c : Node}
    (h : ∀ x ∈ f.parts parent, ∀ q, f.profile? x = some q → q.span ≠ c.span) :
    f.twin? parent c = none := by
  refine List.find?_eq_none.mpr fun x hx htwin => ?_
  split at htwin
  · next n hn =>
    rw [Bool.and_eq_true, beq_iff_eq, beq_iff_eq] at htwin
    exact h x (f.mem_children.mp hx) n.profile (f.profile?_of_node? hn) htwin.2
  · exact nomatch htwin

/-! ## Links -/

/-- From the number `base` on, the links of nodes agree with each other. -/
structure Linked (base : NodeId) (f : Forest) : Prop where
  parent_of_part : ∀ p c, base ≤ p → c ∈ f.parts p → f.parent? c = some p ∧ p < c
  part_of_parent : ∀ p c, base ≤ c → f.parent? c = some p → base ≤ p ∧ c ∈ f.parts p
  nodup : ∀ p, base ≤ p → (f.parts p).Nodup

namespace Linked

variable {base : NodeId} {f g : Forest}

theorem alike (h : Linked base f) (hg : Alike f g) : Linked base g where
  parent_of_part p c hp hc := by
    rw [hg.parent?]
    exact h.parent_of_part p c hp (hg.parts p ▸ hc)
  part_of_parent p c hc hp := by
    rw [hg.parts]
    exact h.part_of_parent p c hc (hg.parent? c ▸ hp)
  nodup p hp := by
    rw [hg.parts]
    exact h.nodup p hp

theorem lt_of_part (h : Linked base f) {p c : NodeId} (hp : base ≤ p) (hc : c ∈ f.parts p) :
    c < f.nextNode := by
  refine Nat.lt_of_not_le fun hle => ?_
  have := (h.parent_of_part p c hp hc).1
  rw [f.parent?_of_le hle] at this
  exact nomatch this

/-- There are no links from nodes that are not there. -/
theorem nextNode (f : Forest) : Linked f.nextNode f where
  parent_of_part p c hp hc := by
    rw [f.parts_of_le hp] at hc
    exact absurd hc List.not_mem_nil
  part_of_parent p c hc hp := by
    rw [f.parent?_of_le hc] at hp
    exact nomatch hp
  nodup p hp := by
    rw [f.parts_of_le hp]
    exact .nil

/-- A new node has no links. -/
theorem add (h : Linked base f) {n : Node} (hparts : n.body.parts = [])
    (hparent : n.parent = none) : Linked base (f.addNode n) where
  parent_of_part p c hp hc := by
    rw [parts_addNode] at hc
    split at hc
    · rw [hparts] at hc
      exact absurd hc List.not_mem_nil
    · rw [parent?_addNode, if_neg (Nat.ne_of_lt (h.lt_of_part hp hc))]
      exact h.parent_of_part p c hp hc
  part_of_parent p c hc hp := by
    rw [parent?_addNode] at hp
    split at hp
    · rw [hparent] at hp
      exact nomatch hp
    · obtain ⟨hle, hmem⟩ := h.part_of_parent p c hc hp
      refine ⟨hle, ?_⟩
      rw [parts_addNode, if_neg]
      · exact hmem
      · rintro rfl
        rw [f.parts_of_le (Nat.le_refl _)] at hmem
        exact absurd hmem List.not_mem_nil
  nodup p hp := by
    rw [parts_addNode]
    split
    · rw [hparts]
      exact .nil
    · exact h.nodup p hp

theorem graft {parent child : NodeId} (h : Linked base f) (hg : Grafts f g parent child)
    (hparent : base ≤ parent) (hlt : parent < child) (hnew : f.parent? child = none) :
    Linked base g := by
  have hfree : ∀ p, base ≤ p → child ∉ f.parts p := by
    intro p hp hmem
    rw [(h.parent_of_part p child hp hmem).1] at hnew
    exact nomatch hnew
  have hmem : ∀ p c, c ∈ g.parts p ↔ c ∈ f.parts p ∨ (p = parent ∧ c = child) := by
    intro p c
    by_cases hp : p = parent
    · subst hp
      rw [hg.parts_perm.mem_iff, List.mem_append, List.mem_singleton, eq_self, true_and]
    · rw [hg.parts_of_ne p hp]
      simp [hp]
  refine ⟨fun p c hp hc => ?_, fun p c hc hp => ?_, fun p hp => ?_⟩
  · rw [hg.parent?]
    rcases (hmem p c).mp hc with hold | ⟨rfl, rfl⟩
    · rw [if_neg fun heq : c = child => hfree p hp (heq ▸ hold)]
      exact h.parent_of_part p c hp hold
    · rw [if_pos rfl]
      exact ⟨rfl, hlt⟩
  · rw [hg.parent?] at hp
    rw [hmem]
    split at hp
    · next heq =>
      rw [← Option.some.inj hp]
      exact ⟨hparent, .inr ⟨rfl, heq⟩⟩
    · obtain ⟨hle, hold⟩ := h.part_of_parent p c hc hp
      exact ⟨hle, .inl hold⟩
  · by_cases hp' : p = parent
    · subst hp'
      rw [hg.parts_perm.nodup_iff]
      refine List.nodup_append.mpr ⟨h.nodup p hp, List.pairwise_singleton _ _, ?_⟩
      rintro a ha b hb rfl
      rw [List.mem_singleton.mp hb] at ha
      exact hfree p hp ha
    · rw [hg.parts_of_ne p hp']
      exact h.nodup p hp

end Linked

/-! ## Sprouts

A node is added without links, and then it is left alone or grafted onto another. -/

/-- A node with a given profile is added, and put below another if one is given. -/
structure Sprout (f g : Forest) (q : Profile) (parent : Option NodeId) : Prop where
  nextNode : g.nextNode = f.nextNode + 1
  profile? : ∀ j, g.profile? j = if j = f.nextNode then some q else f.profile? j
  parent? : ∀ j, g.parent? j = if j = f.nextNode then parent else f.parent? j
  parts_new : g.parts f.nextNode = []
  parts_of_ne : ∀ j, j ≠ f.nextNode → parent ≠ some j → g.parts j = f.parts j
  parts_perm : ∀ p, parent = some p → (g.parts p).Perm (f.parts p ++ [f.nextNode])
  parts_kept : ∀ p qp, parent = some p → f.profile? p = some qp → qp.sortsParts = false →
    g.parts p = f.parts p ++ [f.nextNode]
  linked : ∀ base, Linked base f → (∀ p, parent = some p → base ≤ p) → Linked base g

variable {f g : Forest} {n : Node}

theorem sprout_loose (hparts : n.body.parts = []) (hparent : n.parent = none)
    (hg : Alike (f.addNode n) g) : Sprout f g n.profile none where
  nextNode := by rw [hg.nextNode, nextNode_addNode]
  profile? j := by rw [hg.profile?, profile?_addNode]
  parent? j := by rw [hg.parent?, parent?_addNode, hparent]
  parts_new := by rw [hg.parts, parts_addNode, if_pos rfl, hparts]
  parts_of_ne j hj _ := by rw [hg.parts, parts_addNode, if_neg hj]
  parts_perm p hp := nomatch hp
  parts_kept p qp hp := nomatch hp
  linked base h _ := (h.add hparts hparent).alike hg

theorem sprout_grafted {parent : NodeId} (hparts : n.body.parts = []) (hparent : n.parent = none)
    (hlt : parent < f.nextNode) (hg : Grafts (f.addNode n) g parent f.nextNode) :
    Sprout f g n.profile (some parent) where
  nextNode := by rw [hg.nextNode, nextNode_addNode]
  profile? j := by rw [hg.profile?, profile?_addNode]
  parent? j := by
    rw [hg.parent?, parent?_addNode]
    split <;> rfl
  parts_new := by
    rw [hg.parts_of_ne _ (Nat.ne_of_gt hlt), parts_addNode, if_pos rfl, hparts]
  parts_of_ne j hj hne := by
    rw [hg.parts_of_ne _ fun heq => hne (congrArg some heq.symm), parts_addNode, if_neg hj]
  parts_perm p hp := by
    obtain rfl := Option.some.inj hp
    have := hg.parts_perm
    rwa [parts_addNode, if_neg (Nat.ne_of_lt hlt)] at this
  parts_kept p qp hp hqp hsorts := by
    obtain rfl := Option.some.inj hp
    have hne := Nat.ne_of_lt hlt
    have := hg.parts_kept qp (by rw [profile?_addNode, if_neg hne, hqp]) hsorts
    rwa [parts_addNode, if_neg hne] at this
  linked base h hbase := by
    refine (h.add hparts hparent).graft hg (hbase parent rfl) hlt ?_
    rw [parent?_addNode, if_pos rfl, hparent]

theorem Sprout.alike {g' : Forest} {q : Profile} {parent : Option NodeId}
    (h : Sprout f g q parent) (hg : Alike g g') : Sprout f g' q parent where
  nextNode := hg.nextNode.trans h.nextNode
  profile? j := by rw [hg.profile?, h.profile?]
  parent? j := by rw [hg.parent?, h.parent?]
  parts_new := by rw [hg.parts, h.parts_new]
  parts_of_ne j hj hne := by rw [hg.parts, h.parts_of_ne j hj hne]
  parts_perm p hp := by
    rw [hg.parts]
    exact h.parts_perm p hp
  parts_kept p qp hp hqp hsorts := by rw [hg.parts, h.parts_kept p qp hp hqp hsorts]
  linked base hl hbase := (h.linked base hl hbase).alike hg

theorem Sprout.mem_parts {q : Profile} {parent : Option NodeId} (h : Sprout f g q parent)
    (hparent : parent ≠ some f.nextNode) (p c : NodeId) :
    c ∈ g.parts p ↔ c ∈ f.parts p ∨ (parent = some p ∧ c = f.nextNode) := by
  by_cases hp : parent = some p
  · rw [(h.parts_perm p hp).mem_iff, List.mem_append, List.mem_singleton]
    simp [hp]
  · by_cases hnew : p = f.nextNode
    · subst hnew
      rw [h.parts_new, f.parts_of_le (Nat.le_refl _)]
      simp [hparent]
    · rw [h.parts_of_ne p hnew hp]
      simp [hp]

/-! ## Offers

Every new node is offered to one that is there. -/

/-- What becomes of the new node `n` of `f₁` that is offered to `p`: it is refused, or counts as a
part that `p` has, or is bound and becomes a part of `p`. -/
inductive Offer (f f₁ : Forest) (p : NodeId) (n : Node) (binding : Option (ScopeId × String)) :
    Except Problem (Forest × NodeId) → Prop
  | refused (problem : Problem) : Offer f f₁ p n binding (.error problem)
  | twin {id : NodeId} {q : Profile} : id ∈ f.parts p → f.profile? id = some q →
    q.kind = n.kind → q.span = n.span → Offer f f₁ p n binding (.ok (f₁, id))
  | grafted {f' g : Forest} {above : Body} {span : Span} :
    f.profile? p = some (above.profile span) → above.accepts n.kind = true →
    f₁.bind? f.nextNode binding = .ok f' → g.scopes = f'.scopes →
    Sprout f g n.profile (some p) → Offer f f₁ p n binding (.ok (g, f.nextNode))

theorem offer {f₁ : Forest} {p : NodeId} (hadd : Alike (f.addNode n) f₁)
    (hnode : f₁.node? f.nextNode = some n) (hparts : n.body.parts = []) (hparent : n.parent = none)
    (hp : p < f.nextNode) (hold : ∀ x ∈ f.parts p, x < f.nextNode)
    (binding : Option (ScopeId × String)) :
    Offer f f₁ p n binding (f₁.attach p f.nextNode binding) := by
  have hne : p ≠ f.nextNode := Nat.ne_of_lt hp
  have hprofile : f₁.profile? p = f.profile? p := by
    rw [hadd.profile?, profile?_addNode, if_neg hne]
  cases hresult : f₁.attach p f.nextNode binding with
  | error problem => exact .refused problem
  | ok result =>
    obtain ⟨g, id⟩ := result
    have hlt : p < f₁.nextNode := by
      rw [hadd.nextNode, nextNode_addNode]
      exact Nat.lt_succ_of_lt hp
    obtain ⟨pn, hpn⟩ := f₁.exists_node? hlt
    rcases attach_cases hpn hnode hresult with
      ⟨rfl, htwin⟩ | ⟨rfl, haccepts, -, hgrafts, f', hbind, hscopes⟩
    · obtain ⟨htwin, hmem⟩ := List.find?_eq_some_iff_append.mp htwin |>.imp_right fun _ =>
        List.mem_of_find?_eq_some htwin
      rw [mem_children, hadd.parts, parts_addNode, if_neg hne] at hmem
      split at htwin
      · next m hm =>
        rw [Bool.and_eq_true, beq_iff_eq, beq_iff_eq] at htwin
        refine .twin (q := m.profile) hmem ?_ htwin.1 htwin.2
        rw [← profile?_of_node? _ hm, hadd.profile?, profile?_addNode,
          if_neg (Nat.ne_of_lt (hold id hmem))]
      · exact nomatch htwin
    · have habove : f.profile? p = some (pn.body.profile pn.span) := by
        rw [← hprofile, profile?_of_node? _ hpn]
        rfl
      refine .grafted habove haccepts hbind hscopes ?_
      · exact sprout_grafted hparts hparent hp (.of_alike hadd hgrafts (.refl _))

end Forest

end Wdl
