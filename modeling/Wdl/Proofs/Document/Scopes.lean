import Wdl.Proofs.Document.Links

/-!
Scopes and the tree of a document.

A node is attached to a document if the lists of children lead to it.  `InTree` follows them, and
keeps the innermost node with a scope on the way, so that `Directly` can say in which scope a node
lies.  `Scoped` says that the scopes and the tree agree: a scope binds what lies directly in it, and
its children are the scopes of the nodes that lie directly in it.

A new node changes neither view, `Scoped.ignore`, or both, `Scoped.enroll`.
-/

namespace Wdl

/-- The name under which a node is bound below another: members of structs are not bound, and
imports only under a name that is `valid`. -/
def Profile.symbolIn (q : Profile) (valid : String → Bool) (above : Profile) : Option String :=
  q.symbol.filter fun name =>
    !(above.isStruct && q.kind == .declaration && !q.isStruct) && (q.kind != .importDoc || valid name)

namespace Forest

/-- The scope that a node introduces. -/
def scopeOf? (f : Forest) (id : NodeId) : Option ScopeId :=
  (f.profile? id).bind Profile.scope

/-- `f.InTree d id o`: the node `id` is attached to the document `d`, and `o` is the innermost
node with a scope that `id` is or lies in. -/
inductive InTree (f : Forest) (d : NodeId) : NodeId → NodeId → Prop
  | root : InTree f d d d
  | owner {p c o : NodeId} : InTree f d p o → c ∈ f.children p → (f.scopeOf? c).isSome = true →
    InTree f d c c
  | inner {p c o : NodeId} : InTree f d p o → c ∈ f.children p → f.scopeOf? c = none →
    InTree f d c o

/-- An attached node `id`, whose parent is `p`, lies in the scope `s` and in no scope inside it. -/
def Directly (f : Forest) (d : NodeId) (s : ScopeId) (p id : NodeId) : Prop :=
  ∃ o, f.InTree d p o ∧ f.scopeOf? o = some s ∧ id ∈ f.children p

/-- The scope `s` has to bind `name` to the node `id`. -/
inductive Binds (f : Forest) (valid : String → Bool) (d : NodeId) (s : ScopeId) (name : String)
    (id : NodeId) : Prop
  | symbol {p : NodeId} {above q : Profile} : f.Directly d s p id → f.profile? p = some above →
    f.profile? id = some q → q.symbolIn valid above = some name → Binds f valid d s name id
  | loop {q : Profile} : f.InTree d id id → f.profile? id = some q → q.scope = some s →
    q.loopVariable = some name → Binds f valid d s name id

/-- The scope `s` binds what it has to bind, and its children are the scopes of the nodes that lie
directly in it, in their order. -/
structure Reflects (f : Forest) (valid : String → Bool) (d : NodeId) (s : ScopeId) (sc : Scope) :
    Prop where
  symbols : ∀ name id, (name, id) ∈ sc.symbols ↔ f.Binds valid d s name id
  distinct : (sc.symbols.map Prod.fst).Nodup
  children : ∃ ids : List NodeId, sc.children.map some = ids.map f.scopeOf? ∧
    ids.Pairwise (· < ·) ∧ ∀ id, id ∈ ids ↔ (f.scopeOf? id).isSome = true ∧ ∃ p, f.Directly d s p id

/-- The scopes from `s₀` on agree with the tree of the document `d`. -/
structure Scoped (valid : String → Bool) (d : NodeId) (s₀ : ScopeId) (f : Forest) : Prop where
  document : f.scopeOf? d = some s₀
  owned : ∀ o s, d ≤ o → f.scopeOf? o = some s →
    s₀ ≤ s ∧ ∃ sc, f.scope? s = some sc ∧ sc.node = some o
  reflects : ∀ s sc, s₀ ≤ s → f.scope? s = some sc → f.Reflects valid d s sc

/-- A scope in which nothing new lies directly goes on to reflect the tree. -/
theorem Reflects.keep {f g : Forest} {valid : String → Bool} {d : NodeId} {s : ScopeId} {sc : Scope}
    (h : f.Reflects valid d s sc)
    (hbinds : ∀ name id, g.Binds valid d s name id ↔ f.Binds valid d s name id)
    (hdirectly : ∀ p id, g.Directly d s p id ↔ f.Directly d s p id)
    (hold : ∀ p id, f.Directly d s p id → g.scopeOf? id = f.scopeOf? id) :
    g.Reflects valid d s sc := by
  obtain ⟨ids, heq, hlt, hmem⟩ := h.children
  refine ⟨fun name id => (h.symbols name id).trans (hbinds name id).symm, h.distinct, ids, ?_, hlt,
    fun id => ?_⟩
  · rw [heq]
    refine List.map_congr_left fun id hid => ?_
    obtain ⟨-, p, hp⟩ := (hmem id).mp hid
    exact (hold p id hp).symm
  · rw [hmem]
    constructor
    · rintro ⟨hsome, p, hp⟩
      exact ⟨by rw [hold p id hp, hsome], p, (hdirectly p id).mpr hp⟩
    · rintro ⟨hsome, p, hp⟩
      have hp := (hdirectly p id).mp hp
      exact ⟨by rw [← hold p id hp, hsome], p, hp⟩

section Alike

variable {f g : Forest}

theorem Alike.scopeOf? (h : Alike f g) (id : NodeId) : g.scopeOf? id = f.scopeOf? id := by
  rw [Forest.scopeOf?, h.profile?, Forest.scopeOf?]

theorem Alike.mem_children (h : Alike f g) (p c : NodeId) :
    c ∈ g.children p ↔ c ∈ f.children p := by
  rw [Forest.mem_children, Forest.mem_children, h.parts]

theorem Alike.inTree (h : Alike f g) {d id o : NodeId} (ha : f.InTree d id o) :
    g.InTree d id o := by
  induction ha with
  | root => exact .root
  | owner _ hc hs ih => exact .owner ih ((h.mem_children _ _).mpr hc) (by rw [h.scopeOf?, hs])
  | inner _ hc hs ih => exact .inner ih ((h.mem_children _ _).mpr hc) (by rw [h.scopeOf?, hs])

theorem Alike.symm (h : Alike f g) : Alike g f :=
  ⟨h.nextNode.symm, fun j => (h.made? j).symm, fun j => (h.profile? j).symm,
    fun j => (h.parent? j).symm, fun j => (h.parts j).symm⟩

theorem Alike.inTree_iff (h : Alike f g) {d id o : NodeId} :
    g.InTree d id o ↔ f.InTree d id o :=
  ⟨h.symm.inTree, h.inTree⟩

theorem Alike.directly_iff (h : Alike f g) {d p id : NodeId} {s : ScopeId} :
    g.Directly d s p id ↔ f.Directly d s p id := by
  simp only [Directly, h.inTree_iff, h.scopeOf?, h.mem_children]

theorem Alike.binds (h : Alike f g) {valid : String → Bool} {d id : NodeId} {s : ScopeId}
    {name : String} (hb : f.Binds valid d s name id) : g.Binds valid d s name id := by
  cases hb with
  | symbol hd hp hq hname =>
    refine .symbol (h.directly_iff.mpr hd) ?_ ?_ hname
    · rw [h.profile?, hp]
    · rw [h.profile?, hq]
  | loop ha hq hs hv =>
    refine .loop (h.inTree ha) ?_ hs hv
    rw [h.profile?, hq]

theorem Scoped.alike {valid : String → Bool} {d : NodeId} {s₀ : ScopeId} (hs : f.Scoped valid d s₀)
    (h : Alike f g) (hscopes : g.scopes = f.scopes) : g.Scoped valid d s₀ := by
  have hscope : ∀ s, g.scope? s = f.scope? s := fun s => by rw [scope?, scope?, hscopes]
  refine ⟨?_, fun o s ho hos => ?_, fun s sc hle hsc => ?_⟩
  · rw [h.scopeOf?]
    exact hs.document
  · rw [h.scopeOf?] at hos
    rw [hscope]
    exact hs.owned o s ho hos
  · rw [hscope] at hsc
    refine (hs.reflects s sc hle hsc).keep (fun _ _ => ⟨h.symm.binds, h.binds⟩) ?_ ?_
    · exact fun _ _ => h.directly_iff
    · exact fun _ id _ => h.scopeOf? id

end Alike

/-! ## InTree nodes -/

section InTree

variable {f : Forest} {d : NodeId}

theorem InTree.le (hl : Linked d f) {id o : NodeId} (h : f.InTree d id o) :
    d ≤ id ∧ d ≤ o := by
  induction h with
  | root => exact ⟨Nat.le_refl d, Nat.le_refl d⟩
  | owner _ hc _ ih =>
    have := (hl.parent_of_part _ _ ih.1 ((mem_children f).mp hc)).2
    exact ⟨Nat.le_of_lt (Nat.lt_of_le_of_lt ih.1 this), Nat.le_of_lt (Nat.lt_of_le_of_lt ih.1 this)⟩
  | inner _ hc _ ih =>
    have := (hl.parent_of_part _ _ ih.1 ((mem_children f).mp hc)).2
    exact ⟨Nat.le_of_lt (Nat.lt_of_le_of_lt ih.1 this), ih.2⟩

theorem InTree.lt (hl : Linked d f) (hd : d < f.nextNode) {id o : NodeId}
    (h : f.InTree d id o) : id < f.nextNode ∧ o < f.nextNode := by
  induction h with
  | root => exact ⟨hd, hd⟩
  | owner hp hc _ ih =>
    have := hl.lt_of_part (hp.le hl).1 ((mem_children f).mp hc)
    exact ⟨this, this⟩
  | inner hp hc _ ih => exact ⟨hl.lt_of_part (hp.le hl).1 ((mem_children f).mp hc), ih.2⟩

/-- A child is attached below one node only. -/
theorem InTree.parent_unique (hl : Linked d f) {p p' o o' c : NodeId} (h : f.InTree d p o)
    (hc : c ∈ f.children p) (h' : f.InTree d p' o') (hc' : c ∈ f.children p') : p = p' := by
  have hp := (hl.parent_of_part p c (h.le hl).1 ((mem_children f).mp hc)).1
  have hp' := (hl.parent_of_part p' c (h'.le hl).1 ((mem_children f).mp hc')).1
  exact Option.some.inj (hp.symm.trans hp')

theorem InTree.not_mem_children (hl : Linked d f) {p o : NodeId} (h : f.InTree d p o) :
    d ∉ f.children p := by
  intro hmem
  have hle := (h.le hl).1
  have hlt := (hl.parent_of_part p d hle ((mem_children f).mp hmem)).2
  exact absurd hlt (Nat.not_lt_of_le hle)

theorem InTree.unique (hl : Linked d f) {id o o' : NodeId} (h : f.InTree d id o)
    (h' : f.InTree d id o') : o = o' := by
  induction h generalizing o' with
  | root =>
    cases h' with
    | root => rfl
    | owner hp hc _ => exact absurd hc (hp.not_mem_children hl)
    | inner hp hc _ => exact absurd hc (hp.not_mem_children hl)
  | owner hp hc hs _ =>
    cases h' with
    | root => exact absurd hc (hp.not_mem_children hl)
    | owner => rfl
    | inner _ _ hs' =>
      rw [hs'] at hs
      exact nomatch hs
  | inner hp hc hs ih =>
    cases h' with
    | root => exact absurd hc (hp.not_mem_children hl)
    | owner _ _ hs' =>
      rw [hs] at hs'
      exact nomatch hs'
    | inner hp' hc' _ =>
      obtain rfl := hp.parent_unique hl hc hp' hc'
      exact ih hp'

end InTree

/-! ## New nodes -/

section Sprout

variable {f g : Forest} {q : Profile} {parent : Option NodeId} {d : NodeId}

theorem Sprout.scopeOf? (h : Sprout f g q parent) (id : NodeId) :
    g.scopeOf? id = if id = f.nextNode then q.scope else f.scopeOf? id := by
  rw [Forest.scopeOf?, h.profile?, Forest.scopeOf?]
  split <;> rfl

theorem Sprout.scopeOf?_of_lt (h : Sprout f g q parent) {id : NodeId} (hid : id < f.nextNode) :
    g.scopeOf? id = f.scopeOf? id := by
  rw [h.scopeOf?, if_neg (Nat.ne_of_lt hid)]

theorem Sprout.profile?_of_lt (h : Sprout f g q parent) {id : NodeId} (hid : id < f.nextNode) :
    g.profile? id = f.profile? id := by
  rw [h.profile?, if_neg (Nat.ne_of_lt hid)]

theorem Sprout.profile?_new (h : Sprout f g q parent) : g.profile? f.nextNode = some q := by
  rw [h.profile?, if_pos rfl]

theorem Sprout.mem_children (h : Sprout f g q parent) (hparent : parent ≠ some f.nextNode)
    (p c : NodeId) : c ∈ g.children p ↔ c ∈ f.children p ∨ (parent = some p ∧ c = f.nextNode) := by
  rw [Forest.mem_children, Forest.mem_children]
  by_cases hp : parent = some p
  · rw [(h.parts_perm p hp).mem_iff, List.mem_append, List.mem_singleton]
    simp [hp]
  · by_cases hnew : p = f.nextNode
    · subst hnew
      rw [h.parts_new, f.parts_of_le (Nat.le_refl _)]
      simp [hparent]
    · rw [h.parts_of_ne p hnew hp]
      simp [hp]

theorem InTree.sprout (hl : Linked d f) (h : Sprout f g q parent)
    (hparent : parent ≠ some f.nextNode) {id o : NodeId} (ha : f.InTree d id o) :
    g.InTree d id o := by
  induction ha with
  | root => exact .root
  | owner hp hc hs ih =>
    have hlt := hl.lt_of_part (hp.le hl).1 ((Forest.mem_children f).mp hc)
    refine .owner ih ((h.mem_children hparent _ _).mpr (.inl hc)) ?_
    rw [h.scopeOf?_of_lt hlt, hs]
  | inner hp hc hs ih =>
    have hlt := hl.lt_of_part (hp.le hl).1 ((Forest.mem_children f).mp hc)
    refine .inner ih ((h.mem_children hparent _ _).mpr (.inl hc)) ?_
    rw [h.scopeOf?_of_lt hlt, hs]

/-- In the tree of a document after a node has been added is what was there before, and the node
itself if its parent was. -/
theorem Sprout.inTree_iff (hl : Linked d f) (h : Sprout f g q parent)
    (hparent : parent ≠ some f.nextNode) {id o : NodeId} :
    g.InTree d id o ↔ f.InTree d id o ∨ (id = f.nextNode ∧ ∃ p o', parent = some p ∧
      f.InTree d p o' ∧ o = if q.scope.isSome then f.nextNode else o') := by
  constructor
  · intro ha
    induction ha with
    | root => exact .inl .root
    | @owner p c o _ hc hs ih =>
      rcases ih with hold | ⟨rfl, -⟩
      · rcases (h.mem_children hparent _ _).mp hc with hc | ⟨hp, rfl⟩
        · have hlt := hl.lt_of_part (hold.le hl).1 ((Forest.mem_children f).mp hc)
          rw [h.scopeOf?_of_lt hlt] at hs
          exact .inl (.owner hold hc hs)
        · rw [h.scopeOf?, if_pos rfl] at hs
          exact .inr ⟨rfl, p, o, hp, hold, by rw [if_pos hs]⟩
      · rw [Forest.mem_children, h.parts_new] at hc
        exact absurd hc List.not_mem_nil
    | @inner p c o _ hc hs ih =>
      rcases ih with hold | ⟨rfl, -⟩
      · rcases (h.mem_children hparent _ _).mp hc with hc | ⟨hp, rfl⟩
        · have hlt := hl.lt_of_part (hold.le hl).1 ((Forest.mem_children f).mp hc)
          rw [h.scopeOf?_of_lt hlt] at hs
          exact .inl (.inner hold hc hs)
        · rw [h.scopeOf?, if_pos rfl] at hs
          refine .inr ⟨rfl, p, o, hp, hold, ?_⟩
          rw [hs, Option.isSome_none, if_neg Bool.false_ne_true]
      · rw [Forest.mem_children, h.parts_new] at hc
        exact absurd hc List.not_mem_nil
  · rintro (hold | ⟨rfl, p, o', hp, hold, rfl⟩)
    · exact hold.sprout hl h hparent
    · have hmem := (h.mem_children hparent p f.nextNode).mpr (.inr ⟨hp, rfl⟩)
      have hnew : g.scopeOf? f.nextNode = q.scope := by rw [h.scopeOf?, if_pos rfl]
      split
      · next hs => exact .owner (hold.sprout hl h hparent) hmem (by rw [hnew, hs])
      · next hs =>
        refine .inner (hold.sprout hl h hparent) hmem ?_
        rw [hnew, Option.not_isSome_iff_eq_none.mp hs]

/-- What lies directly in a scope is what did before, and the new node if its parent is in the
tree. -/
theorem Sprout.directly_iff (hl : Linked d f) (hd : d < f.nextNode) (h : Sprout f g q parent)
    (hparent : parent ≠ some f.nextNode) {s : ScopeId} {p id : NodeId} :
    g.Directly d s p id ↔ f.Directly d s p id ∨ (parent = some p ∧ id = f.nextNode ∧
      ∃ o, f.InTree d p o ∧ f.scopeOf? o = some s) := by
  constructor
  · rintro ⟨o, ha, ho, hc⟩
    rcases (h.inTree_iff hl hparent).mp ha with hold | ⟨rfl, -⟩
    · rw [h.scopeOf?_of_lt (hold.lt hl hd).2] at ho
      rcases (h.mem_children hparent _ _).mp hc with hc | ⟨hp, rfl⟩
      · exact .inl ⟨o, hold, ho, hc⟩
      · exact .inr ⟨hp, rfl, o, hold, ho⟩
    · rw [Forest.mem_children, h.parts_new] at hc
      exact absurd hc List.not_mem_nil
  · rintro (⟨o, ha, ho, hc⟩ | ⟨hp, rfl, o, ha, ho⟩)
    · refine ⟨o, ha.sprout hl h hparent, ?_, (h.mem_children hparent _ _).mpr (.inl hc)⟩
      rw [h.scopeOf?_of_lt (ha.lt hl hd).2, ho]
    · refine ⟨o, ha.sprout hl h hparent, ?_, (h.mem_children hparent _ _).mpr (.inr ⟨hp, rfl⟩)⟩
      rw [h.scopeOf?_of_lt (ha.lt hl hd).2, ho]

/-- A scope has to bind what it had to before, and the new node if its parent is in the tree. -/
theorem Sprout.binds_iff (hl : Linked d f) (hd : d < f.nextNode) (h : Sprout f g q parent)
    (hparent : parent ≠ some f.nextNode) {valid : String → Bool} {s : ScopeId} {name : String}
    {id : NodeId} :
    g.Binds valid d s name id ↔ f.Binds valid d s name id ∨ (id = f.nextNode ∧
      ∃ p o above, parent = some p ∧ f.InTree d p o ∧ f.profile? p = some above ∧
        ((f.scopeOf? o = some s ∧ q.symbolIn valid above = some name) ∨
          (q.scope = some s ∧ q.loopVariable = some name))) := by
  constructor
  · intro hb
    cases hb with
    | @symbol p above q' hdir hp hq hname =>
      rcases (h.directly_iff hl hd hparent).mp hdir with hold | ⟨hpar, rfl, o, ha, ho⟩
      · have ⟨o, ha, _, hc⟩ := hold
        have hlt := hl.lt_of_part (ha.le hl).1 ((Forest.mem_children f).mp hc)
        rw [h.profile?_of_lt (ha.lt hl hd).1] at hp
        rw [h.profile?_of_lt hlt] at hq
        exact .inl (.symbol hold hp hq hname)
      · rw [h.profile?_of_lt (ha.lt hl hd).1] at hp
        rw [h.profile?_new] at hq
        obtain rfl := Option.some.inj hq
        exact .inr ⟨rfl, p, o, above, hpar, ha, hp, .inl ⟨ho, hname⟩⟩
    | @loop q' ha hq hs hv =>
      rcases (h.inTree_iff hl hparent).mp ha with hold | ⟨rfl, p, o, hpar, hold, -⟩
      · rw [h.profile?_of_lt (hold.lt hl hd).1] at hq
        exact .inl (.loop hold hq hs hv)
      · rw [h.profile?_new] at hq
        obtain rfl := Option.some.inj hq
        obtain ⟨above, habove⟩ := f.exists_profile? (hold.lt hl hd).1
        exact .inr ⟨rfl, p, o, above, hpar, hold, habove, .inr ⟨hs, hv⟩⟩
  · rintro (hb | ⟨rfl, p, o, above, hpar, ha, hp, ⟨ho, hname⟩ | ⟨hs, hv⟩⟩)
    · cases hb with
      | @symbol p above q' hdir hp hq hname =>
        refine .symbol ((h.directly_iff hl hd hparent).mpr (.inl hdir)) ?_ ?_ hname
        · rw [h.profile?_of_lt (f.lt_of_profile? hp), hp]
        · rw [h.profile?_of_lt (f.lt_of_profile? hq), hq]
      | @loop q' ha hq hs hv =>
        refine .loop (ha.sprout hl h hparent) ?_ hs hv
        rw [h.profile?_of_lt (f.lt_of_profile? hq), hq]
    · refine .symbol ((h.directly_iff hl hd hparent).mpr (.inr ⟨hpar, rfl, o, ha, ho⟩)) ?_
        h.profile?_new hname
      rw [h.profile?_of_lt (f.lt_of_profile? hp), hp]
    · refine .loop ((h.inTree_iff hl hparent).mpr (.inr ⟨rfl, p, o, hpar, ha, ?_⟩))
        h.profile?_new hs hv
      rw [hs, Option.isSome_some, if_pos rfl]

theorem Sprout.scopeOf?_of_directly (hl : Linked d f) (h : Sprout f g q parent) {s : ScopeId}
    {p id : NodeId} (hdir : f.Directly d s p id) : g.scopeOf? id = f.scopeOf? id := by
  obtain ⟨o, ha, -, hc⟩ := hdir
  exact h.scopeOf?_of_lt (hl.lt_of_part (ha.le hl).1 ((Forest.mem_children f).mp hc))

end Sprout

/-! ## What a new node does to the scopes -/

/-- The scopes take no notice of a new node, other than that its own is there. -/
structure Ignores (f g : Forest) (id : NodeId) (q : Profile) : Prop where
  own : ∀ s, q.scope = some s → s = f.nextScope ∧ g.scope? s = some { node := some id }
  other : ∀ s, q.scope ≠ some s → g.scope? s = f.scope? s

/-- A scope binds a new node under a name, if it is given one, and the scope of the node goes into
it. -/
structure Enrolls (f g : Forest) (around : ScopeId) (id : NodeId) (q : Profile)
    (name : Option String) : Prop where
  outer : ∀ sc, f.scope? around = some sc → g.scope? around = some { sc with
    symbols := sc.symbols ++ name.toList.map fun n => (n, id)
    children := sc.children ++ q.scope.toList }
  own : ∀ s, q.scope = some s → s = f.nextScope ∧ g.scope? s = some
    { node := some id, parent := some around, symbols := q.loopVariable.toList.map fun n => (n, id) }
  other : ∀ s, s ≠ around → q.scope ≠ some s → g.scope? s = f.scope? s
  fresh : ∀ sc n, f.scope? around = some sc → name = some n → n ∉ sc.symbols.map Prod.fst

section Reflects

variable {valid : String → Bool} {d : NodeId} {s : ScopeId} {f g : Forest} {q : Profile}
  {parent : Option NodeId}

/-- A new scope binds the variable of its node, if there is one. -/
theorem Reflects.new (loopName? : Option String) (id : NodeId) {node above : Option NodeId}
    (hdir : ∀ p id, ¬ g.Directly d s p id)
    (hbinds : ∀ name id', g.Binds valid d s name id' ↔
      (name, id') ∈ loopName?.toList.map fun n => (n, id)) :
    g.Reflects valid d s
      { node, parent := above, symbols := loopName?.toList.map fun n => (n, id) } := by
  refine ⟨fun name id' => (hbinds name id').symm, ?_, [], rfl, .nil, fun id' => ?_⟩
  · cases loopName? <;> simp
  · refine iff_of_false List.not_mem_nil ?_
    rintro ⟨-, p, hp⟩
    exact hdir p id' hp

/-- A scope that binds a new node under its name, and takes in its scope, goes on to reflect the
tree. -/
theorem Reflects.extend {sc : Scope} {name? : Option String} (hr : f.Reflects valid d s sc)
    (p : NodeId) (hl : Linked d f) (h : Sprout f g q parent)
    (hbinds : ∀ name id, g.Binds valid d s name id ↔ f.Binds valid d s name id ∨
      (id = f.nextNode ∧ name? = some name))
    (hdir : ∀ p' id, g.Directly d s p' id ↔ f.Directly d s p' id ∨ (p' = p ∧ id = f.nextNode))
    (hfresh : ∀ name, name? = some name → name ∉ sc.symbols.map Prod.fst) :
    g.Reflects valid d s { sc with
      symbols := sc.symbols ++ name?.toList.map fun n => (n, f.nextNode)
      children := sc.children ++ q.scope.toList } := by
  obtain ⟨ids, heq, hlt, hmem⟩ := hr.children
  have hids : ∀ id ∈ ids, id < f.nextNode ∧ g.scopeOf? id = f.scopeOf? id := by
    intro id hid
    obtain ⟨-, p', hp'⟩ := (hmem id).mp hid
    refine ⟨?_, h.scopeOf?_of_directly hl hp'⟩
    obtain ⟨o', ha, -, hc⟩ := hp'
    exact hl.lt_of_part (ha.le hl).1 ((Forest.mem_children f).mp hc)
  have hnew : g.scopeOf? f.nextNode = q.scope := by rw [h.scopeOf?, if_pos rfl]
  refine ⟨fun name id => ?_, ?_, ids ++ (if q.scope.isSome then [f.nextNode] else []), ?_, ?_,
    fun id => ?_⟩
  · rw [List.mem_append, hr.symbols, hbinds]
    refine or_congr_right ?_
    cases name? <;> simp [and_comm, eq_comm]
  · cases name? with
    | none => simpa using hr.distinct
    | some name =>
      rw [Option.toList_some, List.map_singleton, List.map_append, List.map_singleton]
      refine List.nodup_append.mpr ⟨hr.distinct, List.pairwise_singleton _ _, ?_⟩
      rintro a ha b hb rfl
      rw [List.mem_singleton.mp hb] at ha
      exact hfresh name rfl ha
  · rw [List.map_append, List.map_append, heq,
      List.map_congr_left fun id hid => (hids id hid).2.symm]
    cases hq : q.scope with
    | none => rfl
    | some s => simp [hnew, hq]
  · refine List.pairwise_append.mpr ⟨hlt, by split <;> simp, fun a ha b hb => ?_⟩
    split at hb
    · rw [List.mem_singleton.mp hb]
      exact (hids a ha).1
    · exact absurd hb List.not_mem_nil
  · rw [List.mem_append, hmem]
    constructor
    · rintro (⟨hsome, p', hp'⟩ | hid)
      · exact ⟨by rw [h.scopeOf?_of_directly hl hp', hsome], p', (hdir p' id).mpr (.inl hp')⟩
      · split at hid
        · next hsome =>
          obtain rfl := List.mem_singleton.mp hid
          exact ⟨by rw [hnew, hsome], p, (hdir p _).mpr (.inr ⟨rfl, rfl⟩)⟩
        · exact absurd hid List.not_mem_nil
    · rintro ⟨hsome, p', hp'⟩
      rcases (hdir p' id).mp hp' with hp' | ⟨-, rfl⟩
      · exact .inl ⟨by rw [← h.scopeOf?_of_directly hl hp', hsome], p', hp'⟩
      · rw [hnew] at hsome
        exact .inr (by rw [if_pos hsome]; exact List.mem_singleton.mpr rfl)

end Reflects

section Scoped

variable {valid : String → Bool} {d : NodeId} {s₀ : ScopeId} {f g : Forest} {q : Profile}
  {parent : Option NodeId}

theorem lt_of_scope? {s : ScopeId} {sc : Scope} (h : f.scope? s = some sc) : s < f.nextScope := by
  obtain ⟨hlt, -⟩ := Array.getElem?_eq_some_iff.mp h
  exact hlt

theorem Scoped.lt (hs : f.Scoped valid d s₀) : s₀ < f.nextScope := by
  obtain ⟨-, sc, hsc, -⟩ := hs.owned d s₀ (Nat.le_refl d) hs.document
  exact lt_of_scope? hsc

/-- Nothing lies directly in a scope that is not there. -/
theorem Scoped.not_directly (hs : f.Scoped valid d s₀) (hl : Linked d f) {s : ScopeId}
    (hnew : f.nextScope ≤ s) (p id : NodeId) : ¬ f.Directly d s p id := by
  rintro ⟨o, ha, ho, -⟩
  obtain ⟨-, sc, hsc, -⟩ := hs.owned o s (ha.le hl).2 ho
  exact absurd (lt_of_scope? hsc) (Nat.not_lt_of_le hnew)

theorem Scoped.not_binds (hs : f.Scoped valid d s₀) (hl : Linked d f) {s : ScopeId}
    (hnew : f.nextScope ≤ s) (name : String) (id : NodeId) : ¬ f.Binds valid d s name id := by
  intro hb
  cases hb with
  | symbol hdir _ _ _ => exact hs.not_directly hl hnew _ _ hdir
  | loop ha hq hscope _ =>
    obtain ⟨-, sc, hsc, -⟩ :=
      hs.owned id s (ha.le hl).1 (by rw [scopeOf?, hq, Option.bind_some, hscope])
    exact absurd (lt_of_scope? hsc) (Nat.not_lt_of_le hnew)

/-- A new node that is not in the tree, and that the scopes ignore, keeps the two in step. -/
theorem Scoped.ignore (hs : f.Scoped valid d s₀) (hl : Linked d f) (hd : d < f.nextNode)
    (h : Sprout f g q parent) (hparent : ∀ p, parent = some p → ∀ o, ¬ f.InTree d p o)
    (hne : parent ≠ some f.nextNode) (hi : f.Ignores g f.nextNode q) : g.Scoped valid d s₀ := by
  have hdir : ∀ s p id, g.Directly d s p id ↔ f.Directly d s p id := by
    intro s p id
    rw [h.directly_iff hl hd hne]
    exact or_iff_left fun ⟨hp, _, o, ha, _⟩ => hparent p hp o ha
  have hbinds : ∀ s name id, g.Binds valid d s name id ↔ f.Binds valid d s name id := by
    intro s name id
    rw [h.binds_iff hl hd hne]
    exact or_iff_left fun ⟨_, p, o, _, hp, ha, _⟩ => hparent p hp o ha
  refine ⟨?_, fun o s ho hos => ?_, fun s sc hle hsc => ?_⟩
  · rw [h.scopeOf?_of_lt hd]
    exact hs.document
  · rw [h.scopeOf?] at hos
    split at hos
    · next heq =>
      obtain ⟨rfl, hown⟩ := hi.own s hos
      exact ⟨Nat.le_of_lt hs.lt, _, hown, congrArg some heq.symm⟩
    · obtain ⟨hle, sc, hsc, hnode⟩ := hs.owned o s ho hos
      refine ⟨hle, sc, ?_, hnode⟩
      rw [hi.other s, hsc]
      intro heq
      rw [(hi.own s heq).1] at hsc
      exact absurd (lt_of_scope? hsc) (Nat.lt_irrefl _)
  · by_cases hown : q.scope = some s
    · obtain ⟨rfl, hempty⟩ := hi.own s hown
      obtain rfl := Option.some.inj (hsc.symm.trans hempty)
      refine Reflects.new none f.nextNode (fun p id hp => ?_) fun name id => ?_
      · exact hs.not_directly hl (Nat.le_refl _) p id ((hdir _ p id).mp hp)
      · rw [hbinds]
        exact iff_of_false (hs.not_binds hl (Nat.le_refl _) name id) List.not_mem_nil
    · rw [hi.other s hown] at hsc
      exact (hs.reflects s sc hle hsc).keep (hbinds s) (hdir s)
        fun _ _ => h.scopeOf?_of_directly hl

/-- A new node in the tree, which the scope around it takes up, keeps the two in step. -/
theorem Scoped.enroll (hs : f.Scoped valid d s₀) (hl : Linked d f) (hd : d < f.nextNode)
    {p o : NodeId} {above : Profile} {around : ScopeId} (h : Sprout f g q (some p))
    (hne : p ≠ f.nextNode) (hp : f.InTree d p o) (ho : f.scopeOf? o = some around)
    (habove : f.profile? p = some above)
    (he : f.Enrolls g around f.nextNode q (q.symbolIn valid above)) : g.Scoped valid d s₀ := by
  replace hne : some p ≠ some f.nextNode := fun heq => hne (Option.some.inj heq)
  have hdir : ∀ s p' id, g.Directly d s p' id ↔ f.Directly d s p' id ∨
      (s = around ∧ p' = p ∧ id = f.nextNode) := by
    intro s p' id
    rw [h.directly_iff hl hd hne]
    refine or_congr_right ⟨?_, ?_⟩
    · rintro ⟨hp', rfl, o', ha, ho'⟩
      obtain rfl := Option.some.inj hp'
      obtain rfl := hp.unique hl ha
      exact ⟨Option.some.inj (ho'.symm.trans ho), rfl, rfl⟩
    · rintro ⟨rfl, rfl, rfl⟩
      exact ⟨rfl, rfl, o, hp, ho⟩
  have hbinds : ∀ s name id, g.Binds valid d s name id ↔ f.Binds valid d s name id ∨
      (id = f.nextNode ∧ ((s = around ∧ q.symbolIn valid above = some name) ∨
        (q.scope = some s ∧ q.loopVariable = some name))) := by
    intro s name id
    rw [h.binds_iff hl hd hne]
    refine or_congr_right (and_congr_right fun _ => ⟨?_, ?_⟩)
    · rintro ⟨p', o', above', hp', ha, habove', hcases⟩
      obtain rfl := Option.some.inj hp'
      obtain rfl := hp.unique hl ha
      obtain rfl := Option.some.inj (habove.symm.trans habove')
      refine hcases.imp_left fun ⟨ho', hname⟩ => ⟨?_, hname⟩
      exact Option.some.inj (ho'.symm.trans ho)
    · intro hcases
      refine ⟨p, o, above, rfl, hp, habove, hcases.imp_left ?_⟩
      rintro ⟨rfl, hname⟩
      exact ⟨ho, hname⟩
  obtain ⟨hle₀, sc₀, hsc₀, hnode₀⟩ := hs.owned o around (hp.le hl).2 ho
  have hown_ne : ∀ s, q.scope = some s → s ≠ around := by
    rintro s hown rfl
    exact absurd (lt_of_scope? hsc₀) (by rw [(he.own s hown).1]; exact Nat.lt_irrefl _)
  refine ⟨?_, fun o' s ho' hos => ?_, fun s sc hle hsc => ?_⟩
  · rw [h.scopeOf?_of_lt hd]
    exact hs.document
  · rw [h.scopeOf?] at hos
    split at hos
    · next heq =>
      obtain ⟨rfl, hown⟩ := he.own s hos
      exact ⟨Nat.le_of_lt hs.lt, _, hown, congrArg some heq.symm⟩
    · obtain ⟨hle, sc, hsc, hnode⟩ := hs.owned o' s ho' hos
      refine ⟨hle, ?_⟩
      by_cases heq : s = around
      · subst heq
        exact ⟨_, he.outer sc hsc, hnode⟩
      · refine ⟨sc, ?_, hnode⟩
        rw [he.other s heq, hsc]
        intro hown
        rw [(he.own s hown).1] at hsc
        exact absurd (lt_of_scope? hsc) (Nat.lt_irrefl _)
  · by_cases hown : q.scope = some s
    · -- the scope of the new node itself
      have hne := hown_ne s hown
      obtain ⟨rfl, hnew⟩ := he.own s hown
      obtain rfl := Option.some.inj (hsc.symm.trans hnew)
      refine .new q.loopVariable f.nextNode (fun p' id hp' => ?_) fun name id => ?_
      · rcases (hdir _ p' id).mp hp' with hp' | ⟨heq, -⟩
        · exact hs.not_directly hl (Nat.le_refl _) p' id hp'
        · exact hne heq
      · have hno := hs.not_binds hl (Nat.le_refl f.nextScope) name id
        rw [hbinds]
        cases q.loopVariable <;> simp [hno, hown, hne, and_comm, eq_comm]
    · by_cases heq : s = around
      · subst heq
        obtain rfl := Option.some.inj (hsc.symm.trans (he.outer sc₀ hsc₀))
        refine (hs.reflects s sc₀ hle hsc₀).extend p hl h (fun name id => ?_) (fun p' id => ?_)
          fun name => he.fresh sc₀ name hsc₀
        · rw [hbinds]
          simp [hown]
        · rw [hdir]
          simp
      · rw [he.other s heq hown] at hsc
        refine (hs.reflects s sc hle hsc).keep (fun name id => ?_) (fun p' id => ?_)
          fun _ _ => h.scopeOf?_of_directly hl
        · rw [hbinds]
          simp [heq, hown]
        · rw [hdir]
          simp [heq]

/-- The innermost node with a scope has one. -/
theorem Scoped.owner (hs : f.Scoped valid d s₀) {id o : NodeId} (h : f.InTree d id o) :
    ∃ s, f.scopeOf? o = some s := by
  induction h with
  | root => exact ⟨s₀, hs.document⟩
  | owner _ _ hsome _ => exact Option.isSome_iff_exists.mp hsome
  | inner _ _ _ ih => exact ih

/-- A new node without names or scope does not matter to the scopes. -/
theorem Scoped.plain (hs : f.Scoped valid d s₀) (hl : Linked d f) (hd : d < f.nextNode)
    (h : Sprout f g q parent) (hne : parent ≠ some f.nextNode) (hscopes : g.scopes = f.scopes)
    (hsymbol : q.symbol = none) (hscope : q.scope = none) : g.Scoped valid d s₀ := by
  have hsame : ∀ s, g.scope? s = f.scope? s := fun s => by
    rw [Forest.scope?, hscopes, Forest.scope?]
  by_cases hheld : ∃ p o, parent = some p ∧ f.InTree d p o
  · obtain ⟨p, o, rfl, ho⟩ := hheld
    obtain ⟨around, haround⟩ := hs.owner ho
    obtain ⟨above, habove⟩ := f.exists_profile? (ho.lt hl hd).1
    refine hs.enroll hl hd h (fun heq => hne (congrArg some heq)) ho haround habove
      ⟨fun sc hsc => ?_, fun s hown => ?_, fun s _ _ => hsame s, fun sc n _ hn => ?_⟩
    · rw [hsame, hsc, Profile.symbolIn, hsymbol, hscope]
      simp
    · rw [hscope] at hown
      cases hown
    · rw [Profile.symbolIn, hsymbol] at hn
      cases hn
  · refine hs.ignore hl hd h (fun p hp o ho => hheld ⟨p, o, hp, ho⟩) hne
      ⟨fun s hown => ?_, fun s _ => hsame s⟩
    rw [hscope] at hown
    cases hown

end Scoped

/-! ## Writing to scopes -/

section Writing

variable {f g : Forest} {around : ScopeId} {name? : Option String} {id : NodeId}

theorem bind?_scope? (h : f.bind? id (name?.map (around, ·)) = .ok g) (s : ScopeId) :
    g.scope? s = if around = s then (f.scope? s).map fun sc =>
      { sc with symbols := sc.symbols ++ name?.toList.map fun n => (n, id) } else f.scope? s := by
  cases name? with
  | none =>
    rw [Except.ok.inj h]
    split <;> simp
  | some name =>
    rw [(define_ok h).2.2, scope?_modifyScope]
    rfl

/-- Only a name that is not bound yet can be bound. -/
theorem bind?_fresh (h : f.bind? id (name?.map (around, ·)) = .ok g) {sc : Scope} {name : String}
    (hsc : f.scope? around = some sc) (hname : name? = some name) :
    name ∉ sc.symbols.map Prod.fst := by
  subst hname
  have hfree := (define_ok h).2.1
  rw [hsc, Option.getD_some] at hfree
  simp only [Assoc.contains, List.any_eq_false, beq_iff_eq] at hfree
  intro hmem
  obtain ⟨x, hx, heq⟩ := List.mem_map.mp hmem
  exact hfree x hx heq

/-- A name that is not empty can be bound in a scope that binds nothing. -/
theorem define_empty (id : NodeId) {s : ScopeId} {name : String} (hname : name ≠ "") {sc : Scope}
    (hsc : f.scope? s = some sc) (hsymbols : sc.symbols = []) :
    f.define s name id = .ok (f.modifyScope s fun sc =>
      { sc with symbols := sc.symbols ++ [(name, id)] }) := by
  have hempty : name.isEmpty = false := by simpa using hname
  unfold define
  dsimp only
  rw [hsc, Option.getD_some, hsymbols, hempty, if_neg Bool.false_ne_true]
  rfl

theorem pushScope_scope? (f : Forest) {p c : ScopeId} (hne : p ≠ c) (s : ScopeId) :
    (f.pushScope p c).scope? s =
      if p = s then (f.scope? s).map fun sc => { sc with children := sc.children ++ [c] }
      else if c = s then (f.scope? s).map fun sc => { sc with parent := some p }
      else f.scope? s := by
  rw [pushScope, scope?_modifyScope]
  split
  · next heq =>
    subst heq
    rw [scope?_modifyScope, if_neg (Ne.symm hne)]
  · rw [scope?_modifyScope]

end Writing

end Forest
end Wdl
