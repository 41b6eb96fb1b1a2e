import Wdl.Proofs.Document.Links

/-!
Forests that come about by attaching nodes.

Requests to attach nodes to others come one after the other and in any order.  A `Regular` forest
has below a node only what the node accepts, no two parts of a node that count as the same, and at
most one part of a kind that the node has room for once.  A forest of nodes without parts is
regular, and a request keeps it so.
-/

namespace Wdl

/-! ## Bodies -/

namespace Body

/-- Whether a body has room for one node of a kind only. -/
def single (b : Body) (k : Kind) : Bool :=
  match b with
  | .document _ => k == .workflow
  | .declaration _ => k == .expression
  | .entry _ => k == .expression
  | .region _ => k == .expression
  | .task _ _ => (k matches .block _)
  | .workflow _ _ => (k matches .block _)
  | _ => false

/-- The block of a kind. -/
def block? (b : Body) (k : BlockKind) : Option NodeId :=
  match b with
  | .task x _ => x.blocks.lookup k
  | .workflow x _ => x.blocks.lookup k
  | _ => none

/-- The node of a kind that a body has room for once. -/
def only? (b : Body) (k : Kind) : Option NodeId :=
  match b, k with
  | .document d, .workflow => d.workflow
  | .declaration d, .expression => d.initializer
  | .entry e, .expression => e.expression
  | .region r, .expression => r.expression
  | b, .block k => b.block? k
  | _, _ => none

variable {b child : Body} {id : NodeId}

theorem accepts_adopt : (b.adopt id child).accepts = b.accepts := by
  cases b <;> cases child <;> rfl

theorem single_adopt : (b.adopt id child).single = b.single := by
  cases b <;> cases child <;> rfl

theorem kind_adopt : (b.adopt id child).kind = b.kind := by
  cases b <;> cases child <;> rfl

theorem accepts_file (k : BlockKind) : (b.file k id child).accepts = b.accepts := by
  cases b <;> rfl

theorem single_file (k : BlockKind) : (b.file k id child).single = b.single := by
  cases b <;> rfl

theorem kind_file (k : BlockKind) : (b.file k id child).kind = b.kind := by
  cases b <;> rfl

theorem block?_file (k : BlockKind) : (b.file k id child).block? = b.block? := by
  cases b with
  | task x t => cases k <;> cases child <;> rfl
  | workflow x w => cases k <;> cases child <;> rfl
  | _ => rfl

theorem only?_file (k : BlockKind) : (b.file k id child).only? = b.only? := by
  funext k'
  cases k' with
  | block k' =>
    have hblock : (b.file k id child).block? k' = b.block? k' := congrFun (block?_file k) k'
    cases b <;> exact hblock
  | _ => cases b <;> rfl

theorem only?_of_not_single {k : Kind} (h : b.single k = false) : b.only? k = none := by
  cases k <;> cases b <;> first | rfl | exact nomatch h

theorem mem_blocks {x : Executable} {k : BlockKind} (h : x.blocks.lookup k = some id) :
    id ∈ blocks x :=
  List.mem_filterMap.mpr ⟨k, by cases k <;> decide, h⟩

theorem mem_parts_of_only? {k : Kind} (h : b.only? k = some id) : id ∈ b.parts := by
  cases k with
  | workflow =>
    cases b with
    | document d =>
      have hworkflow : d.workflow = some id := h
      simp only [parts, List.mem_append, Option.mem_toList, hworkflow, true_or]
    | _ => cases h
  | expression =>
    cases b with
    | declaration d => exact Option.mem_toList.mpr h
    | entry e => exact Option.mem_toList.mpr h
    | region r =>
      have hexpression : r.expression = some id := h
      simp only [parts, List.mem_append, Option.mem_toList, hexpression, true_or]
    | _ => cases h
  | block k =>
    cases b with
    | task x t => exact List.mem_append_left _ (mem_blocks h)
    | workflow x w => simp only [parts, List.mem_append, mem_blocks h, true_or]
    | _ => cases h
  | _ => cases b <;> cases h

theorem kind_region (r : RegionBody) :
    (region r).kind = .scatter ∨ (region r).kind = .conditional := by
  unfold kind
  dsimp only
  split
  · exact .inl rfl
  · exact .inr rfl

theorem single_region (r : RegionBody) : b.single (region r).kind = false := by
  rcases kind_region r with hkind | hkind
  all_goals
    rw [hkind]
    cases b <;> rfl

/-- A node objects to another of a kind that it has room for once if it has one. -/
theorem only?_of_objection {f : Forest} (hobjection : f.objection? b child = none)
    (hsingle : b.single child.kind = true) : b.only? child.kind = none := by
  cases child with
  | region r => cases (single_region r).symm.trans hsingle
  | workflow x w =>
    cases b with
    | document d => exact Option.map_eq_none_iff.mp hobjection
    | _ => cases hsingle
  | expression e =>
    cases b with
    | declaration d =>
      show d.initializer = none
      simpa [Forest.objection?, isStruct] using hobjection
    | entry d =>
      show d.expression = none
      simpa [Forest.objection?, isStruct] using hobjection
    | region r =>
      show r.expression = none
      simpa [Forest.objection?, isStruct] using hobjection
    | _ => cases hsingle
  | block k items =>
    cases b with
    | task x t => exact lookup_of_objection items hobjection
    | workflow x w => exact lookup_of_objection items hobjection
    | _ => cases hsingle
  | _ => cases b <;> cases hsingle

theorem document_of_struct {f : Forest} (hobjection : f.objection? b child = none)
    (hstruct : child.isStruct = true) : b.kind = .document := by
  refine Decidable.byContradiction fun hkind => ?_
  unfold Forest.objection? at hobjection
  rw [if_pos (by simp [hstruct, hkind])] at hobjection
  exact nomatch hobjection

theorem lookup_append_self {l : List (BlockKind × NodeId)} {k : BlockKind}
    (h : l.lookup k = none) : (l ++ [(k, id)]).lookup k = some id := by
  rw [List.lookup_append, h, List.lookup_cons, beq_self_eq_true]
  rfl

theorem lookup_append_of_ne {l : List (BlockKind × NodeId)} {k k' : BlockKind} (h : k' ≠ k) :
    (l ++ [(k, id)]).lookup k' = l.lookup k' := by
  rw [List.lookup_append, List.lookup_cons, beq_eq_false_iff_ne.mpr h, List.lookup_nil,
    Option.or_none]

/-- The node that is adopted becomes the only one of its kind, where there is room for one. -/
theorem only?_adopt_self (hsingle : b.single child.kind = true)
    (hnone : b.only? child.kind = none) : (b.adopt id child).only? child.kind = some id := by
  cases child with
  | region r => exact nomatch (single_region r).symm.trans hsingle
  | block k items =>
    cases b with
    | task x t => exact lookup_append_self hnone
    | workflow x w => exact lookup_append_self hnone
    | _ => exact nomatch hsingle
  | _ => cases b <;> first | rfl | exact nomatch hsingle

theorem only?_adopt_of_ne {k : Kind} (h : k ≠ child.kind) :
    (b.adopt id child).only? k = b.only? k := by
  cases k with
  | block k' =>
    cases b <;> cases child <;>
      first | rfl | exact lookup_append_of_ne fun heq => h (congrArg Kind.block heq)
  | _ => cases b <;> cases child <;> first | rfl | exact absurd rfl h

end Body

/-! ## What an adoption changes -/

/-- Lists items in a body. -/
def Body.fileAll (b : Body) (filings : List Forest.Filing) : Body :=
  filings.foldl (fun b x => b.file x.kind x.id x.item) b

/-- What listing does not change. -/
theorem Body.fileAll_keeps {α : Type} {F : Body → α}
    (hF : ∀ b k id item, F (b.file k id item) = F b) (b : Body) (filings : List Forest.Filing) :
    F (b.fileAll filings) = F b := by
  induction filings generalizing b with
  | nil => rfl
  | cons x xs ih => exact (ih _).trans (hF ..)

namespace Forest

variable {f g : Forest} {parent child j : NodeId} {p c : Node}

theorem body?_modifyBody (f : Forest) (id : NodeId) (change : Body → Body) (j : NodeId) :
    (f.modifyBody id change).body? j = (f.body? j).map fun b => if id = j then change b else b := by
  rw [body?, body?, node?_modifyBody]
  split
  · cases f.node? j <;> rfl
  · cases f.node? j <;> rfl

theorem body?_linkTo : (f.linkTo parent child).body? j = f.body? j := by
  rw [body?, body?, linkTo, node?_modifyNode]
  split
  · cases f.node? j <;> rfl
  · rfl

theorem body?_fileAll (f : Forest) (filings : List Filing) (j : NodeId) :
    (f.fileAll filings).body? j =
      (f.body? j).map fun b => b.fileAll (filings.filter fun x => x.owner == j) := by
  induction filings generalizing f with
  | nil => exact Option.map_id'.symm
  | cons x xs ih =>
    refine (ih _).trans ?_
    rw [body?_modifyBody, Option.map_map, List.filter_cons]
    congr 1
    funext b
    by_cases hx : x.owner = j
    · rw [beq_iff_eq.mpr hx]
      simp only [Function.comp_apply, if_pos hx]
      rfl
    · rw [beq_eq_false_iff_ne.mpr hx]
      simp only [Function.comp_apply, if_neg hx]
      rfl

/-- The bodies after an adoption: a new node in its parent, and items listed where they belong. -/
theorem body?_adopt (f : Forest) (parent : NodeId) (p : Node) (child : NodeId) (c : Node) :
    ∃ filings : List Filing, ∀ j, (f.adopt parent p child c).body? j = (f.body? j).map fun b =>
      (if j = parent then b.adopt child c.body else b).fileAll
        (filings.filter fun x => x.owner == j) := by
  obtain ⟨filings, hadopt⟩ := adopt_eq f parent p child c
  refine ⟨filings, fun j => ?_⟩
  rw [hadopt, ← linkTo, body?_linkTo, body?_fileAll, body?_modifyBody, Option.map_map]
  congr 1
  funext b
  simp only [Function.comp_apply, eq_comm]

/-- What can be read off a body, after an adoption. -/
theorem map_body?_adopt {α : Type} {F : Body → α} (hF : ∀ b k id item, F (b.file k id item) = F b)
    (j : NodeId) : ((f.adopt parent p child c).body? j).map F = (f.body? j).map fun b =>
      F (if j = parent then b.adopt child c.body else b) := by
  obtain ⟨filings, h⟩ := body?_adopt f parent p child c
  rw [h, Option.map_map]
  congr 1
  funext b
  exact Body.fileAll_keeps hF _ _

/-! An adoption lists what it puts into a block, what a block that it puts in holds, or nothing. -/

theorem adopt_into_block {k : BlockKind} {items : List NodeId} (hp : p.body = .block k items) :
    f.adopt parent p child c =
      ((f.modifyBody parent fun b => b.adopt child c.body).fileAll
        (p.parent.toList.map fun owner => ⟨owner, k, child, c.body⟩)).linkTo parent child := by
  unfold adopt
  rw [hp]
  cases p.parent <;> rfl

theorem adopt_block {k : BlockKind} {items : List NodeId}
    (hp : ∀ k items, p.body ≠ .block k items) (hc : c.body = .block k items) :
    f.adopt parent p child c =
      ((f.modifyBody parent fun b => b.adopt child c.body).fileItems parent k items).linkTo parent
        child := by
  unfold adopt
  rw [hc]
  split
  · next k items heq => exact absurd heq (hp k items)
  · next heq _ =>
    obtain ⟨rfl, rfl⟩ := Body.block.inj heq
    rfl
  · next h => exact absurd rfl (h k items)

theorem adopt_other (hp : ∀ k items, p.body ≠ .block k items)
    (hc : ∀ k items, c.body ≠ .block k items) :
    f.adopt parent p child c =
      (f.modifyBody parent fun b => b.adopt child c.body).linkTo parent child := by
  unfold adopt
  dsimp only
  split
  · next k items heq => exact absurd heq (hp k items)
  · next k items heq _ => exact absurd heq (hc k items)
  · rfl

theorem exists_body?_of_adopt {b : Body} (h : (f.adopt parent p child c).body? j = some b) :
    ∃ b₀, f.body? j = some b₀ ∧ ∃ filings,
      b = (if j = parent then b₀.adopt child c.body else b₀).fileAll filings := by
  obtain ⟨filings, hbodies⟩ := body?_adopt f parent p child c
  rw [hbodies] at h
  obtain ⟨b₀, hb₀, rfl⟩ := Option.map_eq_some_iff.mp h
  exact ⟨b₀, hb₀, _, rfl⟩

/-! ## Regular forests -/

/-- What two nodes below the same one differ in. -/
def mark? (f : Forest) (id : NodeId) : Option (Kind × Span) :=
  (f.profile? id).map fun q => (q.kind, q.span)

structure Regular (f : Forest) : Prop where
  /-- nodes have only parts that they accept, and a struct is part of a document -/
  accepted : ∀ p b c, f.body? p = some b → c ∈ b.parts →
    ∃ m, f.body? c = some m ∧ b.accepts m.kind = true ∧ (m.isStruct = true → b.kind = .document)
  /-- no two parts of a node count as the same -/
  distinct : ∀ p, (f.parts p).Pairwise fun c c' => f.mark? c ≠ f.mark? c'
  /-- of a kind that there is room for once the only part is the one that is kept as such -/
  only : ∀ p b c k, f.body? p = some b →
    (b.only? k = some c ↔ b.single k = true ∧ c ∈ b.parts ∧ f.kind? c = some k)

/-- A node takes in another that it accepts and does not have, without an objection. -/
structure Adopts (f : Forest) (parent child : NodeId) (p c : Node) : Prop where
  parent_eq : f.node? parent = some p
  child_eq : f.node? child = some c
  accepts : p.body.accepts c.kind = true
  twin : f.twin? parent c = none
  objection : f.objection? p.body c.body = none

namespace Adopts

theorem grafts (h : Adopts f parent child p c) :
    Grafts f (f.adopt parent p child c) parent child :=
  adopt_grafts h.parent_eq h.child_eq h.accepts h.objection

theorem body?_parent (h : Adopts f parent child p c) : f.body? parent = some p.body := by
  rw [body?, h.parent_eq, Option.map_some]

theorem body?_child (h : Adopts f parent child p c) : f.body? child = some c.body := by
  rw [body?, h.child_eq, Option.map_some]

theorem kind?_child (h : Adopts f parent child p c) : f.kind? child = some c.kind := by
  rw [kind?, h.child_eq, Option.map_some]

theorem document_of_struct (h : Adopts f parent child p c) (hstruct : c.body.isStruct = true) :
    p.body.kind = .document :=
  Body.document_of_struct h.objection hstruct

/-- The parts of a node after an adoption. -/
theorem mem_parts (h : Adopts f parent child p c) {id j : NodeId} {b b₀ : Body}
    {filings : List Filing} (hb₀ : f.body? j = some b₀)
    (hb : b = (if j = parent then b₀.adopt child c.body else b₀).fileAll filings) :
    id ∈ b.parts ↔ id ∈ b₀.parts ∨ (j = parent ∧ id = child) := by
  rw [hb, Body.fileAll_keeps Body.parts_file]
  by_cases hj : j = parent
  · subst hj
    obtain rfl := Option.some.inj (hb₀.symm.trans h.body?_parent)
    rw [if_pos rfl, (Body.perm_parts_adopt h.accepts h.objection child).mem_iff, List.mem_append,
      List.mem_singleton]
    simp only [true_and]
  · rw [if_neg hj]
    simp only [hj, false_and, or_false]

end Adopts

theorem kind?_eq (f : Forest) (id : NodeId) : f.kind? id = (f.profile? id).map Profile.kind := by
  rw [kind?, profile?, Option.map_map]
  rfl

theorem kind?_of_profile? {id : NodeId} {q : Profile} (h : f.profile? id = some q) :
    f.kind? id = some q.kind := by
  rw [kind?_eq, h, Option.map_some]

theorem kind?_of_body? {id : NodeId} {b : Body} (h : f.body? id = some b) :
    f.kind? id = some b.kind := by
  obtain ⟨n, hn, rfl⟩ := Option.map_eq_some_iff.mp h
  rw [kind?, hn, Option.map_some]
  rfl

theorem body?_of_kind? {id : NodeId} {k : Kind} (h : f.kind? id = some k) :
    ∃ b, f.body? id = some b ∧ b.kind = k := by
  obtain ⟨n, hn, hkind⟩ := Option.map_eq_some_iff.mp h
  exact ⟨n.body, by rw [body?, hn, Option.map_some], hkind⟩

theorem Grafts.kind? (h : Grafts f g parent child) (id : NodeId) : g.kind? id = f.kind? id := by
  rw [kind?_eq, kind?_eq, h.profile?]

theorem Grafts.mark? (h : Grafts f g parent child) : g.mark? = f.mark? := by
  funext id
  rw [Forest.mark?, Forest.mark?, h.profile?]

/-- What kind of node there is stays the same. -/
theorem Grafts.exists_body? (h : Grafts f g parent child) {id : NodeId} {m : Body}
    (hm : f.body? id = some m) :
    ∃ m', g.body? id = some m' ∧ m'.kind = m.kind ∧ m'.isStruct = m.isStruct := by
  obtain ⟨n, hn, rfl⟩ := Option.map_eq_some_iff.mp hm
  have hprofile := h.profile? id
  rw [f.profile?_of_node? hn] at hprofile
  obtain ⟨n', hn', heq⟩ := Option.map_eq_some_iff.mp hprofile
  refine ⟨n'.body, by rw [body?, hn', Option.map_some], ?_, ?_⟩
  · exact congrArg Profile.kind heq
  · exact congrArg Profile.isStruct heq

theorem mark?_of_node? {id : NodeId} {n : Node} (h : f.node? id = some n) :
    f.mark? id = some (n.kind, n.span) := by
  rw [mark?, f.profile?_of_node? h]
  rfl

/-- A node that no part counts as differs from all parts. -/
theorem mark?_ne_of_twin {id : NodeId} (htwin : f.twin? parent c = none)
    (hid : id ∈ f.parts parent) : f.mark? id ≠ some (c.kind, c.span) := by
  intro hmark
  obtain ⟨q, hq, heq⟩ := Option.map_eq_some_iff.mp hmark
  obtain ⟨n, hn, rfl⟩ := Option.map_eq_some_iff.mp hq
  obtain ⟨hkind, hspan⟩ := Prod.mk.inj heq
  have hfound := List.find?_eq_none.mp htwin id (f.mem_children.mpr hid)
  rw [hn] at hfound
  refine hfound ?_
  rw [Bool.and_eq_true]
  exact ⟨beq_iff_eq.mpr hkind, beq_iff_eq.mpr hspan⟩

namespace Regular

theorem accepted_adopt (hr : Regular f) (ha : Adopts f parent child p c) (j : NodeId) (b : Body)
    (id : NodeId) (hb : (f.adopt parent p child c).body? j = some b) (hid : id ∈ b.parts) :
    ∃ m, (f.adopt parent p child c).body? id = some m ∧ b.accepts m.kind = true ∧
      (m.isStruct = true → b.kind = .document) := by
  obtain ⟨b₀, hb₀, filings, heq⟩ := exists_body?_of_adopt hb
  have haccepts : b.accepts = b₀.accepts := by
    rw [heq, Body.fileAll_keeps fun _ k _ _ => Body.accepts_file k]
    split
    · exact Body.accepts_adopt
    · rfl
  have hkind : b.kind = b₀.kind := by
    rw [heq, Body.fileAll_keeps fun _ k _ _ => Body.kind_file k]
    split
    · exact Body.kind_adopt
    · rfl
  have hbefore : ∃ m₀, f.body? id = some m₀ ∧ b₀.accepts m₀.kind = true ∧
      (m₀.isStruct = true → b₀.kind = .document) := by
    rcases (ha.mem_parts hb₀ heq).mp hid with hold | ⟨rfl, rfl⟩
    · exact hr.accepted j b₀ id hb₀ hold
    · obtain rfl := Option.some.inj (hb₀.symm.trans ha.body?_parent)
      exact ⟨c.body, ha.body?_child, ha.accepts, ha.document_of_struct⟩
  obtain ⟨m₀, hm₀, haccepted, hstruct⟩ := hbefore
  obtain ⟨m, hm, hmkind, hmstruct⟩ := ha.grafts.exists_body? hm₀
  exact ⟨m, hm, by rwa [haccepts, hmkind], by rwa [hkind, hmstruct]⟩

theorem distinct_adopt (hr : Regular f) (ha : Adopts f parent child p c) (j : NodeId) :
    ((f.adopt parent p child c).parts j).Pairwise
      fun x y => (f.adopt parent p child c).mark? x ≠ (f.adopt parent p child c).mark? y := by
  rw [ha.grafts.mark?]
  by_cases hj : j = parent
  · subst hj
    rw [ha.grafts.parts_perm.pairwise_iff Ne.symm, List.pairwise_append]
    refine ⟨hr.distinct j, List.pairwise_singleton _ _, fun x hx y hy => ?_⟩
    rw [List.mem_singleton.mp hy, mark?_of_node? ha.child_eq]
    exact mark?_ne_of_twin ha.twin hx
  · rw [ha.grafts.parts_of_ne j hj]
    exact hr.distinct j

/-- What a node takes in is the only part of its kind, where there is room for one. -/
theorem only_adopt_self (hr : Regular f) (ha : Adopts f parent child p c) {id : NodeId} :
    (p.body.adopt child c.body).only? c.kind = some id ↔ p.body.single c.kind = true ∧
      (id ∈ p.body.parts ∨ id = child) ∧ f.kind? id = some c.kind := by
  cases hs : p.body.single c.kind with
  | false =>
    rw [Body.only?_of_not_single (by rwa [Body.single_adopt])]
    simp only [reduceCtorEq, Bool.false_eq_true, false_and]
  | true =>
    have hnone : p.body.only? c.kind = none := Body.only?_of_objection ha.objection hs
    rw [show c.kind = c.body.kind from rfl, Body.only?_adopt_self hs hnone]
    constructor
    · intro hid
      obtain rfl := Option.some.inj hid
      exact ⟨rfl, .inr rfl, ha.kind?_child⟩
    · rintro ⟨-, hold | rfl, hkind⟩
      · -- an older part of the kind would have been in the place of the new one
        have holder := (hr.only parent p.body id c.kind ha.body?_parent).mpr ⟨hs, hold, hkind⟩
        exact nomatch hnone.symm.trans holder
      · rfl

theorem only_adopt_of_ne (hr : Regular f) (ha : Adopts f parent child p c) {id : NodeId} {k : Kind}
    (hk : k ≠ c.kind) :
    (p.body.adopt child c.body).only? k = some id ↔ p.body.single k = true ∧
      (id ∈ p.body.parts ∨ id = child) ∧ f.kind? id = some k := by
  rw [Body.only?_adopt_of_ne hk, hr.only parent p.body id k ha.body?_parent]
  refine and_congr_right fun _ => ⟨fun ⟨h, h'⟩ => ⟨.inl h, h'⟩, ?_⟩
  rintro ⟨hold | rfl, hkind⟩
  · exact ⟨hold, hkind⟩
  · exact absurd (Option.some.inj (hkind.symm.trans ha.kind?_child)) hk

theorem only_adopt (hr : Regular f) (ha : Adopts f parent child p c) (j : NodeId) (b : Body)
    (id : NodeId) (k : Kind) (hb : (f.adopt parent p child c).body? j = some b) :
    b.only? k = some id ↔
      b.single k = true ∧ id ∈ b.parts ∧ (f.adopt parent p child c).kind? id = some k := by
  obtain ⟨b₀, hb₀, filings, heq⟩ := exists_body?_of_adopt hb
  have hsingle : b.single = b₀.single := by
    rw [heq, Body.fileAll_keeps fun _ k _ _ => Body.single_file k]
    split
    · exact Body.single_adopt
    · rfl
  have honly : b.only? = (if j = parent then b₀.adopt child c.body else b₀).only? := by
    rw [heq, Body.fileAll_keeps fun _ k _ _ => Body.only?_file k]
  rw [ha.grafts.kind?, ha.mem_parts hb₀ heq, hsingle, honly]
  by_cases hj : j = parent
  · subst hj
    obtain rfl := Option.some.inj (hb₀.symm.trans ha.body?_parent)
    simp only [if_pos, true_and]
    by_cases hk : k = c.kind
    · subst hk
      exact hr.only_adopt_self ha
    · exact hr.only_adopt_of_ne ha hk
  · rw [if_neg hj, hr.only j b₀ id k hb₀]
    simp only [hj, false_and, or_false]

theorem adopt (hr : Regular f) (ha : Adopts f parent child p c) :
    Regular (f.adopt parent p child c) :=
  ⟨hr.accepted_adopt ha, hr.distinct_adopt ha, hr.only_adopt ha⟩

/-- Regularity is about nodes alone. -/
theorem of_nodes (hr : Regular f) (h : g.nodes = f.nodes) : Regular g := by
  obtain ⟨nodes, scopes⟩ := f
  obtain ⟨nodes', scopes'⟩ := g
  obtain rfl : nodes' = nodes := h
  exact ⟨hr.accepted, hr.distinct, hr.only⟩

/-- Where no node has parts, nothing has been attached yet. -/
theorem of_bare (h : ∀ id, f.parts id = []) : Regular f := by
  have hbody : ∀ p b, f.body? p = some b → b.parts = [] := by
    intro p b hb
    obtain ⟨n, hn, rfl⟩ := Option.map_eq_some_iff.mp hb
    exact (f.parts_of_node? hn).symm.trans (h p)
  refine ⟨fun p b c hb hc => ?_, fun p => ?_, fun p b c k hb => ?_⟩
  · rw [hbody p b hb] at hc
    exact absurd hc List.not_mem_nil
  · rw [h]
    exact .nil
  · constructor
    · intro hc
      have := Body.mem_parts_of_only? hc
      rw [hbody p b hb] at this
      exact absurd this List.not_mem_nil
    · rintro ⟨-, hc, -⟩
      rw [hbody p b hb] at hc
      exact absurd hc List.not_mem_nil

end Regular

end Forest

/-! ## Sequences of requests -/

/-- A node that is to be attached to another, with a name for it in a scope if it is to have one. -/
structure Request where
  parent : NodeId
  child : NodeId
  binding : Option (ScopeId × String) := none

namespace Forest

/-- The forest after a request. What is refused changes nothing. -/
def serve (f : Forest) (r : Request) : Forest :=
  match f.attach r.parent r.child r.binding with
  | .ok (g, _) => g
  | .error _ => f

def serveAll (f : Forest) (requests : List Request) : Forest :=
  requests.foldl serve f

variable {f g : Forest} {r : Request}

theorem bind?_nodes {child : NodeId} {binding : Option (ScopeId × String)}
    (h : f.bind? child binding = .ok g) : g.nodes = f.nodes := by
  cases binding with
  | none => rw [Except.ok.inj h]
  | some b => rw [(define_ok h).2.2, modifyScope]

theorem Adopts.of_nodes {parent child : NodeId} {p c : Node} (ha : Adopts f parent child p c)
    (h : g.nodes = f.nodes) : Adopts g parent child p c := by
  obtain ⟨nodes, scopes⟩ := f
  obtain ⟨nodes', scopes'⟩ := g
  obtain rfl : nodes' = nodes := h
  exact ⟨ha.parent_eq, ha.child_eq, ha.accepts, ha.twin, ha.objection⟩

/-- Attaching a node that is taken in binds its name and adopts it. -/
theorem Adopts.attach {parent child : NodeId} {p c : Node} (ha : Adopts f parent child p c)
    (binding : Option (ScopeId × String)) :
    f.attach parent child binding =
      (f.bind? child binding).map fun g => (g.adopt parent p child c, child) := by
  unfold Forest.attach
  rw [ha.parent_eq, ha.child_eq]
  dsimp only
  rw [ha.accepts, ha.twin, ha.objection]
  cases binding with
  | none => rfl
  | some b =>
    show (f.define b.1 b.2 child >>= _) = (f.define b.1 b.2 child).map _
    cases f.define b.1 b.2 child <;> rfl

/-- A request changes nothing, or a name is bound and the node is adopted. -/
theorem serve_cases (f : Forest) (r : Request) :
    f.serve r = f ∨ ∃ p c g, f.bind? r.child r.binding = .ok g ∧ Adopts g r.parent r.child p c ∧
      f.serve r = g.adopt r.parent p r.child c := by
  unfold serve
  cases hattach : f.attach r.parent r.child r.binding with
  | error e => exact .inl rfl
  | ok done =>
    obtain ⟨g, id⟩ := done
    cases attached_of_ok hattach with
    | absent => exact .inl rfl
    | twin => exact .inl rfl
    | @adopted p c g' hp hc haccepts htwin hobjection hbind =>
      have ha : Adopts f r.parent r.child p c := ⟨hp, hc, haccepts, htwin, hobjection⟩
      exact .inr ⟨p, c, g', hbind, ha.of_nodes (bind?_nodes hbind), rfl⟩

theorem Regular.serve (hr : Regular f) (r : Request) : Regular (f.serve r) := by
  rcases f.serve_cases r with heq | ⟨p, c, g, hbind, ha, heq⟩
  · rwa [heq]
  · rw [heq]
    exact (hr.of_nodes (bind?_nodes hbind)).adopt ha

theorem Regular.serveAll (hr : Regular f) (requests : List Request) :
    Regular (f.serveAll requests) := by
  induction requests generalizing f with
  | nil => exact hr
  | cons r rs ih => exact ih (hr.serve r)

theorem children_perm (f : Forest) (id : NodeId) : (f.children id).Perm (f.parts id) := by
  unfold children parts body?
  cases f.node? id with
  | none => exact .nil
  | some n =>
    dsimp only [Option.map_some, Option.getD_some]
    split
    · exact List.mergeSort_perm _ _
    · exact .refl _

namespace Regular

theorem children_distinct (hr : Regular f) (id : NodeId) :
    (f.children id).Pairwise fun x y => f.mark? x ≠ f.mark? y :=
  ((f.children_perm id).pairwise_iff Ne.symm).mpr (hr.distinct id)

theorem children_nodup (hr : Regular f) (id : NodeId) : (f.children id).Nodup :=
  (hr.children_distinct id).imp fun hne heq => hne (congrArg f.mark? heq)

/-- A node has at most one part of a kind that it has room for once. -/
theorem children_single (hr : Regular f) {id : NodeId} {b : Body} {k : Kind}
    (hb : f.body? id = some b) (hk : b.single k = true) :
    ((f.children id).filter fun c => f.kind? c == some k).length ≤ 1 := by
  have honly : ∀ c ∈ (f.children id).filter fun c => f.kind? c == some k, b.only? k = some c := by
    intro c hc
    obtain ⟨hmem, hkind⟩ := List.mem_filter.mp hc
    refine (hr.only id b c k hb).mpr ⟨hk, ?_, beq_iff_eq.mp hkind⟩
    obtain ⟨n, hn, rfl⟩ := Option.map_eq_some_iff.mp hb
    rw [← f.parts_of_node? hn]
    exact f.mem_children.mp hmem
  have hnodup := (hr.children_nodup id).filter fun c => f.kind? c == some k
  cases hcs : (f.children id).filter fun c => f.kind? c == some k with
  | nil => exact Nat.zero_le 1
  | cons c cs =>
    rw [hcs] at honly hnodup
    cases cs with
    | nil => exact Nat.le_refl 1
    | cons c' cs =>
      have heq : c = c' := Option.some.inj
        ((honly c List.mem_cons_self).symm.trans
          (honly c' (List.mem_cons_of_mem _ List.mem_cons_self)))
      rw [heq] at hnodup
      exact absurd List.mem_cons_self (List.nodup_cons.mp hnodup).1

end Regular
end Forest
end Wdl
