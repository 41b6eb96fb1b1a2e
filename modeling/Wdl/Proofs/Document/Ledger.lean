import Mathlib.Data.List.Basic
import Wdl.Proofs.Document.InPlace
import Wdl.Proofs.Occurrences

/-!
What tasks and workflows list of their blocks.

The items of a block are listed once more by the task or workflow that has the block: when the block
is attached all that it holds, and after that each one as it is attached to the block.  Either way
`Posted` says what is added: the items that have come to the block, in their order, and nothing
else.
-/

namespace Wdl

namespace BlockKind

/-- Whether the items of a block are listed as they are. -/
def isListed : BlockKind → Bool
  | .metadata => false
  | .parameterMetadata => false
  | _ => true

/-- Whether the keys and values of the items of a block are listed. -/
def isTabulated : BlockKind → Bool
  | .metadata => true
  | .parameterMetadata => true
  | .runtime => true
  | _ => false

end BlockKind

/-! ## Bodies -/

namespace Body

/-- The items that a body lists of its block of a kind. -/
def listed (b : Body) (k : BlockKind) : List NodeId :=
  match b, k with
  | .task x _, .input => x.inputs
  | .task x _, .output => x.outputs
  | .task _ t, .runtime => t.runtimeEntries
  | .task _ t, .command => t.placeholders
  | .workflow x _, .input => x.inputs
  | .workflow x _, .output => x.outputs
  | _, _ => []

/-- The keys and values that a body lists of its block of a kind. -/
def table (b : Body) (k : BlockKind) : List (String × String) :=
  match b, k with
  | .task x _, .metadata => x.metadata
  | .task x _, .parameterMetadata => x.parameterMetadata
  | .task _ t, .runtime => t.runtime
  | .workflow x _, .metadata => x.metadata
  | .workflow x _, .parameterMetadata => x.parameterMetadata
  | _, _ => []

/-- The key and value of an entry. -/
def pair? : Body → Option (String × String)
  | .entry e => some (e.key, e.value)
  | _ => none

variable {b child item : Body} {id : NodeId} {k k' : BlockKind}

theorem listed_adopt : (b.adopt id child).listed = b.listed := by
  funext k
  cases b <;> cases child <;> cases k <;> rfl

theorem table_adopt : (b.adopt id child).table = b.table := by
  funext k
  cases b <;> cases child <;> cases k <;> rfl

theorem files_adopt : (b.adopt id child).files = b.files := by
  cases b <;> cases child <;> rfl

theorem pair?_adopt : (b.adopt id child).pair? = b.pair? := by
  cases b <;> cases child <;> rfl

theorem files_file : (b.file k id item).files = b.files := by
  cases b <;> rfl

theorem pair?_file : (b.file k id item).pair? = b.pair? := by
  cases b <;> rfl

theorem listed_file_of_ne (h : k' ≠ k) : (b.file k id item).listed k' = b.listed k' := by
  cases b with
  | task x t => cases k <;> cases k' <;> cases item <;> first | rfl | exact absurd rfl h
  | workflow x w => cases k <;> cases k' <;> cases item <;> first | rfl | exact absurd rfl h
  | _ => rfl

theorem table_file_of_ne (h : k' ≠ k) : (b.file k id item).table k' = b.table k' := by
  cases b with
  | task x t => cases k <;> cases k' <;> cases item <;> first | rfl | exact absurd rfl h
  | workflow x w => cases k <;> cases k' <;> cases item <;> first | rfl | exact absurd rfl h
  | _ => rfl

theorem exists_entry (h : b.kind = .entry) : ∃ e, b = .entry e := by
  cases b with
  | entry e => exact ⟨e, rfl⟩
  | region r => rcases kind_region r with h' | h' <;> exact nomatch h'.symm.trans h
  | _ => exact nomatch h

theorem exists_block (h : b.kind = .block k) : ∃ items, b = .block k items := by
  cases b with
  | block k' items =>
    obtain rfl := Kind.block.inj h
    exact ⟨items, rfl⟩
  | region r => rcases kind_region r with h' | h' <;> exact nomatch h'.symm.trans h
  | _ => exact nomatch h

/-- An item is added to those that are listed. -/
theorem listed_file (hfiles : b.files k = true) (hitem : item.kind = k.content)
    (hk : k.isListed = true) : (b.file k id item).listed k = b.listed k ++ [id] := by
  cases k with
  | runtime =>
    obtain ⟨e, rfl⟩ := exists_entry hitem
    cases b <;> first | rfl | exact nomatch hfiles
  | metadata => exact nomatch hk
  | parameterMetadata => exact nomatch hk
  | _ => cases b <;> first | rfl | exact nomatch hfiles

/-- An entry is bound in the table of its block. -/
theorem table_file (hfiles : b.files k = true) (hitem : item.kind = k.content)
    (hk : k.isTabulated = true) :
    (b.file k id item).table k = Assoc.update (b.table k) item.pair?.toList := by
  cases k with
  | input => exact nomatch hk
  | output => exact nomatch hk
  | command => exact nomatch hk
  | _ =>
    obtain ⟨e, rfl⟩ := exists_entry hitem
    cases b <;> first | rfl | exact nomatch hfiles

/-! Several items of one block are listed one after the other. -/

variable {xs : List Forest.Filing}

theorem files_fileAll : (b.fileAll xs).files = b.files :=
  fileAll_keeps (fun _ _ _ _ => files_file) b xs

theorem listed_fileAll_of_ne (hxs : ∀ x ∈ xs, x.kind = k) (h : k' ≠ k) :
    (b.fileAll xs).listed k' = b.listed k' := by
  induction xs generalizing b with
  | nil => rfl
  | cons x xs ih =>
    obtain ⟨hx, hxs⟩ := List.forall_mem_cons.mp hxs
    exact (ih hxs).trans (listed_file_of_ne (hx ▸ h))

theorem table_fileAll_of_ne (hxs : ∀ x ∈ xs, x.kind = k) (h : k' ≠ k) :
    (b.fileAll xs).table k' = b.table k' := by
  induction xs generalizing b with
  | nil => rfl
  | cons x xs ih =>
    obtain ⟨hx, hxs⟩ := List.forall_mem_cons.mp hxs
    exact (ih hxs).trans (table_file_of_ne (hx ▸ h))

theorem listed_fileAll (hfiles : b.files k = true)
    (hxs : ∀ x ∈ xs, x.kind = k ∧ x.item.kind = k.content) (hk : k.isListed = true) :
    (b.fileAll xs).listed k = b.listed k ++ xs.map Forest.Filing.id := by
  induction xs generalizing b with
  | nil => exact (List.append_nil _).symm
  | cons x xs ih =>
    obtain ⟨⟨rfl, hitem⟩, hxs⟩ := List.forall_mem_cons.mp hxs
    refine (ih (by rwa [files_file]) hxs).trans ?_
    rw [listed_file hfiles hitem hk, List.append_assoc]
    rfl

theorem table_fileAll (hfiles : b.files k = true)
    (hxs : ∀ x ∈ xs, x.kind = k ∧ x.item.kind = k.content) (hk : k.isTabulated = true) :
    (b.fileAll xs).table k =
      Assoc.update (b.table k) (xs.filterMap fun x => x.item.pair?) := by
  induction xs generalizing b with
  | nil => rfl
  | cons x xs ih =>
    obtain ⟨⟨rfl, hitem⟩, hxs⟩ := List.forall_mem_cons.mp hxs
    refine (ih (by rwa [files_file]) hxs).trans ?_
    rw [table_file hfiles hitem hk, List.filterMap_cons]
    cases x.item.pair? <;> rfl

theorem eq_entry_of_pair? {pair : String × String} (h : b.pair? = some pair) :
    ∃ e, b = .entry e ∧ (e.key, e.value) = pair := by
  cases b with
  | entry e => exact ⟨e, rfl, Option.some.inj h⟩
  | _ => exact nomatch h

theorem only?_block : b.only? (.block k) = b.block? k := by
  cases b <;> rfl

theorem single_of_files (h : b.files k = true) : b.single (.block k) = true := by
  cases b <;> first | rfl | exact nomatch h

theorem table_eq_nil (h : b.files k = false ∨ k.isTabulated = false) : b.table k = [] := by
  rcases h with h | h
  · cases b with
    | task x t => exact nomatch h
    | workflow x w => cases k <;> first | rfl | exact nomatch h
    | _ => rfl
  · cases k with
    | metadata => exact nomatch h
    | parameterMetadata => exact nomatch h
    | runtime => exact nomatch h
    | _ => cases b <;> rfl

theorem files_of_accepts (h : b.accepts (.block k) = true) : b.files k = true := by
  cases b with
  | task x t => rfl
  | workflow x w => cases k <;> first | rfl | exact nomatch h
  | block k' items => cases k' <;> exact nomatch h
  | _ => exact nomatch h

end Body

/-! ## What an adoption adds -/

namespace Forest

/-- The key and value of an entry. -/
def pair? (f : Forest) (id : NodeId) : Option (String × String) :=
  (f.body? id).bind Body.pair?

def pairs (f : Forest) (ids : List NodeId) : List (String × String) :=
  ids.filterMap f.pair?

/-- The items of the block of a kind that a body has. -/
def itemsOf (f : Forest) (b : Body) (k : BlockKind) : List NodeId :=
  match b.block? k with
  | some id => f.parts id
  | none => []

/-- A node is part of another just if it says so. -/
def BothWays (f : Forest) : Prop :=
  ∀ p c, c ∈ f.parts p ↔ f.parent? c = some p

/-- To what a body lists of a block is added what has come to the block. -/
def Posted (f g : Forest) (b b' : Body) (k : BlockKind) : Prop :=
  ∃ new, g.itemsOf b' k = f.itemsOf b k ++ new ∧
    (k.isListed = true → b'.listed k = b.listed k ++ new) ∧
    (k.isTabulated = true → b'.table k = Assoc.update (b.table k) (f.pairs new))

variable {f g : Forest} {parent child id : NodeId} {p c : Node} {b b' : Body} {k : BlockKind}

/-- Nothing is added where nothing has come to the block. -/
theorem Posted.nothing (hlisted : b'.listed k = b.listed k) (htable : b'.table k = b.table k)
    (hblock : b'.block? k = b.block? k)
    (hparts : ∀ i, b.block? k = some i → g.parts i = f.parts i) : Posted f g b b' k := by
  refine ⟨[], ?_, fun _ => by rw [hlisted, List.append_nil], fun _ => htable⟩
  rw [itemsOf, itemsOf, hblock, List.append_nil]
  cases hi : b.block? k with
  | none => rfl
  | some i => exact hparts i hi

theorem parts_of_body? (h : f.body? id = some b) : f.parts id = b.parts := by
  obtain ⟨n, hn, rfl⟩ := Option.map_eq_some_iff.mp h
  exact f.parts_of_node? hn

theorem Regular.block (hr : Regular f) (hb : f.body? id = some b) {i : NodeId} :
    b.block? k = some i ↔
      b.single (.block k) = true ∧ i ∈ f.parts id ∧ f.kind? i = some (.block k) := by
  rw [← Body.only?_block, hr.only id b i _ hb, parts_of_body? hb]

/-- The items of a block as they are listed by an owner. -/
def filings (f : Forest) (owner : NodeId) (k : BlockKind) (items : List NodeId) : List Filing :=
  items.filterMap fun id => (f.body? id).map fun item => ⟨owner, k, id, item⟩

theorem filings_congr {owner : NodeId} {items : List NodeId}
    (h : ∀ id ∈ items, g.body? id = f.body? id) :
    g.filings owner k items = f.filings owner k items := by
  refine List.filterMap_congr fun id hid => ?_
  rw [h id hid]

/-- Listing the items of a block does not change the items, so they can be looked up before. -/
theorem fileItems_eq_fileAll {owner : NodeId} {items : List NodeId} (h : owner ∉ items) :
    f.fileItems owner k items = f.fileAll (f.filings owner k items) := by
  induction items generalizing f with
  | nil => rfl
  | cons id items ih =>
    obtain ⟨hne, hrest⟩ := List.ne_and_not_mem_of_not_mem_cons h
    rw [filings, List.filterMap_cons]
    show List.foldl _ _ _ = _
    rw [List.foldl_cons]
    cases hid : f.body? id with
    | none => exact ih hrest
    | some item =>
      refine (ih hrest).trans (congrArg (fileAll _) (filings_congr fun j hj => ?_))
      have hne' : owner ≠ j := fun heq => hrest (heq ▸ hj)
      rw [body?_modifyBody]
      simp only [if_neg hne', Option.map_id']

section Filings

variable {owner : NodeId} {items : List NodeId}
  (h : ∀ id ∈ items, ∃ item, f.body? id = some item ∧ item.kind = k.content)
include h

theorem filings_ids : (f.filings owner k items).map Filing.id = items := by
  rw [filings, List.map_filterMap]
  refine (List.filterMap_congr fun id hid => ?_).trans List.filterMap_some
  obtain ⟨item, hitem, -⟩ := h id hid
  rw [hitem]
  rfl

theorem mem_filings {x : Filing} (hx : x ∈ f.filings owner k items) :
    x.owner = owner ∧ x.kind = k ∧ x.item.kind = k.content := by
  obtain ⟨id, hid, heq⟩ := List.mem_filterMap.mp hx
  obtain ⟨item, hitem, hkind⟩ := h id hid
  rw [hitem] at heq
  obtain rfl := Option.some.inj heq
  exact ⟨rfl, rfl, hkind⟩

end Filings

theorem filings_pairs (f : Forest) (owner : NodeId) (k : BlockKind) (items : List NodeId) :
    ((f.filings owner k items).filterMap fun x => x.item.pair?) = f.pairs items := by
  rw [filings, List.filterMap_filterMap]
  refine List.filterMap_congr fun id _ => ?_
  rw [pair?]
  cases f.body? id <;> rfl

/-- A node that is put into a block is listed by the owner of the block. -/
theorem Adopts.body?_owner (ha : Adopts f parent child p c) {k₀ : BlockKind} {items : List NodeId}
    (hp : p.body = .block k₀ items) (hb : f.body? id = some b) (hne : parent ≠ id) :
    (f.adopt parent p child c).body? id =
      some (if f.parent? parent = some id then b.file k₀ child c.body else b) := by
  have hlink : f.parent? parent = p.parent := by
    rw [parent?, ha.parent_eq]
    rfl
  rw [adopt_into_block hp, body?_linkTo, body?_fileAll, body?_modifyBody, hb, hlink]
  simp only [Option.map_some, if_neg hne]
  cases p.parent with
  | none => rfl
  | some owner =>
    by_cases howner : owner = id
    · subst howner
      simp only [Option.toList_some, List.map_cons, List.map_nil, List.filter_cons, List.filter_nil,
        beq_self_eq_true, if_pos]
      rfl
    · rw [if_neg fun heq => howner (Option.some.inj heq)]
      simp only [Option.toList_some, List.map_cons, List.map_nil, List.filter_cons, List.filter_nil,
        beq_eq_false_iff_ne.mpr howner, Bool.false_eq_true, if_false]
      rfl

/-- The owner of a block has it as the block of its kind. -/
theorem Regular.block_of_parent (hr : Regular f) (hl : f.BothWays) {k₀ : BlockKind}
    {items : List NodeId} (hparent : f.body? parent = some (.block k₀ items))
    (howner : f.parent? parent = some id) (hb : f.body? id = some b) :
    b.block? k₀ = some parent := by
  have hpart : parent ∈ f.parts id := (hl id parent).mpr howner
  obtain ⟨m, hm, haccepts, -⟩ := hr.accepted id b parent hb (parts_of_body? hb ▸ hpart)
  obtain rfl := Option.some.inj (hparent.symm.trans hm)
  have hfiles : b.files k₀ = true := Body.files_of_accepts haccepts
  exact (hr.block hb).mpr ⟨Body.single_of_files hfiles, hpart, kind?_of_body? hparent⟩

/-- An item that comes to a block is added to what the owner of the block lists, and to nothing
else. -/
theorem Adopts.posted_item (ha : Adopts f parent child p c) (hr : Regular f) (hl : f.BothWays)
    {k₀ : BlockKind} {items : List NodeId} (hp : p.body = .block k₀ items)
    (hb : f.body? id = some b) (hfiles : b.files k = true) :
    ∃ b', (f.adopt parent p child c).body? id = some b' ∧
      Posted f (f.adopt parent p child c) b b' k := by
  have hparent : f.body? parent = some (.block k₀ items) := hp ▸ ha.body?_parent
  have hcontent : c.body.kind = k₀.content := Body.accepts_block (hp ▸ ha.accepts)
  have hne : parent ≠ id := by
    rintro rfl
    obtain rfl := Option.some.inj (hb.symm.trans hparent)
    exact nomatch hfiles
  refine ⟨_, ha.body?_owner hp hb hne, ?_⟩
  by_cases howner : f.parent? parent = some id
  · rw [if_pos howner]
    by_cases hk : k = k₀
    · subst hk
      have hblock : b.block? k = some parent := hr.block_of_parent hl hparent howner hb
      refine ⟨[child], ?_, Body.listed_file hfiles hcontent, fun htabulated => ?_⟩
      · rw [itemsOf, itemsOf, Body.block?_file, hblock]
        refine ha.grafts.parts_kept _ (f.profile?_of_node? ha.parent_eq) ?_
        rw [Node.profile, hp]
        rfl
      · rw [Body.table_file hfiles hcontent htabulated, pairs, List.filterMap_cons, pair?,
          ha.body?_child, Option.bind_some]
        cases c.body.pair? <;> rfl
    · refine .nothing (Body.listed_file_of_ne hk) (Body.table_file_of_ne hk)
        (congrFun (Body.block?_file k₀) k) fun i hi => ?_
      have hikind : f.kind? i = some (.block k) := ((hr.block hb).mp hi).2.2
      refine ha.grafts.parts_of_ne i ?_
      rintro rfl
      exact hk (Kind.block.inj (Option.some.inj (hikind.symm.trans (kind?_of_body? hparent))))
  · -- what the item comes to is a block of another node, or of none
    rw [if_neg howner]
    refine .nothing rfl rfl rfl fun i hi => ha.grafts.parts_of_ne i ?_
    rintro rfl
    exact howner ((hl id i).mp ((hr.block hb).mp hi).2.1)

/-- The items of a block are no tasks or workflows. -/
theorem content_ne_of_files {k' : BlockKind} (h : b.files k' = true) : b.kind ≠ k.content := by
  cases b with
  | task x t => cases k <;> exact nofun
  | workflow x w => cases k <;> exact nofun
  | _ => exact nomatch h

/-- Blocks keep their items while nothing comes to a block. -/
theorem Adopts.parts_of_not_block (ha : Adopts f parent child p c)
    (hp : ∀ k items, p.body ≠ .block k items) (hid : f.kind? id = some (.block k)) :
    (f.adopt parent p child c).parts id = f.parts id := by
  refine ha.grafts.parts_of_ne id ?_
  rintro rfl
  rw [kind?_of_body? ha.body?_parent, Option.some.injEq] at hid
  obtain ⟨items, heq⟩ := Body.exists_block hid
  exact hp _ _ heq

/-- A block comes to its owner with all that it holds. -/
theorem Adopts.body?_of_block (ha : Adopts f parent child p c) (hr : Regular f) {k₀ : BlockKind}
    {items : List NodeId} (hp : ∀ k items, p.body ≠ .block k items)
    (hc : c.body = .block k₀ items) (hb : f.body? id = some b) :
    (f.adopt parent p child c).body? id = some
      (if id = parent then (b.adopt child c.body).fileAll (f.filings parent k₀ items) else b) := by
  have hitems := hr.content (hc ▸ ha.body?_child)
  have hfiles : p.body.files k₀ = true := by
    have haccepts := ha.accepts
    rw [Node.kind, hc] at haccepts
    exact Body.files_of_accepts haccepts
  have hnot : parent ∉ items := by
    intro hmem
    obtain ⟨m, hm, hkind⟩ := hitems parent hmem
    obtain rfl := Option.some.inj (ha.body?_parent.symm.trans hm)
    exact content_ne_of_files hfiles hkind
  have hfilings : (f.modifyBody parent fun b => b.adopt child c.body).filings parent k₀ items =
      f.filings parent k₀ items := by
    refine filings_congr fun j hj => ?_
    have hne : parent ≠ j := fun heq => hnot (heq ▸ hj)
    rw [body?_modifyBody]
    simp only [if_neg hne, Option.map_id']
  rw [adopt_block hp hc, body?_linkTo, fileItems_eq_fileAll hnot, hfilings, body?_fileAll,
    body?_modifyBody, hb, Option.map_some, Option.map_some, Option.some.injEq]
  by_cases hid : id = parent
  · subst hid
    rw [if_pos rfl, if_pos rfl, List.filter_eq_self.mpr fun x hx =>
      beq_iff_eq.mpr (mem_filings hitems hx).1]
  · have hnone : (f.filings parent k₀ items).filter (fun x => x.owner == id) = [] :=
      List.filter_eq_nil_iff.mpr fun x hx heq =>
        hid ((beq_iff_eq.mp heq).symm.trans (mem_filings hitems hx).1)
    rw [if_neg hid, if_neg (Ne.symm hid), hnone]
    rfl

/-- What comes with a block is what its owner lists of it from then on. -/
theorem Adopts.posted_own (ha : Adopts f parent child p c) (hr : Regular f)
    {items : List NodeId} (hp : ∀ k items, p.body ≠ .block k items)
    (hc : c.body = .block k items) (hfiles : p.body.files k = true) :
    Posted f (f.adopt parent p child c) p.body
      ((p.body.adopt child c.body).fileAll (f.filings parent k items)) k := by
  have hitems := hr.content (hc ▸ ha.body?_child)
  have hxs : ∀ x ∈ f.filings parent k items, x.kind = k ∧ x.item.kind = k.content :=
    fun x hx => (mem_filings hitems hx).2
  have hadopted : (p.body.adopt child c.body).files k = true := by rwa [Body.files_adopt]
  refine ⟨items, ?_, fun hlisted => ?_, fun htabulated => ?_⟩
  · have hckind : c.body.kind = .block k := by
      rw [hc]
      rfl
    have hsingle : p.body.single c.body.kind = true := hckind ▸ Body.single_of_files hfiles
    have hnone : p.body.only? c.body.kind = none := Body.only?_of_objection ha.objection hsingle
    have hself : (p.body.adopt child c.body).only? c.body.kind = some child :=
      Body.only?_adopt_self hsingle hnone
    rw [hckind, Body.only?_block] at hnone hself
    have hchild : child ≠ parent := by
      rintro rfl
      obtain rfl := Option.some.inj (ha.parent_eq.symm.trans ha.child_eq)
      exact hp _ _ hc
    rw [itemsOf, itemsOf, Body.fileAll_keeps (fun _ _ _ _ => Body.block?_file _), hself, hnone]
    refine (ha.grafts.parts_of_ne child hchild).trans ?_
    rw [parts_of_body? ha.body?_child, hc]
    rfl
  · rw [Body.listed_fileAll hadopted hxs hlisted, Body.listed_adopt, filings_ids hitems]
  · rw [Body.table_fileAll hadopted hxs htabulated, Body.table_adopt, filings_pairs]

/-- A block is added with all that it holds to what its owner lists, and to nothing else. -/
theorem Adopts.posted_block (ha : Adopts f parent child p c) (hr : Regular f)
    {k₀ : BlockKind} {items : List NodeId} (hp : ∀ k items, p.body ≠ .block k items)
    (hc : c.body = .block k₀ items) (hb : f.body? id = some b) (hfiles : b.files k = true) :
    ∃ b', (f.adopt parent p child c).body? id = some b' ∧
      Posted f (f.adopt parent p child c) b b' k := by
  refine ⟨_, ha.body?_of_block hr hp hc hb, ?_⟩
  have hkept : ∀ i, b.block? k = some i → (f.adopt parent p child c).parts i = f.parts i :=
    fun i hi => ha.parts_of_not_block hp ((hr.block hb).mp hi).2.2
  by_cases hid : id = parent
  · subst hid
    obtain rfl := Option.some.inj (ha.body?_parent.symm.trans hb)
    rw [if_pos rfl]
    by_cases hk : k = k₀
    · subst hk
      exact ha.posted_own hr hp hc hfiles
    · have hitems := hr.content (hc ▸ ha.body?_child)
      have hxs : ∀ x ∈ f.filings id k₀ items, x.kind = k₀ :=
        fun x hx => (mem_filings hitems hx).2.1
      refine .nothing ?_ ?_ ?_ hkept
      · rw [Body.listed_fileAll_of_ne hxs hk, Body.listed_adopt]
      · rw [Body.table_fileAll_of_ne hxs hk, Body.table_adopt]
      · have hne : Kind.block k ≠ c.body.kind := by
          rw [hc]
          exact fun heq => hk (Kind.block.inj heq)
        rw [Body.fileAll_keeps (fun _ _ _ _ => Body.block?_file _), ← Body.only?_block,
          Body.only?_adopt_of_ne hne, Body.only?_block]
  · rw [if_neg hid]
    exact .nothing rfl rfl rfl hkept

/-- Any other node adds nothing. -/
theorem Adopts.posted_other (ha : Adopts f parent child p c) (hr : Regular f)
    (hp : ∀ k items, p.body ≠ .block k items) (hc : ∀ k items, c.body ≠ .block k items)
    (hb : f.body? id = some b) :
    ∃ b', (f.adopt parent p child c).body? id = some b' ∧
      Posted f (f.adopt parent p child c) b b' k := by
  have hbody : (f.adopt parent p child c).body? id =
      some (if parent = id then b.adopt child c.body else b) := by
    rw [adopt_other hp hc, body?_linkTo, body?_modifyBody, hb]
    rfl
  refine ⟨_, hbody, .nothing ?_ ?_ ?_ fun i hi => ?_⟩
  · split
    · rw [Body.listed_adopt]
    · rfl
  · split
    · rw [Body.table_adopt]
    · rfl
  · split
    · rw [← Body.only?_block, Body.only?_adopt_of_ne, Body.only?_block]
      intro heq
      obtain ⟨items, hblock⟩ := Body.exists_block heq.symm
      exact hc _ _ hblock
    · rfl
  · exact ha.parts_of_not_block hp ((hr.block hb).mp hi).2.2

/-- Whatever is adopted, what a task or workflow lists of a block grows as the block does. -/
theorem Adopts.posted (ha : Adopts f parent child p c) (hr : Regular f) (hl : f.BothWays)
    (hb : f.body? id = some b) (hfiles : b.files k = true) :
    ∃ b', (f.adopt parent p child c).body? id = some b' ∧
      Posted f (f.adopt parent p child c) b b' k := by
  by_cases hp : ∃ k items, p.body = .block k items
  · obtain ⟨k₀, items, hp⟩ := hp
    exact ha.posted_item hr hl hp hb hfiles
  · have hp : ∀ k items, p.body ≠ .block k items := fun k items heq => hp ⟨k, items, heq⟩
    by_cases hc : ∃ k items, c.body = .block k items
    · obtain ⟨k₀, items, hc⟩ := hc
      exact ha.posted_block hr hp hc hb hfiles
    · exact ha.posted_other hr hp (fun k items heq => hc ⟨k, items, heq⟩) hb

end Forest
end Wdl
