import Wdl.Proofs.Document.Ledger

/-!
The lists of tasks and workflows mirror their blocks.

Where no node is taken away from the one that it is part of, the items of a block may come to it
before or after the block comes to its owner: at every point the owner lists just the items of the
block, in their order.
-/

namespace Wdl
namespace Forest

/-! ## What a run keeps -/

/-- No key comes twice in a block. -/
def KeysDistinct (f : Forest) : Prop :=
  ∀ id k, f.kind? id = some (.block k) → ((f.pairs (f.parts id)).map Prod.fst).Nodup

/-- What tasks and workflows list is what their blocks hold. -/
structure Booked (f : Forest) : Prop where
  regular : Regular f
  bothWays : BothWays f
  keys : KeysDistinct f
  listed : ∀ id b k, f.body? id = some b → b.files k = true → k.isListed = true →
    b.listed k = f.itemsOf b k
  table : ∀ id b k, f.body? id = some b → b.files k = true → k.isTabulated = true →
    b.table k = f.pairs (f.itemsOf b k)

variable {f g : Forest} {parent child id : NodeId} {p c : Node} {b : Body} {k : BlockKind}

theorem pairs_append (f : Forest) (ids ids' : List NodeId) :
    f.pairs (ids ++ ids') = f.pairs ids ++ f.pairs ids' :=
  List.filterMap_append

theorem pair?_adopt (f : Forest) (parent : NodeId) (p : Node) (child : NodeId) (c : Node) :
    (f.adopt parent p child c).pair? = f.pair? := by
  funext id
  have hmap : ((f.adopt parent p child c).body? id).map Body.pair? =
      (f.body? id).map Body.pair? := by
    rw [map_body?_adopt fun _ _ _ _ => Body.pair?_file]
    congr 1
    funext b
    split
    · exact Body.pair?_adopt
    · rfl
  have hjoin : ∀ o : Option Body, o.bind Body.pair? = (o.map Body.pair?).join := by
    intro o
    cases o <;> rfl
  rw [pair?, pair?, hjoin, hjoin, hmap]

theorem key?_of_pair? {key value : String} (h : f.pair? id = some (key, value)) :
    f.key? id = some key := by
  obtain ⟨b, hb, hpair⟩ := Option.bind_eq_some_iff.mp h
  obtain ⟨e, rfl, heq⟩ := Body.eq_entry_of_pair? hpair
  rw [key?, hb]
  exact congrArg some (Prod.mk.inj heq).1

theorem pairs_adopt (f : Forest) (parent : NodeId) (p : Node) (child : NodeId) (c : Node) :
    (f.adopt parent p child c).pairs = f.pairs := by
  funext ids
  rw [pairs, pair?_adopt, ← pairs]

/-- The items of a block have distinct keys. -/
theorem KeysDistinct.itemsOf (hkeys : f.KeysDistinct) (hr : Regular f) (hb : f.body? id = some b) :
    ((f.pairs (f.itemsOf b k)).map Prod.fst).Nodup := by
  rw [Forest.itemsOf]
  cases hi : b.block? k with
  | none => exact List.nodup_nil
  | some i => exact hkeys i k ((hr.block hb).mp hi).2.2

namespace Adopts

/-- A block does not take in an entry whose key it has. -/
theorem key_new (ha : Adopts f parent child p c) {items : List NodeId}
    (hp : p.body = .block k items) {key value : String} (hpair : c.body.pair? = some (key, value)) :
    key ∉ (f.pairs items).map Prod.fst := by
  intro hmem
  obtain ⟨⟨key', value'⟩, hkey, rfl⟩ := List.mem_map.mp hmem
  obtain ⟨i, hi, hipair⟩ := List.mem_filterMap.mp hkey
  obtain ⟨e, hc, heq⟩ := Body.eq_entry_of_pair? hpair
  have htaken : items.any (fun i => f.key? i == some e.key) = true := by
    refine List.any_eq_true.mpr ⟨i, hi, ?_⟩
    rw [key?_of_pair? hipair, (Prod.mk.inj heq).1]
    exact beq_self_eq_true _
  have hobjection := ha.objection
  rw [hp, hc] at hobjection
  simp only [objection?, Body.isStruct, Bool.false_and, Bool.false_eq_true, if_false, htaken,
    if_true] at hobjection
  cases hobjection

theorem bothWays (ha : Adopts f parent child p c) (hl : f.BothWays)
    (hloose : f.parent? child = none) : (f.adopt parent p child c).BothWays := by
  intro q i
  have hgrafts := ha.grafts
  have hparts : i ∈ (f.adopt parent p child c).parts q ↔
      i ∈ f.parts q ∨ (q = parent ∧ i = child) := by
    by_cases hq : q = parent
    · subst hq
      rw [hgrafts.parts_perm.mem_iff, List.mem_append, List.mem_singleton]
      simp only [true_and]
    · rw [hgrafts.parts_of_ne q hq]
      simp only [hq, false_and, or_false]
  rw [hparts, hgrafts.parent?, hl q i]
  by_cases hi : i = child
  · subst hi
    rw [hloose, if_pos rfl, Option.some.injEq]
    simp [eq_comm]
  · rw [if_neg hi]
    simp only [hi, and_false, or_false]

/-- A part of a node cannot come to it again, so what keeps its parent had none. -/
theorem loose_of_kept (ha : Adopts f parent child p c) (hl : f.BothWays)
    (hkept : ∀ q, f.parent? child = some q → (f.adopt parent p child c).parent? child = some q) :
    f.parent? child = none := by
  cases hq : f.parent? child with
  | none => rfl
  | some q =>
    have hparent := hkept q hq
    rw [ha.grafts.parent?, if_pos rfl, Option.some.injEq] at hparent
    subst hparent
    exact absurd (mark?_of_node? ha.child_eq) (mark?_ne_of_twin ha.twin ((hl _ _).mpr hq))

theorem keysDistinct (ha : Adopts f parent child p c) (hkeys : f.KeysDistinct) :
    (f.adopt parent p child c).KeysDistinct := by
  intro id k hid
  rw [ha.grafts.kind?] at hid
  have hbefore := hkeys id k hid
  rw [pairs_adopt]
  by_cases heq : id = parent
  · subst heq
    rw [kind?_of_body? ha.body?_parent, Option.some.injEq] at hid
    obtain ⟨items, hp⟩ := Body.exists_block hid
    have hparts : f.parts id = items := by
      rw [parts_of_body? ha.body?_parent, hp]
      rfl
    rw [ha.grafts.parts_kept _ (f.profile?_of_node? ha.parent_eq) (by rw [Node.profile, hp]; rfl),
      pairs_append, List.map_append]
    have hpairs : f.pairs [child] = c.body.pair?.toList := by
      rw [pairs, List.filterMap_cons, pair?, ha.body?_child, Option.bind_some]
      cases c.body.pair? <;> rfl
    rw [hpairs]
    cases hpair : c.body.pair? with
    | none =>
      rw [Option.toList_none, List.map_nil, List.append_nil]
      exact hbefore
    | some pair =>
      have hnew := ha.key_new hp hpair
      rw [← hparts] at hnew
      refine List.nodup_append.mpr ⟨hbefore, List.pairwise_singleton _ _, ?_⟩
      rintro key hkey key' hkey' rfl
      obtain rfl := List.mem_singleton.mp hkey'
      exact hnew hkey
  · rw [ha.grafts.parts_of_ne id heq]
    exact hbefore

end Adopts

namespace Booked

theorem of_nodes (hf : Booked f) (h : g.nodes = f.nodes) : Booked g := by
  have hr := hf.regular.of_nodes h
  obtain ⟨nodes, scopes⟩ := f
  obtain ⟨nodes', scopes'⟩ := g
  obtain rfl : nodes' = nodes := h
  exact ⟨hr, hf.bothWays, hf.keys, hf.listed, hf.table⟩

/-- Tables only grow, and mirror the blocks again after an adoption. -/
theorem table_adopt (hf : Booked f) (ha : Adopts f parent child p c) {b' : Body}
    (hb : f.body? id = some b) (hb' : (f.adopt parent p child c).body? id = some b')
    (hfiles : b.files k = true) (hk : k.isTabulated = true) :
    b.table k <+: b'.table k ∧
      b'.table k = (f.adopt parent p child c).pairs ((f.adopt parent p child c).itemsOf b' k) := by
  obtain ⟨b'', hb'', new, hitems, -, htable⟩ := ha.posted hf.regular hf.bothWays hb hfiles
  obtain rfl := Option.some.inj (hb'.symm.trans hb'')
  have hkeys := (ha.keysDistinct hf.keys).itemsOf (k := k) (hf.regular.adopt ha) hb'
  rw [hitems, pairs_adopt, pairs_append] at hkeys
  rw [htable hk, hf.table id b k hb hfiles hk, Assoc.update_of_nodup hkeys, hitems, pairs_adopt,
    pairs_append]
  exact ⟨List.prefix_append _ _, rfl⟩

theorem adopt (hf : Booked f) (ha : Adopts f parent child p c)
    (hkept : ∀ q, f.parent? child = some q → (f.adopt parent p child c).parent? child = some q) :
    Booked (f.adopt parent p child c) := by
  have hbefore : ∀ {id b'}, (f.adopt parent p child c).body? id = some b' →
      ∃ b, f.body? id = some b ∧ b'.files = b.files := by
    intro id b' hb'
    obtain ⟨b, hb, filings, rfl⟩ := exists_body?_of_adopt hb'
    refine ⟨b, hb, ?_⟩
    rw [Body.files_fileAll]
    split
    · exact Body.files_adopt
    · rfl
  refine ⟨hf.regular.adopt ha, ha.bothWays hf.bothWays (ha.loose_of_kept hf.bothWays hkept),
    ha.keysDistinct hf.keys, fun id b' k hb' hfiles hk => ?_, fun id b' k hb' hfiles hk => ?_⟩
  · obtain ⟨b, hb, heq⟩ := hbefore hb'
    rw [heq] at hfiles
    obtain ⟨b'', hb'', new, hitems, hlisted, -⟩ := ha.posted hf.regular hf.bothWays hb hfiles
    obtain rfl := Option.some.inj (hb'.symm.trans hb'')
    rw [hlisted hk, hf.listed id b k hb hfiles hk, hitems]
  · obtain ⟨b, hb, heq⟩ := hbefore hb'
    rw [heq] at hfiles
    exact (hf.table_adopt ha hb hb' hfiles hk).2

end Booked

/-! ## Whole runs -/

/-- A request takes no node away from the one that it is part of. -/
def Keeps (f : Forest) (r : Request) : Prop :=
  ∀ c p, f.parent? c = some p → (f.serve r).parent? c = some p

/-- No request of a run attaches a node to a second one. -/
def Faithful : Forest → List Request → Prop
  | _, [] => True
  | f, r :: rs => f.Keeps r ∧ Faithful (f.serve r) rs

end Forest

/-- A node as it is made: nothing is below it or above it, and it lists nothing. -/
structure Node.New (n : Node) : Prop where
  parts : n.body.parts = []
  parent : n.parent = none
  listed : ∀ k, n.body.listed k = []
  table : ∀ k, n.body.table k = []

namespace Forest

def New (f : Forest) : Prop := ∀ n ∈ f.nodes, n.New

variable {f : Forest} {id : NodeId} {b : Body} {k : BlockKind}

theorem New.of_node? (h : f.New) {n : Node} (hn : f.node? id = some n) : n.New :=
  h n (Array.mem_of_getElem? hn)

theorem New.booked (h : f.New) : Booked f := by
  have hparts : ∀ id, f.parts id = [] := by
    intro id
    rw [parts]
    cases hn : f.node? id with
    | none => rfl
    | some n => exact (h.of_node? hn).parts
  have hparent : ∀ id, f.parent? id = none := by
    intro id
    rw [parent?]
    cases hn : f.node? id with
    | none => rfl
    | some n => exact (h.of_node? hn).parent
  have hitems : ∀ b k, f.itemsOf b k = [] := by
    intro b k
    rw [itemsOf]
    cases b.block? k with
    | none => rfl
    | some i => exact hparts i
  have hbody : ∀ {id b}, f.body? id = some b → ∃ n, f.node? id = some n ∧ n.body = b :=
    fun hb => Option.map_eq_some_iff.mp hb
  refine ⟨.of_bare hparts, fun p c => ?_, fun id k _ => ?_, fun id b k hb _ _ => ?_,
    fun id b k hb _ _ => ?_⟩
  · rw [hparts, hparent]
    simp
  · rw [hparts]
    exact List.nodup_nil
  · obtain ⟨n, hn, rfl⟩ := hbody hb
    rw [(h.of_node? hn).listed, hitems]
  · obtain ⟨n, hn, rfl⟩ := hbody hb
    rw [(h.of_node? hn).table, hitems]
    rfl

/-- Only the node that a request is about gets another parent. -/
theorem serve_parent?_of_ne {r : Request} {j : NodeId} (h : j ≠ r.child) :
    (f.serve r).parent? j = f.parent? j := by
  rcases f.serve_cases r with heq | ⟨p, c, g, hbind, ha, heq⟩
  · rw [heq]
  · rw [heq, ha.grafts.parent?, if_neg h, parent?, bind?_node? hbind, ← parent?]

/-- A run that is about each node once attaches none to a second one. -/
theorem faithful_of_nodup {requests : List Request} (hnodup : (requests.map Request.child).Nodup)
    (hloose : ∀ r ∈ requests, f.parent? r.child = none) : f.Faithful requests := by
  induction requests generalizing f with
  | nil => trivial
  | cons r rs ih =>
    obtain ⟨hnew, hrest⟩ := List.nodup_cons.mp hnodup
    obtain ⟨hr, hrs⟩ := List.forall_mem_cons.mp hloose
    refine ⟨fun c p hc => ?_, ih hrest fun r' hr' => ?_⟩
    · rw [serve_parent?_of_ne fun heq => ?_, hc]
      rw [heq, hr] at hc
      exact nomatch hc
    · rw [serve_parent?_of_ne fun heq => hnew (heq ▸ List.mem_map_of_mem hr')]
      exact hrs r' hr'

namespace Booked

theorem serve (hf : Booked f) {r : Request} (hkeeps : f.Keeps r) : Booked (f.serve r) := by
  rcases f.serve_cases r with heq | ⟨p, c, g, hbind, ha, heq⟩
  · rwa [heq]
  · rw [heq]
    refine (hf.of_nodes (bind?_nodes hbind)).adopt ha fun q hq => ?_
    rw [parent?, bind?_node? hbind, ← parent?] at hq
    rw [← heq]
    exact hkeeps r.child q hq

theorem serveAll (hf : Booked f) {requests : List Request} (hfaithful : f.Faithful requests) :
    Booked (f.serveAll requests) := by
  induction requests generalizing f with
  | nil => exact hf
  | cons r rs ih => exact ih (hf.serve hfaithful.1) hfaithful.2

/-- No entry of a table is overwritten by a request. -/
theorem table_serve (hf : Booked f) (r : Request) (hb : f.body? id = some b) :
    ∃ b', (f.serve r).body? id = some b' ∧ b.table k <+: b'.table k := by
  rcases f.serve_cases r with heq | ⟨p, c, g, hbind, ha, heq⟩
  · rw [heq]
    exact ⟨b, hb, List.prefix_rfl⟩
  · have hg := hf.of_nodes (bind?_nodes hbind)
    have hbg : g.body? id = some b := by rw [body?, bind?_node? hbind, ← body?, hb]
    obtain ⟨filings, hbodies⟩ := body?_adopt g r.parent p r.child c
    have hb' := hbodies id
    rw [hbg, Option.map_some] at hb'
    rw [heq]
    refine ⟨_, hb', ?_⟩
    cases hfiles : b.files k with
    | false =>
      rw [Body.table_eq_nil (.inl hfiles)]
      exact List.nil_prefix
    | true =>
      cases hk : k.isTabulated with
      | false =>
        rw [Body.table_eq_nil (.inr hk)]
        exact List.nil_prefix
      | true => exact (hg.table_adopt ha hbg hb' hfiles hk).1

theorem table_serveAll (hf : Booked f) {requests : List Request}
    (hfaithful : f.Faithful requests) (hb : f.body? id = some b) :
    ∃ b', (f.serveAll requests).body? id = some b' ∧ b.table k <+: b'.table k := by
  induction requests generalizing f b with
  | nil => exact ⟨b, hb, List.prefix_rfl⟩
  | cons r rs ih =>
    obtain ⟨b₁, hb₁, hfirst⟩ := hf.table_serve (k := k) r hb
    obtain ⟨b₂, hb₂, hrest⟩ := ih (hf.serve hfaithful.1) hfaithful.2 hb₁
    exact ⟨b₂, hb₂, hfirst.trans hrest⟩

end Booked

theorem Faithful.append {requests more : List Request} (h : f.Faithful (requests ++ more)) :
    f.Faithful requests ∧ (f.serveAll requests).Faithful more := by
  induction requests generalizing f with
  | nil => exact ⟨trivial, h⟩
  | cons r rs ih => exact ⟨⟨h.1, (ih h.2).1⟩, (ih h.2).2⟩

/-! ## Lists and blocks -/

/-- The items of the block of a kind that a task or workflow has, if it has one. -/
def blockItems (f : Forest) (x : Executable) (k : BlockKind) : List NodeId :=
  match x.blocks.lookup k with
  | some id => f.children id
  | none => []

/-- A table holds the keys and values of entries, in their order and with no key twice. -/
structure Tabulates (f : Forest) (table : List (String × String)) (entries : List NodeId) :
    Prop where
  pairs : table.map some = entries.map f.pair?
  keys : (table.map Prod.fst).Nodup

end Forest

/-- What a task or workflow lists of its blocks is what they hold. -/
structure Executable.Mirrors (x : Executable) (f : Forest) (id : NodeId) : Prop where
  blocks : ∀ k b, x.blocks.lookup k = some b ↔
    f.parent? b = some id ∧ f.kind? b = some (.block k)
  inputs : x.inputs = f.blockItems x .input
  outputs : x.outputs = f.blockItems x .output
  metadata : f.Tabulates x.metadata (f.blockItems x .metadata)
  parameterMetadata : f.Tabulates x.parameterMetadata (f.blockItems x .parameterMetadata)

/-- What only a task lists of its blocks is what they hold. -/
structure TaskBody.Mirrors (t : TaskBody) (f : Forest) (x : Executable) : Prop where
  runtime : f.Tabulates t.runtime (f.blockItems x .runtime)
  runtimeEntries : t.runtimeEntries = f.blockItems x .runtime
  placeholders : t.placeholders = f.blockItems x .command

namespace Forest

/-- Lists and blocks agree, and the children of a node are those that have it as their parent, each
once. -/
structure Mirrored (f : Forest) : Prop where
  tasks : ∀ id x t, f.body? id = some (.task x t) → x.Mirrors f id ∧ t.Mirrors f x
  workflows : ∀ id x w, f.body? id = some (.workflow x w) → x.Mirrors f id
  nodup : ∀ id, (f.children id).Nodup
  attached : ∀ id c, c ∈ f.children id ↔ f.parent? c = some id

variable {f : Forest} {id : NodeId} {b : Body} {k : BlockKind} {x : Executable}

namespace Booked

theorem block_iff (hf : Booked f) (hb : f.body? id = some b)
    (hsingle : b.single (.block k) = true) (i : NodeId) :
    b.block? k = some i ↔ f.parent? i = some id ∧ f.kind? i = some (.block k) := by
  rw [hf.regular.block hb, hf.bothWays id i, hsingle]
  simp only [true_and]

/-- The children of a block are its items as they are kept. -/
theorem blockItems_eq (hf : Booked f) (hb : f.body? id = some b)
    (hx : b.block? k = x.blocks.lookup k) : f.blockItems x k = f.itemsOf b k := by
  rw [blockItems, itemsOf, hx]
  cases hi : x.blocks.lookup k with
  | none => rfl
  | some i =>
    have hkind := ((hf.regular.block hb).mp (hx.trans hi)).2.2
    obtain ⟨n, hn, hnkind⟩ := Option.map_eq_some_iff.mp hkind
    obtain ⟨items, hitems⟩ := Body.exists_block hnkind
    show f.children i = f.parts i
    rw [children, body?, hn, Option.map_some, f.parts_of_node? hn, hitems]
    rfl

/-- The items of a block with a table are entries. -/
theorem exists_pair (hf : Booked f) (hb : f.body? id = some b) (hk : k.isTabulated = true)
    {i : NodeId} (hi : i ∈ f.itemsOf b k) : ∃ pair, f.pair? i = some pair := by
  rw [itemsOf] at hi
  cases hblock : b.block? k with
  | none =>
    rw [hblock] at hi
    exact absurd hi List.not_mem_nil
  | some owner =>
    rw [hblock] at hi
    obtain ⟨n, hn, hkind⟩ := Option.map_eq_some_iff.mp ((hf.regular.block hb).mp hblock).2.2
    obtain ⟨items, hitems⟩ := Body.exists_block hkind
    have hbody : f.body? owner = some (.block k items) := by
      rw [body?, hn, Option.map_some, hitems]
    dsimp only at hi
    rw [parts_of_body? hbody] at hi
    obtain ⟨m, hm, hkind'⟩ := hf.regular.content hbody i hi
    have hcontent : m.kind = .entry := by
      refine hkind'.trans ?_
      cases k <;> first | rfl | cases hk
    obtain ⟨e, rfl⟩ := Body.exists_entry hcontent
    exact ⟨(e.key, e.value), by rw [pair?, hm]; rfl⟩

theorem tabulates (hf : Booked f) (hb : f.body? id = some b) (hfiles : b.files k = true)
    (hk : k.isTabulated = true) : f.Tabulates (b.table k) (f.itemsOf b k) := by
  rw [hf.table id b k hb hfiles hk]
  refine ⟨?_, hf.keys.itemsOf hf.regular hb⟩
  have hsome : ∀ i ∈ f.itemsOf b k, (f.pair? i).map some = some (f.pair? i) := by
    intro i hi
    obtain ⟨pair, hpair⟩ := hf.exists_pair hb hk hi
    rw [hpair, Option.map_some]
  rw [pairs, List.map_filterMap, List.filterMap_congr hsome]
  exact congrFun List.filterMap_eq_map _

theorem mirrors (hf : Booked f) (hb : f.body? id = some b)
    (hx : (∃ t, b = .task x t) ∨ ∃ w, b = .workflow x w) : x.Mirrors f id := by
  rcases hx with ⟨t, rfl⟩ | ⟨w, rfl⟩
  all_goals
    refine ⟨fun k i => hf.block_iff hb rfl i, ?_, ?_, ?_, ?_⟩
    · exact (hf.listed id _ .input hb rfl rfl).trans (hf.blockItems_eq hb rfl).symm
    · exact (hf.listed id _ .output hb rfl rfl).trans (hf.blockItems_eq hb rfl).symm
    · rw [hf.blockItems_eq hb rfl]
      exact hf.tabulates (k := .metadata) hb rfl rfl
    · rw [hf.blockItems_eq hb rfl]
      exact hf.tabulates (k := .parameterMetadata) hb rfl rfl

theorem mirrors_task (hf : Booked f) {t : TaskBody} (hb : f.body? id = some (.task x t)) :
    t.Mirrors f x := by
  refine ⟨?_, ?_, ?_⟩
  · rw [hf.blockItems_eq hb rfl]
    exact hf.tabulates (k := .runtime) hb rfl rfl
  · exact (hf.listed id _ .runtime hb rfl rfl).trans (hf.blockItems_eq hb rfl).symm
  · exact (hf.listed id _ .command hb rfl rfl).trans (hf.blockItems_eq hb rfl).symm

theorem mirrored (hf : Booked f) : f.Mirrored where
  tasks _ _ t hb := ⟨hf.mirrors hb (.inl ⟨t, rfl⟩), hf.mirrors_task hb⟩
  workflows _ _ w hb := hf.mirrors hb (.inr ⟨w, rfl⟩)
  nodup := hf.regular.children_nodup
  attached id c := f.mem_children.trans (hf.bothWays id c)

end Booked

/-- From new nodes on, at every point of a run in which no node is attached to a second one: lists
and blocks agree, and whatever comes after overwrites no entry of a table. -/
theorem lists_mirror_blocks (f : Forest) (hnew : f.New) (requests more : List Request)
    (hfaithful : f.Faithful (requests ++ more)) :
    (f.serveAll requests).Mirrored ∧
      ∀ id b k, (f.serveAll requests).body? id = some b →
        ∃ b', (f.serveAll (requests ++ more)).body? id = some b' ∧ b.table k <+: b'.table k := by
  obtain ⟨hbefore, hafter⟩ := hfaithful.append
  have hbooked := hnew.booked.serveAll hbefore
  refine ⟨hbooked.mirrored, fun id b k hb => ?_⟩
  rw [serveAll, List.foldl_append]
  exact hbooked.table_serveAll hafter hb

/-- A task with an input and a metadata block, and what is to come into them. -/
def looseTask : Forest where
  nodes := #[⟨.task { name := "t", scope := 0 } {}, ⟨0, 99⟩, none, none⟩,
    ⟨.block .input [], ⟨10, 39⟩, none, none⟩,
    ⟨.declaration { name := "x", type := "Int" }, ⟨18, 22⟩, none, none⟩,
    ⟨.declaration { name := "y", type := "Int" }, ⟨25, 29⟩, none, none⟩,
    ⟨.block .metadata [], ⟨50, 79⟩, none, none⟩,
    ⟨.entry { key := "author", value := "\"a\"" }, ⟨58, 68⟩, none, none⟩]
  scopes := #[{ node := some 0 }]

theorem looseTask_new : looseTask.New := by
  intro n hn
  simp only [looseTask, List.mem_toArray, List.mem_cons, List.not_mem_nil, or_false] at hn
  rcases hn with rfl | rfl | rfl | rfl | rfl | rfl
  all_goals refine ⟨rfl, rfl, fun k => ?_, fun k => ?_⟩ <;> cases k <;> rfl

/-- One input comes to its block before the block comes to the task, and one after; the task lists
both, and a metadata block that comes later leaves them as they are. -/
theorem lists_mirror_blocks_looseTask :
    looseTask.New ∧
      looseTask.Faithful
        ([⟨1, 2, none⟩, ⟨0, 1, none⟩, ⟨1, 3, none⟩] ++ [⟨0, 4, none⟩, ⟨4, 5, none⟩]) ∧
      (looseTask.serveAll [⟨1, 2, none⟩, ⟨0, 1, none⟩, ⟨1, 3, none⟩]).Mirrored ∧
      ((looseTask.serveAll [⟨1, 2, none⟩, ⟨0, 1, none⟩, ⟨1, 3, none⟩]).body? 0).map
          (fun b => (b.listed .input, b.table .metadata)) = some ([2, 3], []) ∧
      ((looseTask.serveAll ([⟨1, 2, none⟩, ⟨0, 1, none⟩, ⟨1, 3, none⟩] ++
          [⟨0, 4, none⟩, ⟨4, 5, none⟩])).body? 0).map
          (fun b => (b.listed .input, b.table .metadata)) =
        some ([2, 3], [("author", "\"a\"")]) := by
  have hfaithful : looseTask.Faithful
      ([⟨1, 2, none⟩, ⟨0, 1, none⟩, ⟨1, 3, none⟩] ++ [⟨0, 4, none⟩, ⟨4, 5, none⟩]) := by
    refine faithful_of_nodup (by decide) fun r hr => ?_
    simp only [List.cons_append, List.nil_append, List.mem_cons, List.not_mem_nil, or_false] at hr
    rcases hr with rfl | rfl | rfl | rfl | rfl
    all_goals rfl
  exact ⟨looseTask_new, hfaithful, (lists_mirror_blocks looseTask looseTask_new _ _ hfaithful).1,
    by decide +kernel, by decide +kernel⟩

end Forest
end Wdl
