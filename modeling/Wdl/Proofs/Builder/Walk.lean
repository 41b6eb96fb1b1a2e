import Wdl.Proofs.Builder.Orderly

/-!
What a walk adds.

`reps` lists the productions of a tree for which a walk adds a node, with their nodes, and `faults`
the productions about which it records an error or a problem.  `Grown` relates both to the builder
after the walk: the nodes are those of the productions, each has the kind and span of its
production, and each becomes a part of the node of the nearest production around its own, unless
there is a fault.
-/

namespace Wdl

namespace Builder

/-- Whether an event records an error or a problem. -/
def reported (b b' : Builder) : Bool :=
  b'.problems.length != b.problems.length || b'.syntaxErrors.length != b.syntaxErrors.length

mutual

/-- The productions about which a walk records an error or a problem when they begin or end. -/
def faults (path : Tree.Path) : Tree → Builder → List Tree.Path
  | .token _, _ => []
  | .node p e cs, b =>
    let begun := b.enter path (.node p e cs)
    let done := walkList path 0 cs begun
    (if b.reported begun || done.reported (done.exit path (.node p e cs)) then [path] else []) ++
      faultsList path 0 cs begun

def faultsList (path : Tree.Path) (i : Nat) : List Tree → Builder → List Tree.Path
  | [], _ => []
  | c :: cs, b => faults (i :: path) c b ++ faultsList path (i + 1) cs (walk (i :: path) c b)

end

mutual

/-- The productions for which a walk adds a node, and the nodes. -/
def reps (path : Tree.Path) : Tree → Builder → List (Tree.Path × NodeId)
  | .token _, _ => []
  | .node p e cs, b =>
    let begun := b.enter path (.node p e cs)
    (if begun.forest.nextNode = b.forest.nextNode then [] else [(path, b.forest.nextNode)]) ++
      repsList path 0 cs begun

def repsList (path : Tree.Path) (i : Nat) : List Tree → Builder → List (Tree.Path × NodeId)
  | [], _ => []
  | c :: cs, b => reps (i :: path) c b ++ repsList path (i + 1) cs (walk (i :: path) c b)

end

/-- The node of the nearest production around the one at `path`, or `base` if there is none. -/
def nearest (reps : List (Tree.Path × NodeId)) (base : NodeId) (path : Tree.Path) : NodeId :=
  ((reps.filter fun r => r.1 != path && r.1.isSuffixOf path).map Prod.snd).getLastD base

theorem nearest_append_left {reps rest : List (Tree.Path × NodeId)} {base : NodeId}
    {path : Tree.Path} (h : ∀ r ∈ rest, ¬ r.1 <:+ path) :
    nearest (reps ++ rest) base path = nearest reps base path := by
  have hrest : (rest.filter fun r => r.1 != path && r.1.isSuffixOf path) = [] := by
    refine List.filter_eq_nil_iff.mpr fun r hr hin => h r hr ?_
    rw [Bool.and_eq_true] at hin
    exact List.isSuffixOf_iff_suffix.mp hin.2
  rw [nearest, List.filter_append, hrest, List.append_nil, nearest]

theorem nearest_append_right {reps rest : List (Tree.Path × NodeId)} {base : NodeId}
    {path : Tree.Path} (h : ∀ r ∈ reps, ¬ r.1 <:+ path) :
    nearest (reps ++ rest) base path = nearest rest base path := by
  have hreps : (reps.filter fun r => r.1 != path && r.1.isSuffixOf path) = [] := by
    refine List.filter_eq_nil_iff.mpr fun r hr hin => h r hr ?_
    rw [Bool.and_eq_true] at hin
    exact List.isSuffixOf_iff_suffix.mp hin.2
  rw [nearest, List.filter_append, hreps, List.nil_append, nearest]

/-- The first node is nearest to the productions below its own that have none between. -/
theorem nearest_cons {reps : List (Tree.Path × NodeId)} {base id : NodeId} {path above : Tree.Path}
    (hne : above ≠ path) (hsuffix : above <:+ path) :
    nearest ((above, id) :: reps) base path = nearest reps id path := by
  have hin : (above != path && above.isSuffixOf path) = true := by
    rw [Bool.and_eq_true]
    exact ⟨bne_iff_ne.mpr hne, List.isSuffixOf_iff_suffix.mpr hsuffix⟩
  rw [nearest, List.filter_cons, if_pos hin, List.map_cons, List.getLastD_cons, nearest]

theorem nearest_self {reps : List (Tree.Path × NodeId)} {base id : NodeId} {path : Tree.Path}
    (h : ∀ r ∈ reps, ¬ r.1 <:+ path) : nearest ((path, id) :: reps) base path = base := by
  have hout : ¬ (path != path && path.isSuffixOf path) = true := by simp
  have hreps : (reps.filter fun r => r.1 != path && r.1.isSuffixOf path) = [] := by
    refine List.filter_eq_nil_iff.mpr fun r hr hin => h r hr ?_
    rw [Bool.and_eq_true] at hin
    exact List.isSuffixOf_iff_suffix.mp hin.2
  rw [nearest, List.filter_cons, if_neg hout, hreps]
  rfl

theorem nearest_cases (reps : List (Tree.Path × NodeId)) (base : NodeId) (path : Tree.Path) :
    nearest reps base path = base ∨
      ∃ r ∈ reps, r.1 ≠ path ∧ r.1 <:+ path ∧ nearest reps base path = r.2 := by
  unfold nearest
  rw [List.getLastD_eq_getLast?]
  cases hlast : ((reps.filter fun r => r.1 != path && r.1.isSuffixOf path).map
      Prod.snd).getLast? with
  | none => exact .inl rfl
  | some id =>
    obtain ⟨r, hr, rfl⟩ := List.mem_map.mp (List.mem_of_getLast? hlast)
    obtain ⟨hr, hin⟩ := List.mem_filter.mp hr
    rw [Bool.and_eq_true] at hin
    exact .inr ⟨r, hr, bne_iff_ne.mp hin.1, List.isSuffixOf_iff_suffix.mp hin.2, rfl⟩

/-- Of the productions around another the nearest lies below all others. -/
theorem exists_nearest {rs : List (Tree.Path × NodeId)} (base : NodeId) {path : Tree.Path}
    {r : Tree.Path × NodeId} (hrs : (rs.map Prod.fst).Pairwise fun x y => ¬ y <:+ x) (hr : r ∈ rs)
    (hne : r.1 ≠ path) (hsuffix : r.1 <:+ path) :
    ∃ s ∈ rs, s.1 ≠ path ∧ s.1 <:+ path ∧ nearest rs base path = s.2 ∧ r.1 <:+ s.1 := by
  have haround : ∀ s, s ∈ rs.filter (fun r => r.1 != path && r.1.isSuffixOf path) ↔
      s ∈ rs ∧ s.1 ≠ path ∧ s.1 <:+ path := by
    intro s
    rw [List.mem_filter, Bool.and_eq_true, bne_iff_ne, List.isSuffixOf_iff_suffix]
  have hmem := (haround r).mpr ⟨hr, hne, hsuffix⟩
  have hsorted := List.pairwise_map.mp hrs |>.sublist
    (List.filter_sublist (p := fun r => r.1 != path && r.1.isSuffixOf path))
  unfold nearest
  generalize rs.filter (fun r => r.1 != path && r.1.isSuffixOf path) = around at *
  rcases List.eq_nil_or_concat around with rfl | ⟨others, s, rfl⟩
  · exact absurd hmem List.not_mem_nil
  · rw [List.concat_eq_append] at *
    obtain ⟨hs, hsne, hssuffix⟩ := (haround s).mp (List.mem_append_right _ List.mem_cons_self)
    refine ⟨s, hs, hsne, hssuffix, by simp, ?_⟩
    rcases List.mem_append.mp hmem with hmem | hmem
    · have hafter := (List.pairwise_append.mp hsorted).2.2 r hmem s List.mem_cons_self
      exact (List.suffix_or_suffix_of_suffix hsuffix hssuffix).resolve_right hafter
    · obtain rfl := List.mem_singleton.mp hmem
      exact List.suffix_refl _

/-- Who is the child of a host at most is the child of no other. -/
theorem ne_some_of_host {parent : Option NodeId} {host p : NodeId} {loose : Prop}
    (h : parent = some host ∨ parent = none ∧ loose) (hp : p ≠ host) : parent ≠ some p := by
  rintro rfl
  rcases h with hgraft | ⟨hnone, -⟩
  · exact hp (Option.some.inj hgraft)
  · exact nomatch hnone

/-! ## Growing -/

variable {l : Layout} {b b' b'' : Builder} {xs ys : List (Tree.Path × Tree)}
  {rs ss : List (Tree.Path × NodeId)} {fs gs : List Tree.Path}

/-- `b'` comes from `b` by a walk over the productions `xs`, which has added the nodes `rs` and
recorded faults about the productions `fs`. -/
structure Grown (l : Layout) (b b' : Builder) (xs : List (Tree.Path × Tree))
    (rs : List (Tree.Path × NodeId)) (fs : List Tree.Path) : Prop where
  orderly : Orderly l b'
  document : b'.document = b.document
  scope : b'.scope = b.scope
  keywords : b'.keywords = b.keywords
  sections : b'.sections = b.sections
  frames : b'.frames.map Frame.place = b.frames.map Frame.place
  nextNode : b'.forest.nextNode = b.forest.nextNode + rs.length
  profile? : ∀ id, id < b.forest.nextNode → b'.forest.profile? id = b.forest.profile? id
  parent? : ∀ id, id < b.forest.nextNode → b'.forest.parent? id = b.forest.parent? id
  parts : ∀ p, p < b.forest.nextNode → p ≠ b.host → b'.forest.parts p = b.forest.parts p
  added : ∀ c ∈ b'.forest.parts b.host, c ∈ b.forest.parts b.host ∨
    ∃ y ∈ xs, ∃ q, b'.forest.profile? c = some q ∧ y.2.spot? = some (q.kind, q.span)
  ids : rs.map Prod.snd = List.range' b.forest.nextNode rs.length
  order : (rs.map Prod.fst).Sublist (xs.map Prod.fst)
  shown : ∀ r ∈ rs, ∃ y ∈ xs, y.1 = r.1 ∧
    ∃ q, b'.forest.profile? r.2 = some q ∧ y.2.spot? = some (q.kind, q.span)
  covered : ∀ y ∈ xs, y.2.spot?.isSome = true → y.1 ∈ rs.map Prod.fst ∨ y.1 ∈ fs
  parents : ∀ r ∈ rs, b'.forest.parent? r.2 = some (nearest rs b.host r.1) ∨ r.1 ∈ fs

theorem host_congr (hdocument : b'.document = b.document) (hsections : b'.sections = b.sections)
    (hframes : b'.frames.map Frame.place = b.frames.map Frame.place) : b'.host = b.host := by
  have hhost : ∀ b : Builder, b.host =
      ((b.frames.map Frame.place).head?.map Prod.snd).getD ((b.sections.head?.map Context.node).getD
        b.document) := by
    intro b
    unfold host current
    cases b.frames with
    | nil => cases b.sections <;> rfl
    | cons frame outer => rfl
  rw [hhost, hhost, hframes, hsections, hdocument]

theorem host_of_frames_nil (h : b.frames.map Frame.place = []) : b.host = b.current.node := by
  rw [host, List.map_eq_nil_iff.mp h]

namespace Grown

theorem host (h : Grown l b b' xs rs fs) : b'.host = b.host :=
  host_congr h.document h.sections h.frames

theorem mem_ids (h : Grown l b b' xs rs fs) {r : Tree.Path × NodeId} (hr : r ∈ rs) :
    b.forest.nextNode ≤ r.2 ∧ r.2 < b'.forest.nextNode := by
  have hmem : r.2 ∈ rs.map Prod.snd := List.mem_map_of_mem hr
  rw [h.ids, List.mem_range'_1] at hmem
  rwa [h.nextNode]

/-- Nothing is added by an event that changes no structure. -/
theorem of_quiet (h : Orderly l b) (hq : Quiet b b') : Grown l b b' [] [] [] where
  orderly := h.quiet hq
  document := hq.document
  scope := hq.scope
  keywords := hq.keywords
  sections := hq.sections
  frames := hq.frames
  nextNode := hq.alike.nextNode
  profile? id _ := hq.alike.profile? id
  parent? id _ := hq.alike.parent? id
  parts p _ _ := hq.alike.parts p
  added _ hc := .inl (hq.alike.parts _ ▸ hc)
  ids := rfl
  order := .slnil
  shown _ hr := absurd hr List.not_mem_nil
  covered _ hy := absurd hy List.not_mem_nil
  parents _ hr := absurd hr List.not_mem_nil

/-- One walk after another, over parts that are not nested in one another. -/
theorem append (h : Grown l b b' xs rs fs) (h' : Grown l b' b'' ys ss gs)
    (hapart : ∀ r ∈ rs, ∀ s ∈ ss, ¬ r.1 <:+ s.1 ∧ ¬ s.1 <:+ r.1) :
    Grown l b b'' (xs ++ ys) (rs ++ ss) (fs ++ gs) := by
  have hle : b.forest.nextNode ≤ b'.forest.nextNode := by
    rw [h.nextNode]
    exact Nat.le_add_right _ _
  refine ⟨h'.orderly, h'.document.trans h.document, h'.scope.trans h.scope,
    h'.keywords.trans h.keywords, h'.sections.trans h.sections, h'.frames.trans h.frames, ?_,
    fun id hid => ?_, fun id hid => ?_, fun p hp hne => ?_, fun c hc => ?_, ?_, ?_, fun r hr => ?_,
    fun y hy hspot => ?_, fun r hr => ?_⟩
  · rw [h'.nextNode, h.nextNode, List.length_append, Nat.add_assoc]
  · rw [h'.profile? id (Nat.lt_of_lt_of_le hid hle), h.profile? id hid]
  · rw [h'.parent? id (Nat.lt_of_lt_of_le hid hle), h.parent? id hid]
  · rw [h'.parts p (Nat.lt_of_lt_of_le hp hle) (by rwa [h.host]), h.parts p hp hne]
  · rw [← h.host] at hc
    rcases h'.added c hc with hc | ⟨y, hy, q, hq, hspot⟩
    · rw [h.host] at hc
      rcases h.added c hc with hold | ⟨y, hy, q, hq, hspot⟩
      · exact .inl hold
      · refine .inr ⟨y, List.mem_append_left _ hy, q, ?_, hspot⟩
        rw [h'.profile? c (Forest.lt_of_profile? _ hq), hq]
    · exact .inr ⟨y, List.mem_append_right _ hy, q, hq, hspot⟩
  · rw [List.map_append, h.ids, h'.ids, h.nextNode, List.length_append, List.range'_append_1]
  · rw [List.map_append, List.map_append]
    exact h.order.append h'.order
  · rcases List.mem_append.mp hr with hr | hr
    · obtain ⟨y, hy, hpath, q, hq, hspot⟩ := h.shown r hr
      refine ⟨y, List.mem_append_left _ hy, hpath, q, ?_, hspot⟩
      rw [h'.profile? _ (h.mem_ids hr).2, hq]
    · obtain ⟨y, hy, hshown⟩ := h'.shown r hr
      exact ⟨y, List.mem_append_right _ hy, hshown⟩
  · rw [List.map_append, List.mem_append, List.mem_append]
    rcases List.mem_append.mp hy with hy | hy
    · exact (h.covered y hy hspot).imp .inl .inl
    · exact (h'.covered y hy hspot).imp .inr .inr
  · rw [List.mem_append]
    rcases List.mem_append.mp hr with hr | hr
    · rw [h'.parent? _ (h.mem_ids hr).2, nearest_append_left fun s hs => (hapart r hr s hs).2]
      exact (h.parents r hr).imp_right .inl
    · rw [nearest_append_right fun x hx => (hapart x hx r hr).1, ← h.host]
      exact (h'.parents r hr).imp_right .inr

/-- More productions that add no node do not matter, nor do more faults. -/
theorem weaken (h : Grown l b b' xs rs fs) (hxs : xs.Sublist ys)
    (hcovered : ∀ y ∈ ys, y.2.spot?.isSome = true → y ∈ xs ∨ y.1 ∈ gs) (hfs : fs ⊆ gs) :
    Grown l b b' ys rs gs where
  orderly := h.orderly
  document := h.document
  scope := h.scope
  keywords := h.keywords
  sections := h.sections
  frames := h.frames
  nextNode := h.nextNode
  profile? := h.profile?
  parent? := h.parent?
  parts := h.parts
  added c hc := (h.added c hc).imp_right fun ⟨y, hy, hspot⟩ => ⟨y, hxs.subset hy, hspot⟩
  ids := h.ids
  order := h.order.trans (hxs.map _)
  shown r hr := by
    obtain ⟨y, hy, hshown⟩ := h.shown r hr
    exact ⟨y, hxs.subset hy, hshown⟩
  covered y hy hspot := by
    rcases hcovered y hy hspot with hy | hy
    · exact (h.covered y hy hspot).imp_right fun hf => hfs hf
    · exact .inr hy
  parents r hr := (h.parents r hr).imp_right fun hf => hfs hf

/-- The node of a production is added, then those of the productions in it, and then the sections
and expressions are open again that were open before. -/
theorem wrap {b₁ b₂ b₃ : Builder} {path : Tree.Path} {t : Tree} (h : Steady b)
    (he : Entered l b b₁ t b.host) (hhost : b₁.host = b.forest.nextNode)
    (hg : Grown l b₁ b₂ xs rs fs) (horderly : Orderly l b₃)
    (halike : b₂.forest.Alike b₃.forest) (hdocument : b₃.document = b₂.document)
    (hscope : b₃.scope = b₂.scope) (hkeywords : b₃.keywords = b₂.keywords)
    (hsections : b₃.sections = b.sections)
    (hframes : b₃.frames.map Frame.place = b.frames.map Frame.place)
    (hpaths : ∀ x ∈ xs, path <:+ x.1 ∧ path ≠ x.1) (hfs : fs ⊆ gs)
    (hfault : b₁.problems ≠ b.problems → path ∈ gs) :
    Grown l b b₃ ((path, t) :: xs) ((path, b.forest.nextNode) :: rs) gs := by
  obtain ⟨q, parent, hsprout, hspot, hparent⟩ := he.sprout
  have hnext := hsprout.nextNode
  have hlt : b.forest.nextNode < b₁.forest.nextNode := by
    rw [hnext]
    exact Nat.lt_succ_self _
  have hle : ∀ {id}, id < b.forest.nextNode → id < b₁.forest.nextNode := fun hid =>
    Nat.lt_trans hid hlt
  have hhostlt := h.host.2
  have hparentne : ∀ {p}, p ≠ b.host → parent ≠ some p := ne_some_of_host hparent
  have hne : parent ≠ some b.forest.nextNode := hparentne (Nat.ne_of_gt hhostlt)
  have hinner : ∀ r ∈ rs, path <:+ r.1 ∧ path ≠ r.1 := by
    intro r hr
    obtain ⟨y, hy, hpath, -⟩ := hg.shown r hr
    rw [← hpath]
    exact hpaths y hy
  have hprofile : b₃.forest.profile? b.forest.nextNode = some q := by
    rw [halike.profile?, hg.profile? _ hlt, hsprout.profile?_new]
  refine ⟨horderly, hdocument.trans (hg.document.trans he.document),
    hscope.trans (hg.scope.trans he.scope), hkeywords.trans (hg.keywords.trans he.keywords),
    hsections, hframes, ?_, fun id hid => ?_, fun id hid => ?_, fun p hp hphost => ?_,
    fun c hc => ?_, ?_, ?_, fun r hr => ?_, fun y hy hsome => ?_, fun r hr => ?_⟩
  · rw [halike.nextNode, hg.nextNode, hnext, List.length_cons, Nat.add_assoc, Nat.add_comm 1]
  · rw [halike.profile?, hg.profile? id (hle hid), hsprout.profile?_of_lt hid]
  · rw [halike.parent?, hg.parent? id (hle hid), hsprout.parent?, if_neg (Nat.ne_of_lt hid)]
  · rw [halike.parts, hg.parts p (hle hp) (by rw [hhost]; exact Nat.ne_of_lt hp),
      hsprout.parts_of_ne p (Nat.ne_of_lt hp) (hparentne hphost)]
  · rw [halike.parts, hg.parts b.host (hle hhostlt) (by rw [hhost]; exact Nat.ne_of_lt hhostlt),
      hsprout.mem_parts hne] at hc
    rcases hc with hc | ⟨-, rfl⟩
    · exact .inl hc
    · exact .inr ⟨_, List.mem_cons_self, q, hprofile, hspot⟩
  · rw [List.map_cons, hg.ids, hnext, List.length_cons, List.range'_succ]
  · exact hg.order.cons_cons path
  · rcases List.mem_cons.mp hr with rfl | hr
    · exact ⟨_, List.mem_cons_self, rfl, q, hprofile, hspot⟩
    · obtain ⟨y, hy, hpath, q', hq', hspot'⟩ := hg.shown r hr
      exact ⟨y, List.mem_cons_of_mem _ hy, hpath, q', by rw [halike.profile?, hq'], hspot'⟩
  · rw [List.map_cons, List.mem_cons]
    rcases List.mem_cons.mp hy with rfl | hy
    · exact .inl (.inl rfl)
    · exact (hg.covered y hy hsome).imp .inr fun hf => hfs hf
  · rw [halike.parent?]
    rcases List.mem_cons.mp hr with rfl | hr
    · rw [hg.parent? _ hlt, hsprout.parent?, if_pos rfl, nearest_self]
      · rcases hparent with hgraft | ⟨-, hproblems⟩
        · exact .inl hgraft
        · exact .inr (hfault hproblems)
      · intro r hr hsuffix
        obtain ⟨hpath, hne'⟩ := hinner r hr
        exact hne' (hpath.eq_of_length (Nat.le_antisymm hpath.length_le hsuffix.length_le))
    · obtain ⟨hpath, hne'⟩ := hinner r hr
      rw [nearest_cons hne' hpath, ← hhost]
      exact (hg.parents r hr).imp_right fun hf => hfs hf

/-- A single node is added. -/
theorem leaf {b₁ : Builder} {path : Tree.Path} {t : Tree} (h : Steady b)
    (he : Entered l b b₁ t b.host) (hsections : b₁.sections = b.sections)
    (hframes : b₁.frames = b.frames) (hfault : b₁.problems ≠ b.problems → path ∈ gs) :
    Grown l b b₁ [(path, t)] [(path, b.forest.nextNode)] gs := by
  obtain ⟨q, parent, hsprout, hspot, hparent⟩ := he.sprout
  have hparentne : ∀ {p}, p ≠ b.host → parent ≠ some p := ne_some_of_host hparent
  have hne : parent ≠ some b.forest.nextNode := hparentne (Nat.ne_of_gt h.host.2)
  refine ⟨he.orderly, he.document, he.scope, he.keywords, hsections, by rw [hframes],
    hsprout.nextNode, fun id hid => hsprout.profile?_of_lt hid, fun id hid => ?_,
    fun p hp hphost => hsprout.parts_of_ne p (Nat.ne_of_lt hp) (hparentne hphost),
    fun c hc => ?_, rfl, .refl _, fun r hr => ?_, fun y hy _ => ?_, fun r hr => ?_⟩
  · rw [hsprout.parent?, if_neg (Nat.ne_of_lt hid)]
  · rcases (hsprout.mem_parts hne _ c).mp hc with hc | ⟨-, rfl⟩
    · exact .inl hc
    · exact .inr ⟨_, List.mem_cons_self, q, hsprout.profile?_new, hspot⟩
  · rw [List.mem_singleton.mp hr]
    exact ⟨_, List.mem_cons_self, rfl, q, hsprout.profile?_new, hspot⟩
  · rw [List.mem_singleton.mp hy]
    exact .inl List.mem_cons_self
  · rw [List.mem_singleton.mp hr, nearest_self (List.forall_mem_nil _), hsprout.parent?, if_pos rfl]
    rcases hparent with hgraft | ⟨-, hproblems⟩
    · exact .inl hgraft
    · exact .inr (hfault hproblems)

end Grown

end Builder
end Wdl
