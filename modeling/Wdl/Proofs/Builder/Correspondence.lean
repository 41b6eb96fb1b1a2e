import Wdl.Proofs.Builder.Agreement
import Wdl.Proofs.Builder.Texts
import Wdl.Proofs.Occurrences

/-!
Productions and nodes.

What a walk over a document does not attach it has recorded an error about, `walk_accounted`: every
production that builds nodes stands for one node of the document, unless there is an error about it
or about one around it.  So if there are no errors at all, the tree of the document mirrors the
productions; and where all that stands directly below a production builds nodes, these are the
children of its node, `Mirrors.spots_children`.
-/

namespace Wdl
namespace Builder

/-! ## Faults -/

section Faults

variable {b b' b'' : Builder}

/-- Nothing is recorded between two builders. -/
def Silent (b b' : Builder) : Prop :=
  b'.problems = b.problems ∧ b'.syntaxErrors = b.syntaxErrors

theorem Silent.of_reported (h : Silent b b') : b.reported b' = false := by
  rw [reported, h.1, h.2, bne_self_eq_false, bne_self_eq_false]
  rfl

/-- What only grows and is the same in the end was the same all the time. -/
theorem Silent.split (h : b.problems <+: b'.problems) (h' : b'.problems <+: b''.problems)
    (hg : b.Grows b') (hg' : b'.Grows b'') (hsilent : Silent b b'') :
    Silent b b' ∧ Silent b' b'' := by
  have hproblems : b'.problems = b.problems := by
    refine (h.eq_of_length_le ?_).symm
    rw [← hsilent.1]
    exact h'.length_le
  exact ⟨⟨hproblems, hg.eq_left hg' hsilent.2⟩,
    hsilent.1.trans hproblems.symm, hg.eq_right hg' hsilent.2⟩

mutual

theorem walk_advances {b : Builder} (h : Rooted b) (path : Tree.Path) (t : Tree) :
    Advances b (walk path t b) := by
  cases t with
  | token k => exact .quiet h (visitToken_quiet b k)
  | node p e cs =>
    have henter := enter_advances h path (.node p e cs)
    have hinner := walkList_advances henter.rooted path 0 cs
    exact (henter.trans hinner).trans (exit_advances hinner.rooted path (.node p e cs))

theorem walkList_advances {b : Builder} (h : Rooted b) (path : Tree.Path) (i : Nat)
    (cs : List Tree) : Advances b (walkList path i cs b) := by
  cases cs with
  | nil => exact .quiet h (.refl b)
  | cons c cs =>
    have hfirst := walk_advances h (i :: path) c
    exact hfirst.trans (walkList_advances hfirst.rooted path (i + 1) cs)

end

mutual

/-- A walk that records nothing finds no faults. -/
theorem faults_eq_nil {b : Builder} (h : Rooted b) {path : Tree.Path} {t : Tree}
    (hsilent : Silent b (walk path t b)) : faults path t b = [] := by
  cases t with
  | token k => rfl
  | node p e cs =>
    have henter := enter_advances h path (.node p e cs)
    have hinner := walkList_advances henter.rooted path 0 cs
    have hexit := exit_advances hinner.rooted path (.node p e cs)
    have hgrows := walkList_errors path 0 cs (b.enter path (.node p e cs))
    obtain ⟨hbegun, hrest⟩ := Silent.split henter.problems (hinner.trans hexit).problems
      (b.enter_grows path _) (hgrows.trans (exit_grows _ path _)) hsilent
    obtain ⟨hdone, hend⟩ := Silent.split hinner.problems hexit.problems hgrows
      (exit_grows _ path _) hrest
    rw [faults, hbegun.of_reported, hend.of_reported, faultsList_eq_nil henter.rooted hdone]
    rfl

theorem faultsList_eq_nil {b : Builder} (h : Rooted b) {path : Tree.Path} {i : Nat}
    {cs : List Tree} (hsilent : Silent b (walkList path i cs b)) : faultsList path i cs b = [] := by
  cases cs with
  | nil => rfl
  | cons c cs =>
    have hfirst := walk_advances h (i :: path) c
    have hrest := walkList_advances hfirst.rooted path (i + 1) cs
    obtain ⟨hc, hcs⟩ := Silent.split hfirst.problems hrest.problems (walk_errors (i :: path) c b)
      (walkList_errors path (i + 1) cs _) hsilent
    rw [faultsList, faults_eq_nil h hc, faultsList_eq_nil hfirst.rooted hcs]
    rfl

end

end Faults

end Builder

/-! ## Spots of nodes -/

namespace Forest

/-- What a node is and where. -/
def spot? (f : Forest) (id : NodeId) : Option Spot :=
  (f.node? id).map fun n => (n.kind, n.span)

theorem spot?_of_profile? {f : Forest} {id : NodeId} {q : Profile} (h : f.profile? id = some q) :
    f.spot? id = some (q.kind, q.span) := by
  obtain ⟨n, hn, rfl⟩ := Option.map_eq_some_iff.mp h
  rw [spot?, hn]
  rfl

end Forest

theorem Production.nodeKind?_ne_document (p : Production) : p.nodeKind? ≠ some .document := by
  cases p <;> exact nofun

namespace Builder

/-! ## Accounts -/

/-- The productions of `t` that build nodes and the nodes of the document `d` account for each
other, as `rs` says, but for productions that are or lie in one of `fs`. -/
structure Accounted (t : Tree) (d : NodeId) (f : Forest) (rs : List (Tree.Path × NodeId))
    (fs : List Tree.Path) : Prop where
  /-- a production stands for exactly one node, which is attached and of its kind and span -/
  stands : ∀ y ∈ t.preorder, ∀ s, y.2.spot? = some s → (∃ z ∈ fs, z <:+ y.1) ∨
    ∃ id, (y.1, id) ∈ rs ∧ (∀ id', (y.1, id') ∈ rs → id' = id) ∧ f.Holds d id ∧
      f.spot? id = some s
  /-- an attached node is that of exactly one production -/
  comes : ∀ id, f.Holds d id → id ≠ d → ∃ y ∈ t.preorder, (y.1, id) ∈ rs ∧
    (∀ z, (z, id) ∈ rs → z = y.1) ∧ y.2.spot?.isSome = true ∧ f.spot? id = y.2.spot?
  /-- attached nodes of one kind and span are those of productions that are nested -/
  alone : ∀ y ∈ t.preorder, ∀ s, y.2.spot? = some s → ∀ id, f.Holds d id → f.spot? id = some s →
    ∃ z, (z, id) ∈ rs ∧ (z <:+ y.1 ∨ y.1 <:+ z)
  /-- so there is only one of them if no kind and place is given twice -/
  sole : t.Sole → ∀ y ∈ t.preorder, ∀ s, y.2.spot? = some s → s.1 ≠ .expression →
    ∀ id id', f.Holds d id → f.Holds d id' → f.spot? id = some s → f.spot? id' = some s → id = id'

section Accounts

variable {l : Layout} {b b' : Builder} {t : Tree} {rs : List (Tree.Path × NodeId)}
  {fs : List Tree.Path}

/-- The nodes of productions that are and lie in none with a fault are attached. -/
theorem Grown.holds (hg : Grown l b b' t.preorder rs fs) (hlt : b.document < b.forest.nextNode)
    (hhost : b.host = b.document) {r : Tree.Path × NodeId} (hr : r ∈ rs)
    (hclear : ∀ z ∈ fs, ¬ z <:+ r.1) : b'.forest.Holds b.document r.2 := by
  have hlinked := hg.orderly.steady.linked
  rw [hg.document] at hlinked
  -- up along the path to the nearest production with a node
  induction hn : r.1.length using Nat.strongRecOn generalizing r with
  | ind n ih =>
    have hparent := (hg.parents r hr).resolve_right fun hf => hclear _ hf (List.suffix_refl _)
    have hle : b.document ≤ r.2 := Nat.le_of_lt (Nat.lt_of_lt_of_le hlt (hg.mem_ids hr).1)
    obtain ⟨hp, hpart⟩ := hlinked.part_of_parent _ r.2 hle hparent
    refine (Forest.holds_part hlinked hp hpart).mpr ?_
    rcases nearest_cases rs b.host r.1 with heq | ⟨r', hr', hne, hsuffix, heq⟩
    · rw [heq, hhost]
      exact ⟨_, .root⟩
    · rw [heq]
      have hshorter : r'.1.length < n := by
        rw [← hn]
        refine Nat.lt_of_le_of_ne hsuffix.length_le fun hlength => hne ?_
        exact hsuffix.eq_of_length hlength
      exact ih _ hshorter hr' (fun z hz hs => hclear z hz (hs.trans hsuffix)) rfl

theorem Grown.nodup_fst (hg : Grown l b b' t.preorder rs fs) : (rs.map Prod.fst).Nodup :=
  hg.order.nodup (Tree.nodup_preorderAt [] t)

theorem Grown.nodup_snd (hg : Grown l b b' t.preorder rs fs) : (rs.map Prod.snd).Nodup := by
  rw [hg.ids]
  exact List.nodup_range'

/-- Every node from the first that was added on is that of a production. -/
theorem Grown.exists_of_le (hg : Grown l b b' t.preorder rs fs) {id : NodeId}
    (hle : b.forest.nextNode ≤ id) (hlt : id < b'.forest.nextNode) : ∃ z, (z, id) ∈ rs := by
  have hmem : id ∈ rs.map Prod.snd := by
    rw [hg.ids, List.mem_range'_1, ← hg.nextNode]
    exact ⟨hle, hlt⟩
  obtain ⟨⟨z, id⟩, hr, rfl⟩ := List.mem_map.mp hmem
  exact ⟨z, hr⟩

theorem Grown.spot?_eq (hg : Grown l b b' t.preorder rs fs) {r : Tree.Path × NodeId} (hr : r ∈ rs) :
    ∃ y ∈ t.preorder, y.1 = r.1 ∧ y.2.spot?.isSome = true ∧ b'.forest.spot? r.2 = y.2.spot? := by
  obtain ⟨y, hy, hpath, q, hq, hspot⟩ := hg.shown r hr
  exact ⟨y, hy, hpath, by rw [hspot]; rfl, (Forest.spot?_of_profile? hq).trans hspot.symm⟩

/-- A walk over a document accounts for all its productions. -/
theorem Grown.accounted (hg : Grown l b b' t.preorder rs fs)
    (hnext : b.forest.nextNode = b.document + 1) (hhost : b.host = b.document)
    (hspread : t.Spread) : Accounted t b.document b'.forest rs fs := by
  have hlt : b.document < b.forest.nextNode := by
    rw [hnext]
    exact Nat.lt_succ_self _
  have hlinked := hg.orderly.steady.linked
  have hdocument := hg.orderly.steady.document_lt
  rw [hg.document] at hlinked hdocument
  have hcomes : ∀ id, b'.forest.Holds b.document id → id ≠ b.document →
      ∃ y ∈ t.preorder, (y.1, id) ∈ rs ∧ (∀ z, (z, id) ∈ rs → z = y.1) ∧
        y.2.spot?.isSome = true ∧ b'.forest.spot? id = y.2.spot? := by
    intro id hheld hne
    have hle : b.forest.nextNode ≤ id := by
      rw [hnext]
      exact Nat.lt_of_le_of_ne (hheld.le hlinked) hne.symm
    obtain ⟨z, hz⟩ := hg.exists_of_le hle (hheld.elim fun _ ho => (ho.lt hlinked hdocument).1)
    obtain ⟨y, hy, hpath, hsome, hspot⟩ := hg.spot?_eq hz
    refine ⟨y, hy, by rw [hpath]; exact hz, fun z' hz' => ?_, hsome, hspot⟩
    rw [hpath]
    exact congrArg Prod.fst (List.inj_on_of_nodup_map hg.nodup_snd hz' hz rfl)
  have hdistinct : ∀ (y : Tree.Path × Tree) s id, y.2.spot? = some s →
      b'.forest.spot? id = some s → id ≠ b.document := by
    rintro y s id hs hspot rfl
    obtain ⟨q, hq, hkind, -⟩ := hg.orderly.steady.document
    rw [hg.document] at hq
    rw [Forest.spot?_of_profile? hq] at hspot
    obtain ⟨k, hk, heq⟩ := Option.map_eq_some_iff.mp hs
    obtain ⟨p, -, hp⟩ := Option.bind_eq_some_iff.mp hk
    have hsame : k = q.kind := congrArg Prod.fst (heq.trans (Option.some.inj hspot).symm)
    refine p.nodeKind?_ne_document ?_
    rw [hp, hsame, hkind]
  refine ⟨fun y hy s hs => ?_, hcomes, fun y hy s hs id hheld hspot => ?_,
    fun hsole y hy s hs hkind id id' hheld hheld' hspot hspot' => ?_⟩
  · by_cases hfault : ∃ z ∈ fs, z <:+ y.1
    · exact .inl hfault
    · have hclear : ∀ z ∈ fs, ¬ z <:+ y.1 := fun z hz hsuffix => hfault ⟨z, hz, hsuffix⟩
      have hmem := (hg.covered y hy (by rw [hs]; rfl)).resolve_right fun hf =>
        hclear _ hf (List.suffix_refl _)
      obtain ⟨⟨z, id⟩, hr, hz⟩ := List.mem_map.mp hmem
      obtain rfl : z = y.1 := hz
      obtain ⟨y', hy', hpath, -, hspot⟩ := hg.spot?_eq hr
      obtain rfl := List.inj_on_of_nodup_map (Tree.nodup_preorderAt [] t) hy' hy hpath
      refine .inr ⟨id, hr, fun id' hr' => ?_, hg.holds hlt hhost hr hclear, hspot.trans hs⟩
      exact congrArg Prod.snd (List.inj_on_of_nodup_map hg.nodup_fst hr' hr rfl)
  · obtain ⟨y', hy', hr, -, hsome, hspot'⟩ := hcomes id hheld (hdistinct y s id hs hspot)
    have hs' : y'.2.spot? = some s := hspot'.symm.trans hspot
    refine ⟨y'.1, hr, hspread y' hy' y hy hsome (by rw [hs]; rfl) ?_⟩
    rw [Tree.span_of_spot? hs', Tree.span_of_spot? hs]
  · obtain ⟨x, hx, hr, -, -, hxs⟩ := hcomes id hheld (hdistinct y s id hs hspot)
    obtain ⟨x', hx', hr', -, -, hxs'⟩ := hcomes id' hheld' (hdistinct y s id' hs hspot')
    obtain rfl := hsole.eq hx hx' (hxs.symm.trans hspot) (hxs'.symm.trans hspot') hkind
    exact congrArg Prod.snd (List.inj_on_of_nodup_map hg.nodup_fst hr hr' rfl)

/-- The nodes of the document `d` mirror the productions of `t` that build nodes, as `rs` says: they
are numbered in the order in which these begin, and each is a child of the node of the nearest
production around its own. -/
structure Mirrors (t : Tree) (d : NodeId) (f : Forest) (rs : List (Tree.Path × NodeId)) : Prop where
  builds : ∀ y ∈ t.preorder, y.1 ∈ rs.map Prod.fst ↔ y.2.spot?.isSome = true
  order : (rs.map Prod.fst).Sublist (t.preorder.map Prod.fst)
  numbers : rs.map Prod.snd = List.range' (d + 1) rs.length
  attached : ∀ id, f.Holds d id ↔ id = d ∨ id ∈ rs.map Prod.snd
  spots : ∀ r ∈ rs, ∃ y ∈ t.preorder, y.1 = r.1 ∧ f.spot? r.2 = y.2.spot?
  parents : ∀ r ∈ rs, f.parent? r.2 = some (nearest rs d r.1)
  children : ∀ p, f.Holds d p →
    (f.children p).Perm ((rs.filter fun r => nearest rs d r.1 == p).map Prod.snd)

/-- Where there are no faults, the document mirrors the productions. -/
theorem Grown.mirrors (hg : Grown l b b' t.preorder rs [])
    (hnext : b.forest.nextNode = b.document + 1) (hhost : b.host = b.document) :
    Mirrors t b.document b'.forest rs := by
  have hlt : b.document < b.forest.nextNode := by
    rw [hnext]
    exact Nat.lt_succ_self _
  have hlinked := hg.orderly.steady.linked
  have hdocument := hg.orderly.steady.document_lt
  rw [hg.document] at hlinked hdocument
  have hparents : ∀ r ∈ rs, b'.forest.parent? r.2 = some (nearest rs b.document r.1) := by
    intro r hr
    rw [← hhost]
    exact (hg.parents r hr).resolve_right List.not_mem_nil
  have hnumber : ∀ r ∈ rs, b.document ≤ r.2 := fun r hr =>
    Nat.le_of_lt (Nat.lt_of_lt_of_le hlt (hg.mem_ids hr).1)
  refine ⟨fun y hy => ⟨fun hmem => ?_, fun hsome => ?_⟩, hg.order, by rw [hg.ids, hnext],
    fun id => ⟨fun hheld => ?_, ?_⟩, fun r hr => ?_, hparents, fun p hp => ?_⟩
  · obtain ⟨r, hr, hpath⟩ := List.mem_map.mp hmem
    obtain ⟨y', hy', hpath', hsome, -⟩ := hg.spot?_eq hr
    rwa [List.inj_on_of_nodup_map (Tree.nodup_preorderAt [] t) hy hy' (hpath.symm.trans hpath'.symm)]
  · exact (hg.covered y hy hsome).resolve_right List.not_mem_nil
  · rcases Nat.lt_or_eq_of_le (hheld.le hlinked) with hgt | heq
    · obtain ⟨z, hz⟩ := hg.exists_of_le (by rw [hnext]; exact hgt)
        (hheld.elim fun _ ho => (ho.lt hlinked hdocument).1)
      exact .inr (List.mem_map.mpr ⟨_, hz, rfl⟩)
    · exact .inl heq.symm
  · rintro (rfl | hmem)
    · exact ⟨_, .root⟩
    · obtain ⟨r, hr, rfl⟩ := List.mem_map.mp hmem
      exact hg.holds hlt hhost hr (List.forall_mem_nil _)
  · obtain ⟨y, hy, hpath, -, hspot⟩ := hg.spot?_eq hr
    exact ⟨y, hy, hpath, hspot⟩
  · have hnodup : ((rs.filter fun r => nearest rs b.document r.1 == p).map Prod.snd).Nodup :=
      (List.filter_sublist.map _).nodup hg.nodup_snd
    refine (List.perm_ext_iff_of_nodup (Forest.nodup_children hlinked (hp.le hlinked)) hnodup).mpr
      fun c => ?_
    rw [Forest.mem_children, List.mem_map]
    constructor
    · intro hc
      obtain ⟨hparent, hgt⟩ := hlinked.parent_of_part p c (hp.le hlinked) hc
      have hle : b.forest.nextNode ≤ c := by
        rw [hnext]
        exact Nat.lt_of_le_of_lt (hp.le hlinked) hgt
      obtain ⟨z, hz⟩ := hg.exists_of_le hle (hlinked.lt_of_part (hp.le hlinked) hc)
      refine ⟨_, List.mem_filter.mpr ⟨hz, beq_iff_eq.mpr ?_⟩, rfl⟩
      exact Option.some.inj ((hparents _ hz).symm.trans hparent)
    · rintro ⟨r, hr, rfl⟩
      obtain ⟨hmem, heq⟩ := List.mem_filter.mp hr
      rw [← beq_iff_eq.mp heq]
      exact (hlinked.part_of_parent _ r.2 (hnumber r hmem) (hparents r hmem)).2

/-- In the order of a text, children are listed in the order of the productions. -/
theorem Mirrors.children_eq {d : NodeId} {f : Forest} (hm : Mirrors t d f rs)
    (hp : f.Placed .ordered d) (hl : f.Linked d) {p : NodeId} (hheld : f.Holds d p) :
    f.children p = (rs.filter fun r => nearest rs d r.1 == p).map Prod.snd := by
  have hnumbers : (rs.map Prod.snd).Pairwise (· < ·) := by
    rw [hm.numbers]
    exact List.pairwise_lt_range'
  refine (hm.children p hheld).eq_of_pairwise ?_ (hp.children_lt hl (hheld.le hl))
    (hnumbers.sublist (List.filter_sublist.map _))
  exact fun a c _ _ hac hca => absurd hac (Nat.lt_asymm hca)

end Accounts

section Children

variable {t : Tree} {d id : NodeId} {f : Forest} {rs : List (Tree.Path × NodeId)}
  {r : Tree.Path × NodeId} {y : Tree.Path × Tree}

namespace Mirrors

theorem pairwise_fst (hm : Mirrors t d f rs) :
    (rs.map Prod.fst).Pairwise fun x y => ¬ y <:+ x :=
  (List.pairwise_map.mpr (Tree.pairwise_preorderAt [] t)).sublist hm.order

theorem nodup_fst (hm : Mirrors t d f rs) : (rs.map Prod.fst).Nodup :=
  hm.order.nodup (Tree.nodup_preorderAt [] t)

theorem nodup_snd (hm : Mirrors t d f rs) : (rs.map Prod.snd).Nodup := by
  rw [hm.numbers]
  exact List.nodup_range'

theorem lt_of_mem (hm : Mirrors t d f rs) (hr : r ∈ rs) : d < r.2 := by
  have hmem := List.mem_map_of_mem (f := Prod.snd) hr
  rw [hm.numbers, List.mem_range'_1] at hmem
  exact hmem.1

theorem exists_rep (hm : Mirrors t d f rs) (hy : y ∈ t.preorder)
    (hspots : ∀ c ∈ y.2.nodes, c.spot?.isSome = true) {z : Tree.Path × Tree}
    (hz : z ∈ Tree.nodesAt y.1 0 y.2.children) : ∃ r ∈ rs, r.1 = z.1 := by
  have htree : z.2 ∈ y.2.nodes := by
    rw [Tree.nodes, ← Tree.map_snd_nodesAt y.1 0]
    exact List.mem_map_of_mem hz
  have hmem := (Tree.nodesAt_sublist_preorderAt hy).subset hz
  exact List.mem_map.mp ((hm.builds z hmem).mpr (hspots z.2 htree))

/-- If all that stands directly below a production builds nodes, it is the nearest around these and
around no others. -/
theorem nearest_iff (hm : Mirrors t d f rs) (hy : y ∈ t.preorder) (hid : (y.1, id) ∈ rs)
    (hspots : ∀ c ∈ y.2.nodes, c.spot?.isSome = true) (hr : r ∈ rs) :
    nearest rs d r.1 = id ↔ r.1 ∈ (Tree.nodesAt y.1 0 y.2.children).map Prod.fst := by
  constructor
  · intro hnearest
    rcases nearest_cases rs d r.1 with heq | ⟨s, hs, hne, hsuffix, heq⟩
    · exact absurd (heq.symm.trans hnearest) (Nat.ne_of_lt (hm.lt_of_mem hid))
    obtain rfl := List.inj_on_of_nodup_map hm.nodup_snd hs hid (heq.symm.trans hnearest)
    obtain ⟨x, hx, hxpath, -⟩ := hm.spots r hr
    have hbelow : x ∈ Tree.preorderList y.1 0 y.2.children := by
      have hmem := Tree.mem_preorderAt_of_suffix hx hy (hxpath ▸ hsuffix)
      obtain ⟨z, tree⟩ := y
      cases tree with
      | token k => exact absurd hmem List.not_mem_nil
      | node p e cs =>
        rcases List.mem_cons.mp hmem with rfl | hmem
        · exact absurd hxpath hne
        · exact hmem
    obtain ⟨z, hz, hzsuffix⟩ := Tree.exists_nodesAt hbelow
    rw [hxpath] at hzsuffix
    by_cases hzr : z.1 = r.1
    · exact hzr ▸ List.mem_map_of_mem hz
    · -- a node between the two would be nearer
      obtain ⟨q, hq, hqpath⟩ := hm.exists_rep hy hspots hz
      obtain ⟨s, hs, -, -, heq, hle⟩ := exists_nearest d hm.pairwise_fst hq (hqpath ▸ hzr)
        (hqpath ▸ hzsuffix)
      obtain rfl := List.inj_on_of_nodup_map hm.nodup_snd hs hid (heq.symm.trans hnearest)
      obtain ⟨j, hj⟩ := Tree.exists_index_of_nodesAt hz
      have hlength := hle.length_le
      rw [hqpath, hj] at hlength
      exact absurd hlength (Nat.not_succ_le_self _)
  · intro hmem
    obtain ⟨z, hz, hzpath⟩ := List.mem_map.mp hmem
    obtain ⟨j, hj⟩ := Tree.exists_index_of_nodesAt hz
    rw [← hzpath, hj]
    obtain ⟨s, hs, hne, hsuffix, heq, hle⟩ := exists_nearest d hm.pairwise_fst hid
      (List.cons_ne_self j y.1).symm (List.suffix_cons j y.1)
    have hpath : s.1 = y.1 :=
      ((List.suffix_cons_iff.mp hsuffix).resolve_left hne).sublist.antisymm hle.sublist
    rw [heq, List.inj_on_of_nodup_map hm.nodup_fst hs hid hpath]

/-- If all that stands directly below a production builds nodes, these are the children of its node,
in their order. -/
theorem spots_children (hm : Mirrors t d f rs) (hp : f.Placed .ordered d) (hl : f.Linked d)
    (hy : y ∈ t.preorder) (hid : (y.1, id) ∈ rs)
    (hspots : ∀ c ∈ y.2.nodes, c.spot?.isSome = true) :
    (f.children id).map f.spot? = y.2.nodes.map Tree.spot? := by
  have hheld : f.Holds d id := (hm.attached id).mpr (.inr (List.mem_map_of_mem hid))
  have hpaths : (rs.filter fun r => nearest rs d r.1 == id).map Prod.fst =
      (Tree.nodesAt y.1 0 y.2.children).map Prod.fst := by
    refine eq_of_sublists ((List.filter_sublist.map _).trans hm.order)
      ((Tree.nodesAt_sublist_preorderAt hy).map _) (Tree.nodup_preorderAt [] t) fun path => ?_
    constructor
    · intro hmem
      obtain ⟨r, hr, rfl⟩ := List.mem_map.mp hmem
      obtain ⟨hr, hnearest⟩ := List.mem_filter.mp hr
      exact (hm.nearest_iff hy hid hspots hr).mp (beq_iff_eq.mp hnearest)
    · intro hmem
      obtain ⟨z, hz, rfl⟩ := List.mem_map.mp hmem
      obtain ⟨r, hr, hpath⟩ := hm.exists_rep hy hspots hz
      refine List.mem_map.mpr ⟨r, List.mem_filter.mpr ⟨hr, beq_iff_eq.mpr ?_⟩, hpath⟩
      exact (hm.nearest_iff hy hid hspots hr).mpr (hpath ▸ hmem)
  rw [hm.children_eq hp hl hheld, List.map_map, Tree.nodes, ← Tree.map_snd_nodesAt y.1 0,
    List.map_map]
  refine map_eq_map_of_keys hpaths fun r hr z hz hpath => ?_
  obtain ⟨x, hx, hxpath, hspot⟩ := hm.spots r (List.mem_filter.mp hr).1
  have hzmem := (Tree.nodesAt_sublist_preorderAt hy).subset hz
  obtain rfl := List.inj_on_of_nodup_map (Tree.nodup_preorderAt [] t) hx hzmem
    (hxpath.trans hpath)
  exact hspot

end Mirrors

end Children

theorem finish_silent {b : Builder} (h : b.finish.problems = []) : b.problems = [] := by
  obtain ⟨errors, hfinish⟩ := b.finish_eq
  rw [hfinish] at h
  exact (List.append_eq_nil_iff.mp h).1

/-- A walk over any parse tree of a document, the productions of which keep apart, loses none
without an error; and if there are no errors at all, the document mirrors the productions.  The
trees of texts are in order and give no kind and place twice. -/
theorem walk_accounted {t : Tree} (ht : Grammar.IsTree .document t) (hspread : t.Spread)
    (f : Forest) (path : String) (stop : Int) (origin : Origin) (source : List Char)
    (keywords : List String) (errors : List SyntaxError) :
    Accounted t f.nextNode
        (walk [] t (start f path stop origin source keywords errors)).finish.forest
        (reps [] t (start f path stop origin source keywords errors))
        (faults [] t (start f path stop origin source keywords errors)) ∧
      ((walk [] t (start f path stop origin source keywords errors)).finish.problems = [] →
        (walk [] t (start f path stop origin source keywords errors)).finish.syntaxErrors = [] →
        Mirrors t f.nextNode
            (walk [] t (start f path stop origin source keywords errors)).finish.forest
            (reps [] t (start f path stop origin source keywords errors)) ∧
          (Layout.ordered.LaidOut t → (∀ s ∈ t.spots, Layout.ordered.within s.2 ⟨0, stop⟩) →
            ∀ p, (walk [] t (start f path stop origin source keywords errors)).finish.forest.Holds
                f.nextNode p →
              (walk [] t (start f path stop origin source keywords errors)).finish.forest.children
                  p =
                ((reps [] t (start f path stop origin source keywords errors)).filter fun r =>
                  nearest (reps [] t (start f path stop origin source keywords errors))
                    f.nextNode r.1 == p).map Prod.snd)) ∧
      ∀ limit cs, Parse.parse Language.documents origin limit (lexed cs) = ([], some t) →
        t.Sole ∧ Layout.ordered.LaidOut t := by
  generalize hb : start f path stop origin source keywords errors = b
  have hnext : b.forest.nextNode = b.document + 1 := by
    rw [← hb]
    exact start_nextNode ..
  have hhost : b.host = b.document := by
    rw [← hb]
    rfl
  have hdocument : b.document = f.nextNode := by
    rw [← hb]
    rfl
  have hgrown := grown_of_isTree ht hspread.laidOut f path stop origin source keywords errors
    fun _ _ => trivial
  rw [hb] at hgrown
  rw [finish_forest, ← hdocument]
  refine ⟨hgrown.accounted hnext hhost hspread, fun hproblems herrors => ?_,
    fun limit cs hparse => ?_⟩
  · have hsilent : Silent b (walk [] t b) := by
      have hgrows := walk_errors [] t b
      rw [Grows, finish_clean herrors] at hgrows
      refine ⟨(finish_silent hproblems).trans ?_, ?_⟩
      · rw [← hb]
        rfl
      · rw [finish_clean herrors]
        exact (List.prefix_nil.mp hgrows).symm
    have hrooted : Rooted b := by
      rw [← hb]
      exact start_rooted ..
    rw [faults_eq_nil hrooted hsilent] at hgrown
    have hmirrors := hgrown.mirrors hnext hhost
    refine ⟨hmirrors, fun hlaid hwithin p hp => ?_⟩
    have horderly := (grown_of_isTree ht hlaid f path stop origin source keywords errors
      hwithin).orderly
    have hwalked : (walk [] t b).document = b.document := hgrown.document
    have hplaced := horderly.placed
    have hlinked := horderly.steady.linked
    rw [hb, hwalked] at hplaced hlinked
    exact hmirrors.children_eq hplaced hlinked hp
  · obtain ⟨-, hlaid, hsole, -⟩ := laidOut_of_parse hparse
    exact ⟨hsole, hlaid⟩

/-- The names that are given twice again, and the task with an input, in which nothing is. -/
theorem walk_accounted_repeated :
    (∃ t, (Grammar.IsTree .document t ∧ t.Spread) ∧
      Accounted t 0 (walk [] t (startText {} repeatedText "" "")).finish.forest repeatedReps
        [[1, 1, 1], [2]]) ∧
      ∃ t, (Parse.parse Language.documents (.ofNames "" "") 64 (lexed echoText.toList) =
          ([], some t) ∧ Echo (walk [] t (startText {} echoText "" "")).finish) ∧
        (t.Sole ∧ Layout.ordered.LaidOut t) ∧
        Mirrors t 0 (walk [] t (startText {} echoText "" "")).finish.forest
          (reps [] t (startText {} echoText "" "")) ∧
        (walk [] t (startText {} echoText "" "")).finish.forest.children 0 =
          ((reps [] t (startText {} echoText "" "")).filter fun r =>
            nearest (reps [] t (startText {} echoText "" "")) 0 r.1 == 0).map Prod.snd := by
  obtain ⟨t, ⟨htree, hspread⟩, hfaults, hreps⟩ := exists_repeatedTree
  obtain ⟨haccounted, -⟩ := walk_accounted htree hspread {} "" _ (.ofNames "" "")
    (lexed repeatedText.toList) Language.keywords []
  refine ⟨⟨t, ⟨htree, hspread⟩, hreps ▸ hfaults ▸ haccounted⟩, ?_⟩
  obtain ⟨t, hparse, hecho⟩ := exists_echoTree
  obtain ⟨htree, hlaid, -, hwithin⟩ := laidOut_of_parse (hparse (.ofNames "" "") 64)
  obtain ⟨-, hclean, htext⟩ := walk_accounted htree (Tree.spread_of_laidOut hlaid) {} "" _
    (.ofNames "" "") (lexed echoText.toList) Language.keywords []
  obtain ⟨hmirrors, hordered⟩ := hclean hecho.problems hecho.syntaxErrors
  exact ⟨t, ⟨hparse _ _, hecho⟩, htext 64 echoText.toList (hparse _ _), hmirrors,
    hordered hlaid hwithin 0 ⟨_, .root⟩⟩

end Builder
end Wdl
