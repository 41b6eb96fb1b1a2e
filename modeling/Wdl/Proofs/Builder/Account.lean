import Wdl.Proofs.Builder.Walk
import Wdl.Proofs.Grammar.Outline

/-!
The account of a walk over a document.

`Walks` trees are those over which a walk adds what `Grown` says, wherever their spots fit.  There
is one lemma for each way in which a production can begin and end, and the trees that the grammar
makes are put together from these: `Outer.walks` is about all trees of documents.
-/

namespace Wdl
namespace Builder

variable {l : Layout} {b b' : Builder} {side : List (Tree.Path × NodeId) → List Context → Prop}

/-- A walk over a tree whose spots fit gives the account of its productions.  What it may rely on
are the expressions and sections that are open. -/
def Walks (l : Layout) (side : List (Tree.Path × NodeId) → List Context → Prop) (t : Tree) : Prop :=
  ∀ path b, Orderly l b → side (b.frames.map Frame.place) b.sections →
    (∀ s ∈ t.spots, b.forest.Fits l b.host s.2) →
      Grown l b (walk path t b) (t.preorderAt path) (reps path t b) (faults path t b)

/-- The same for the children of a node. -/
def WalksList (l : Layout) (side : List (Tree.Path × NodeId) → List Context → Prop)
    (cs : List Tree) : Prop :=
  ∀ path i b, Orderly l b → side (b.frames.map Frame.place) b.sections →
    (∀ s ∈ Tree.spotsList cs, b.forest.Fits l b.host s.2) →
      Grown l b (walkList path i cs b) (Tree.preorderList path i cs) (repsList path i cs b)
        (faultsList path i cs b)

theorem Walks.mono {side' : List (Tree.Path × NodeId) → List Context → Prop} {t : Tree}
    (h : Walks l side t) (hside : ∀ places sections, side' places sections → side places sections) :
    Walks l side' t :=
  fun path b hb hs hfits => h path b hb (hside _ _ hs) hfits

/-! ## One child after another -/

/-- What fits before a walk fits after it, if it is apart from all that the walk adds. -/
theorem Grown.fits {xs : List (Tree.Path × Tree)} {rs : List (Tree.Path × NodeId)}
    {fs : List Tree.Path} (hg : Grown l b b' xs rs fs) (h : Steady b) {s : Span}
    (hfits : b.forest.Fits l b.host s)
    (hapart : ∀ y ∈ xs, ∀ x, y.2.spot? = some x → l.apart x.2 s) : b'.forest.Fits l b'.host s := by
  rw [hg.host]
  refine ⟨fun q hq => ?_, fun c hc q hq => ?_⟩
  · rw [hg.profile? _ h.host.2] at hq
    exact hfits.within q hq
  · rcases hg.added c hc with hold | ⟨y, hy, q', hq', hspot⟩
    · rw [hg.profile? c (h.lt_of_part h.host.1 hold)] at hq
      exact hfits.apart c hold q hq
    · obtain rfl := Option.some.inj (hq.symm.trans hq')
      exact hapart y hy _ hspot

theorem walksList {cs : List Tree} (hcs : ∀ c ∈ cs, Walks l side c) (hlaid : l.LaidOutList cs) :
    WalksList l side cs := by
  induction cs with
  | nil => exact fun path i b h _ _ => .of_quiet h (.refl b)
  | cons c cs ih =>
    intro path i b h hside hfits
    obtain ⟨hc, hcs⟩ := List.forall_mem_cons.mp hcs
    obtain ⟨-, hapart, hlaid⟩ := hlaid
    have hfirst := hc (i :: path) b h hside fun s hs => hfits s (List.mem_append_left _ hs)
    have hrest := ih hcs hlaid path (i + 1) (walk (i :: path) c b) hfirst.orderly
      (by rw [hfirst.frames, hfirst.sections]; exact hside)
      fun s hs => hfirst.fits h.steady (hfits s (List.mem_append_right _ hs)) fun y hy x hx =>
        hapart x (Tree.mem_spots_of_preorder hy hx) s hs
    refine hfirst.append hrest fun r hr s hs => ?_
    obtain ⟨y, hy, hypath, -⟩ := hfirst.shown r hr
    obtain ⟨z, hz, hzpath, -⟩ := hrest.shown s hs
    have hleft := Tree.suffix_of_mem_preorderAt hy
    obtain ⟨j, hj, hright⟩ := Tree.suffix_of_mem_preorderList hz
    have hne : i ≠ j := Nat.ne_of_lt hj
    rw [hypath] at hleft
    rw [hzpath] at hright
    exact ⟨Tree.not_suffix_of_branches hne hleft hright,
      Tree.not_suffix_of_branches hne.symm hright hleft⟩

/-! ## Nodes -/

/-- A production that adds no node adds what its children do. -/
theorem walks_quiet {p : Production} {e : Option Extent} {cs : List Tree}
    (hsection : p.sectionKind? = none) (hleaf : p.isLeaf = false) (hexpr : p.isExpression = false)
    (hcs : WalksList l side cs) : Walks l side (.node p e cs) := by
  intro path b h hside hfits
  have henter := enter_quiet b hsection hleaf hexpr path e cs
  have hinner := hcs path 0 _ (h.quiet henter)
    (by rw [henter.frames, henter.sections]; exact hside) fun s hs => by
      rw [host_congr henter.document henter.sections henter.frames]
      exact (hfits s (List.mem_append_right _ hs)).alike henter.alike
  have hexit := exit_quiet (walkList path 0 cs (b.enter path (.node p e cs))) hsection hexpr path e cs
  have hall := ((Grown.of_quiet h henter).append hinner (List.forall_mem_nil _)).append
    (.of_quiet hinner.orderly hexit) fun _ _ _ hs => absurd hs List.not_mem_nil
  simp only [List.nil_append, List.append_nil] at hall
  rw [walk, reps, if_pos henter.alike.nextNode, List.nil_append, Tree.preorderAt, faults]
  refine hall.weaken (List.sublist_cons_self _ _) (fun y hy hsome => ?_)
    (List.subset_append_right _ _)
  rcases List.mem_cons.mp hy with rfl | hy
  · rw [Tree.spot?_of_quiet hsection hleaf hexpr] at hsome
    exact nomatch hsome
  · exact .inl hy

/-- The spots inside of a new node without parts fit below it. -/
theorem fits_inside {p : Production} {e : Option Extent} {cs : List Tree} {q : Profile}
    {parent : Option NodeId} (hsprout : b.forest.Sprout b'.forest q parent)
    (hspan : (Tree.node p e cs).span = q.span) (hspot : (Tree.node p e cs).spot?.isSome = true)
    (hhost : b'.host = b.forest.nextNode) (hlaid : l.LaidOut (.node p e cs)) :
    ∀ s ∈ Tree.spotsList cs, b'.forest.Fits l b'.host s.2 := by
  intro s hs
  rw [hhost]
  refine ⟨fun q' hq' => ?_, fun c hc => ?_⟩
  · rw [hsprout.profile?_new] at hq'
    rw [← Option.some.inj hq', ← hspan]
    exact hlaid.1 hspot s hs
  · rw [hsprout.parts_new] at hc
    exact absurd hc List.not_mem_nil

theorem Entered.fits_inside {p : Production} {e : Option Extent} {cs : List Tree} {host : NodeId}
    (he : Entered l b b' (.node p e cs) host) (hhost : b'.host = b.forest.nextNode)
    (hlaid : l.LaidOut (.node p e cs)) :
    ∀ s ∈ Tree.spotsList cs, b'.forest.Fits l b'.host s.2 := by
  obtain ⟨q, parent, hsprout, hspot, -⟩ := he.sprout
  exact Builder.fits_inside hsprout (Tree.span_of_spot? hspot) (by rw [hspot]; rfl) hhost hlaid

theorem Entered.nextNode {t : Tree} {host : NodeId} (he : Entered l b b' t host) :
    b'.forest.nextNode = b.forest.nextNode + 1 := by
  obtain ⟨q, parent, hsprout, -, -⟩ := he.sprout
  exact hsprout.nextNode

/-- A problem at the beginning of a production is a fault about it. -/
theorem mem_faults_of_begun {p : Production} {e : Option Extent} {cs : List Tree} {path : Tree.Path}
    (h : Orderly l b) (hproblems : (b.enter path (.node p e cs)).problems ≠ b.problems) :
    path ∈ faults path (.node p e cs) b := by
  have hgrows := (enter_advances h.rooted path (.node p e cs)).problems
  have hlength : (b.enter path (.node p e cs)).problems.length ≠ b.problems.length := fun heq =>
    hproblems (hgrows.eq_of_length heq.symm).symm
  rw [faults]
  refine List.mem_append_left _ ?_
  rw [if_pos]
  · exact List.mem_cons_self
  · simp [reported, hlength]

/-- An expression adds a node and what its children do. -/
theorem walks_expression {p : Production} {e : Option Extent} {cs : List Tree}
    (hexpr : p.isExpression = true) (hlaid : l.LaidOut (.node p e cs))
    (hcs : WalksList l (fun places sections => places = [] → sections ≠ []) cs) :
    Walks l (fun places sections => places = [] → sections ≠ []) (.node p e cs) := by
  intro path b h hside hfits
  have hspot := Tree.spot?_of_expression hexpr e cs
  have hself : b.forest.Fits l b.host (Tree.node p e cs).span := by
    refine hfits (.expression, (Tree.node p e cs).span) ?_
    rw [Tree.spots, hspot]
    exact List.mem_cons_self
  obtain ⟨he, hsections, hframes⟩ := beginExpr_entered h path hspot hself
    fun hnil => hside (by rw [hnil]; rfl)
  have hbegin : b.enter path (.node p e cs) = b.beginExpr path (.node p e cs) := by
    cases p <;> first | rfl | cases hexpr
  have hend : ∀ b : Builder, b.exit path (.node p e cs) = b.endExpr path (.node p e cs) := by
    intro b
    cases p <;> first | rfl | cases hexpr
  rw [← hbegin] at he hsections hframes
  have hhost : (b.enter path (.node p e cs)).host = b.forest.nextNode := by
    obtain ⟨frame, outer, hcons, hplace, -⟩ := List.map_eq_cons_iff.mp hframes
    rw [host, hcons]
    exact congrArg Prod.snd hplace
  have hinner := hcs path 0 _ he.orderly (fun hnil => by rw [hframes] at hnil; cases hnil)
    (he.fits_inside hhost hlaid)
  -- the expression that ends is the innermost one
  obtain ⟨frame, outer, hcons, hplace, houter⟩ :=
    List.map_eq_cons_iff.mp (hinner.frames.trans hframes)
  have hpop : (walkList path 0 cs (b.enter path (.node p e cs))).exit path (.node p e cs) =
      { walkList path 0 cs (b.enter path (.node p e cs)) with frames := outer } := by
    rw [hend, endExpr, hcons]
    dsimp only
    exact if_pos (beq_iff_eq.mpr (congrArg Prod.fst hplace))
  rw [walk, reps, if_neg (by rw [he.nextNode]; exact Nat.succ_ne_self _), Tree.preorderAt, hpop]
  refine Grown.wrap h.steady he hhost hinner ?_ (.refl _) rfl rfl rfl
    (hinner.sections.trans hsections) houter (fun x hx => Tree.below_of_mem_preorderList hx) ?_
    (mem_faults_of_begun h)
  · refine hinner.orderly.shrink (.refl _) rfl rfl rfl rfl (List.suffix_refl _) ?_
    rw [hcons]
    exact (List.suffix_cons _ _).subset
  · rw [faults]
    exact List.subset_append_right _ _

/-- A section adds a node and what its children do. -/
theorem walks_section {p : Production} {kind : Kind} {e : Option Extent} {cs : List Tree}
    (hp : p.sectionKind? = some kind) (hlaid : l.LaidOut (.node p e cs))
    (hvariable : p = .scatter → (Tree.node p none cs).childText 0 ≠ "")
    (hcs : WalksList l (fun places sections => places = [] ∧ sections ≠ []) cs) :
    Walks l (fun places _ => places = []) (.node p e cs) := by
  intro path b h hside hfits
  have hhost := host_of_frames_nil hside
  have hspot : (Tree.node p e cs).spot? = some (kind, (Tree.node p e cs).span) := by
    have hnode : p.nodeKind? = some kind := by
      rw [← hp]
      cases p <;> first | rfl | exact nomatch hp
    exact congrArg (Option.map fun k => (k, (Tree.node p e cs).span)) hnode
  have hself : b.forest.Fits l b.host (Tree.node p e cs).span := by
    refine hfits (kind, (Tree.node p e cs).span) ?_
    rw [Tree.spots, hspot]
    exact List.mem_cons_self
  rw [hhost] at hself
  obtain ⟨he, hframes, c, hsections, hpath, hnode⟩ :=
    enter_section_entered hp path e cs h hself hvariable
  have hnil : (b.enter path (.node p e cs)).frames.map Frame.place = [] := by rw [hframes, hside]
  have hhost' : (b.enter path (.node p e cs)).host = b.forest.nextNode := by
    rw [host_of_frames_nil hnil, current_of_sections hsections, hnode]
  rw [← hhost] at he
  have hinner := hcs path 0 _ he.orderly ⟨hnil, by rw [hsections]; exact List.cons_ne_nil _ _⟩
    (he.fits_inside hhost' hlaid)
  -- the section that ends is the innermost one
  have hpop : (walkList path 0 cs (b.enter path (.node p e cs))).exit path (.node p e cs) =
      { walkList path 0 cs (b.enter path (.node p e cs)) with sections := b.sections } :=
    exit_innermost hp (hinner.sections.trans hsections) hpath e cs
  rw [walk, reps, if_neg (by rw [he.nextNode]; exact Nat.succ_ne_self _), Tree.preorderAt, hpop]
  refine Grown.wrap h.steady he hhost' hinner ?_ (.refl _) rfl rfl rfl rfl
    (hinner.frames.trans (by rw [hframes])) (fun x hx => Tree.below_of_mem_preorderList hx) ?_
    (mem_faults_of_begun h)
  · refine hinner.orderly.shrink (.refl _) rfl rfl rfl rfl ?_ fun _ => id
    rw [hinner.sections, hsections]
    exact List.suffix_cons _ _
  · rw [faults]
    exact List.subset_append_right _ _

/-- An import or an entry of metadata adds a node, unless it is left out with an error. -/
theorem walks_leaf {p : Production} {e : Option Extent} {cs : List Tree} (hp : p.isLeaf = true)
    (hlegible : (Tree.node p e cs).Legible) (hbare : ∀ c ∈ cs, Bare c)
    (hcs : WalksList l (fun _ _ => True) cs) :
    Walks l (fun places _ => places = []) (.node p e cs) := by
  intro path b h hside hfits
  have hhost := host_of_frames_nil hside
  obtain ⟨kind, hspot⟩ : ∃ kind, (Tree.node p e cs).spot? = some (kind, (Tree.node p e cs).span) := by
    cases p <;> first | exact ⟨_, rfl⟩ | exact nomatch hp
  have hself : b.forest.Fits l b.host (Tree.node p e cs).span := by
    refine hfits (kind, (Tree.node p e cs).span) ?_
    rw [Tree.spots, hspot]
    exact List.mem_cons_self
  have hnone : Tree.spotsList cs = [] :=
    Tree.spotsList_eq_nil fun c hc => Tree.spots_of_bare (hbare c hc)
  have hinner : ∀ b, Orderly l b → Grown l b (walkList path 0 cs b) (Tree.preorderList path 0 cs)
      (repsList path 0 cs b) (faultsList path 0 cs b) := fun b hb =>
    hcs path 0 b hb trivial (by rw [hnone]; exact List.forall_mem_nil _)
  have hempty : ∀ b, Orderly l b → repsList path 0 cs b = [] := by
    intro b hb
    refine List.eq_nil_iff_forall_not_mem.mpr fun r hr => ?_
    obtain ⟨y, hy, -, q, -, hs⟩ := (hinner b hb).shown r hr
    have := Tree.mem_spotsList_of_preorder hy hs
    rw [hnone] at this
    exact List.not_mem_nil this
  rw [hhost] at hself
  rw [walk, exit_leaf _ hp, reps, Tree.preorderAt]
  rcases enter_leaf_entered hp path e cs h hself
      (fun himport => (hlegible p rfl).2 himport) with
    ⟨he, hsections, hframes⟩ | ⟨hquiet, herrors⟩
  · rw [← hhost] at he
    have hfirst := Grown.leaf h.steady he hsections hframes (mem_faults_of_begun h)
    rw [if_neg (by rw [he.nextNode]; exact Nat.succ_ne_self _)]
    refine (hfirst.append (hinner _ he.orderly) fun r _ s hs => ?_).weaken
      (List.Sublist.refl _) (fun y hy _ => .inl hy) ?_
    · rw [hempty _ he.orderly] at hs
      exact absurd hs List.not_mem_nil
    · refine List.append_subset.mpr ⟨List.Subset.refl _, ?_⟩
      rw [faults]
      exact List.subset_append_right _ _
  · rw [if_pos hquiet.alike.nextNode, List.nil_append]
    have hall := (Grown.of_quiet h hquiet).append (hinner _ (h.quiet hquiet))
      (List.forall_mem_nil _)
    refine hall.weaken (List.sublist_cons_self _ _) (fun y hy hsome => ?_) ?_
    · rcases List.mem_cons.mp hy with rfl | hy
      · right
        rw [faults]
        refine List.mem_append_left _ ?_
        rw [if_pos]
        · exact List.mem_cons_self
        · have hlength : (b.enter path (.node p e cs)).syntaxErrors.length ≠
              b.syntaxErrors.length := fun heq =>
            herrors ((enter_grows b path (.node p e cs)).eq_of_length heq.symm).symm
          simp [reported, hlength]
      · exact .inl hy
    · rw [faults]
      exact List.subset_append_right _ _

/-! ## Documents -/

/-- Where nothing builds a node, nothing is added. -/
theorem walks_bare {t : Tree} (ht : Bare t) : Walks l (fun _ _ => True) t := by
  induction ht with
  | token k => exact fun path b h _ _ => .of_quiet h (visitToken_quiet b k)
  | @node p e cs hp hcs ih =>
    obtain ⟨hsection, hleaf, hexpr⟩ := Tree.quiet_of_isNeutral hp
    exact walks_quiet hsection hleaf hexpr (walksList ih
      (Tree.laidOutList_of_bare hcs fun c hc => Tree.laidOut_of_bare (hcs c hc)))

/-- Expressions that stand in sections or in other expressions. -/
theorem walks_inert {t : Tree} (ht : Inert t) (hlaid : l.LaidOut t) :
    Walks l (fun places sections => places = [] → sections ≠ []) t := by
  induction ht with
  | token k => exact fun path b h _ _ => .of_quiet h (visitToken_quiet b k)
  | @node p e cs hsection hleaf _ ih =>
    have hcs := walksList (fun c hc => ih c hc (hlaid.2.child hc)) hlaid.2
    cases hexpr : p.isExpression with
    | true => exact walks_expression hexpr hlaid hcs
    | false => exact walks_quiet hsection hleaf hexpr hcs

/-- Parts of documents that stand in sections. -/
theorem walks_part {t : Tree} (ht : Part Token.Proper t) (hlegible : t.AllLegible)
    (hlaid : l.LaidOut t) : Walks l (fun places sections => places = [] ∧ sections ≠ []) t := by
  induction ht with
  | token k => exact fun path b h _ _ => .of_quiet h (visitToken_quiet b k)
  | expr ht => exact (walks_inert ht.inert hlaid).mono fun _ _ h _ => h.2
  | @neutral p e cs hp _ ih =>
    obtain ⟨hsection, hleaf, hexpr⟩ := Tree.quiet_of_isNeutral hp
    exact walks_quiet hsection hleaf hexpr
      (walksList (fun c hc => ih c hc (hlegible.child c hc) (hlaid.2.child hc)) hlaid.2)
  | @leaf p e cs hp hcs =>
    exact (walks_leaf hp hlegible.self hcs
      (walksList (fun c hc => walks_bare (hcs c hc)) hlaid.2)).mono fun _ _ h => h.1
  | @inSection p kind e cs hp hconforms _ ih =>
    exact (walks_section hp hlaid (fun heq => Grammar.scatter_variable (heq ▸ hconforms))
      (walksList (fun c hc => ih c hc (hlegible.child c hc) (hlaid.2.child hc)) hlaid.2)).mono
        fun _ _ h => h.1

/-- Documents. -/
theorem walks_outer {t : Tree} (ht : Outer Token.Proper t) (hlegible : t.AllLegible)
    (hlaid : l.LaidOut t) : Walks l (fun places _ => places = []) t := by
  induction ht with
  | token k => exact fun path b h _ _ => .of_quiet h (visitToken_quiet b k)
  | @neutral p e cs hp _ ih =>
    obtain ⟨hsection, hleaf, hexpr⟩ := Tree.quiet_of_isNeutral hp
    exact walks_quiet hsection hleaf hexpr
      (walksList (fun c hc => ih c hc (hlegible.child c hc) (hlaid.2.child hc)) hlaid.2)
  | @part p e cs hbuilds hpart =>
    cases hpart with
    | expr ht =>
      cases ht with
      | expr _ => exact hbuilds.elim (fun h => nomatch h) (fun h => nomatch h)
    | neutral hp _ =>
      obtain ⟨hsection, hleaf, -⟩ := Tree.quiet_of_isNeutral hp
      rw [hsection, hleaf] at hbuilds
      exact hbuilds.elim (fun h => nomatch h) (fun h => nomatch h)
    | leaf hp hcs =>
      exact walks_leaf hp hlegible.self hcs
        (walksList (fun c hc => walks_bare (hcs c hc)) hlaid.2)
    | inSection hp hconforms hcs =>
      exact walks_section hp hlaid (fun heq => Grammar.scatter_variable (heq ▸ hconforms))
        (walksList (fun c hc => walks_part (hcs c hc) (hlegible.child c hc) (hlaid.2.child hc))
          hlaid.2)

/-- What lies within a document fits into it when it is begun. -/
theorem start_fits (f : Forest) (path : String) {stop : Int} (origin : Origin) (source : List Char)
    (keywords : List String) (errors : List SyntaxError) {s : Span} (hs : l.within s ⟨0, stop⟩) :
    (start f path stop origin source keywords errors).forest.Fits l f.nextNode s := by
  refine ⟨fun q hq => ?_, fun c hc => ?_⟩
  · have hnew := f.node?_addNode_self
      (⟨.document { path, scope := f.nextScope }, ⟨0, stop⟩, none, none⟩ : Node)
    have hprofile : (start f path stop origin source keywords errors).forest.profile? f.nextNode =
        some _ := Forest.profile?_of_node? _ hnew
    rwa [← Option.some.inj (hprofile.symm.trans hq)]
  · have hnone : (start f path stop origin source keywords errors).forest.parts f.nextNode = [] :=
      start_parts f path stop origin source keywords errors (Nat.le_refl _)
    exact absurd (hnone ▸ hc) List.not_mem_nil

/-- A walk over a parse tree of a document from its beginning. -/
theorem grown_of_isTree {t : Tree} (ht : Grammar.IsTree .document t) (hlaid : l.LaidOut t)
    (f : Forest) (path : String) (stop : Int) (origin : Origin) (source : List Char)
    (keywords : List String) (errors : List SyntaxError)
    (hwithin : ∀ s ∈ t.spots, l.within s.2 ⟨0, stop⟩) :
    Grown l (start f path stop origin source keywords errors)
      (walk [] t (start f path stop origin source keywords errors)) t.preorder
      (reps [] t (start f path stop origin source keywords errors))
      (faults [] t (start f path stop origin source keywords errors)) :=
  walks_outer ht.outer ht.allLegible hlaid [] _ (start_orderly ..) rfl fun s hs =>
    start_fits f path origin source keywords errors (hwithin s hs)

end Builder
end Wdl
