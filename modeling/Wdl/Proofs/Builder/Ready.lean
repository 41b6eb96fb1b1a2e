import Mathlib.Data.List.Nodup
import Wdl.Proofs.Builder.Account
import Wdl.Proofs.Builder.Visits

/-!
What a walk comes to.

`Ready` says of a builder and a tree that a walk over the tree gives an account of its productions:
the builder is in order, the tree keeps to the layout and fits, and it stands where such a tree can.
A builder that is ready for a tree is ready for every production in it when the walk comes to it,
`inside_of_visit`; and what has been added by then keeps its place among the nodes until the end.
-/

namespace Wdl

theorem Bare.outer {good : Token → Prop} {t : Tree} (h : Bare t) : Outer good t := by
  induction h with
  | token k => exact .token k
  | node hp _ ih => exact .neutral hp ih

namespace Builder

variable {l : Layout} {b b' : Builder} {path : Tree.Path} {t : Tree} {v : Visit}
  {places : List (Tree.Path × NodeId)} {sections : List Context}

/-- A tree that can stand where these expressions and sections are open. -/
inductive Suited (places : List (Tree.Path × NodeId)) (sections : List Context) (t : Tree) : Prop
  | outer : Outer Token.Proper t → t.AllLegible → places = [] → Suited places sections t
  | part : Part Token.Proper t → t.AllLegible → places = [] → sections ≠ [] →
    Suited places sections t
  | inert : Inert t → (places = [] → sections ≠ []) → Suited places sections t

theorem Suited.walks (h : Suited places sections t) (hlaid : l.LaidOut t) :
    Walks l (fun places' sections' => places' = places ∧ sections' = sections) t := by
  cases h with
  | outer ht hlegible hplaces =>
    exact (walks_outer ht hlegible hlaid).mono fun _ _ h => h.1.trans hplaces
  | part ht hlegible hplaces hsections =>
    exact (walks_part ht hlegible hlaid).mono fun _ _ h =>
      ⟨h.1.trans hplaces, by rw [h.2]; exact hsections⟩
  | inert ht hside =>
    exact (walks_inert ht hlaid).mono fun _ _ h hnil => by
      rw [h.2]
      exact hside (h.1.symm.trans hnil)

/-- How a production begins where it stands, and where its children stand then. -/
inductive Standing (places : List (Tree.Path × NodeId)) (sections : List Context) (p : Production)
    (e : Option Extent) (cs : List Tree) : Prop
  | quiet : p.sectionKind? = none → p.isLeaf = false → p.isExpression = false →
    (∀ c ∈ cs, Suited places sections c) → Standing places sections p e cs
  | inSection {kind : Kind} : p.sectionKind? = some kind → places = [] →
    (p = .scatter → (Tree.node p none cs).childText 0 ≠ "") →
    (∀ inner : List Context, inner ≠ [] → ∀ c ∈ cs, Suited places inner c) →
    Standing places sections p e cs
  | leaf : p.isLeaf = true → places = [] → (Tree.node p e cs).Legible → (∀ c ∈ cs, Bare c) →
    (∀ c ∈ cs, Suited places sections c) → Standing places sections p e cs
  | expression : p.isExpression = true → (places = [] → sections ≠ []) →
    (∀ c ∈ cs, Inert c) → Standing places sections p e cs

theorem standing_of_inert {p : Production} {e : Option Extent} {cs : List Tree}
    (h : Inert (.node p e cs)) (hside : places = [] → sections ≠ []) :
    Standing places sections p e cs := by
  cases h with
  | node hsection hleaf hcs =>
    cases hexpr : p.isExpression with
    | true => exact .expression hexpr hside hcs
    | false => exact .quiet hsection hleaf hexpr fun c hc => .inert (hcs c hc) hside

theorem standing_of_part {p : Production} {e : Option Extent} {cs : List Tree}
    (h : Part Token.Proper (.node p e cs)) (hlegible : (Tree.node p e cs).AllLegible)
    (hplaces : places = [])
    (hchildren : p.isNeutral = true → (∀ c ∈ cs, Part Token.Proper c) →
      ∀ c ∈ cs, Suited places sections c)
    (hside : p.isExpression = true → sections ≠ []) : Standing places sections p e cs := by
  cases h with
  | expr ht =>
    cases ht with
    | expr hx => exact .expression rfl (fun _ => hside rfl) (List.forall_mem_singleton.mpr hx.inert)
  | neutral hp hcs =>
    obtain ⟨hsection, hleaf, hexpr⟩ := Tree.quiet_of_isNeutral hp
    exact .quiet hsection hleaf hexpr (hchildren hp hcs)
  | leaf hp hcs =>
    exact .leaf hp hplaces hlegible.self hcs fun c hc =>
      .outer (hcs c hc).outer (hlegible.child c hc) hplaces
  | inSection hp hconforms hcs =>
    exact .inSection hp hplaces (fun heq => Grammar.scatter_variable (heq ▸ hconforms))
      fun inner hinner c hc => .part (hcs c hc) (hlegible.child c hc) hplaces hinner

theorem Suited.standing {p : Production} {e : Option Extent} {cs : List Tree}
    (h : Suited places sections (.node p e cs)) : Standing places sections p e cs := by
  cases h with
  | outer ht hlegible hplaces =>
    cases ht with
    | neutral hp hcs =>
      obtain ⟨hsection, hleaf, hexpr⟩ := Tree.quiet_of_isNeutral hp
      exact .quiet hsection hleaf hexpr fun c hc =>
        .outer (hcs c hc) (hlegible.child c hc) hplaces
    | part hbuilds hpart =>
      refine standing_of_part hpart hlegible hplaces (fun hp _ => ?_) fun hexpr => ?_
      · obtain ⟨hsection, hleaf, -⟩ := Tree.quiet_of_isNeutral hp
        rw [hsection, hleaf] at hbuilds
        exact hbuilds.elim (fun h => nomatch h) (fun h => nomatch h)
      · cases p <;> first | cases hexpr; done | exact hbuilds.elim (nomatch ·) (nomatch ·)
  | part ht hlegible hplaces hsections =>
    exact standing_of_part ht hlegible hplaces
      (fun _ hcs c hc => .part (hcs c hc) (hlegible.child c hc) hplaces hsections)
      fun _ => hsections
  | inert ht hside => exact standing_of_inert ht hside

/-! ## Builders before a walk -/

/-- A walk over the tree can begin. -/
structure Ready (l : Layout) (b : Builder) (t : Tree) : Prop where
  orderly : Orderly l b
  suited : Suited (b.frames.map Frame.place) b.sections t
  laid : l.LaidOut t
  fits : ∀ s ∈ t.spots, b.forest.Fits l b.host s.2

/-- A walk over the trees, one after the other, can begin. -/
structure ReadyList (l : Layout) (b : Builder) (cs : List Tree) : Prop where
  orderly : Orderly l b
  suited : ∀ c ∈ cs, Suited (b.frames.map Frame.place) b.sections c
  laid : l.LaidOutList cs
  fits : ∀ s ∈ Tree.spotsList cs, b.forest.Fits l b.host s.2

theorem Ready.grown (h : Ready l b t) (path : Tree.Path) :
    Grown l b (walk path t b) (t.preorderAt path) (reps path t b) (faults path t b) :=
  h.suited.walks h.laid path b h.orderly ⟨rfl, rfl⟩ h.fits

theorem ReadyList.grown {cs : List Tree} (h : ReadyList l b cs) (path : Tree.Path) (i : Nat) :
    Grown l b (walkList path i cs b) (Tree.preorderList path i cs) (repsList path i cs b)
      (faultsList path i cs b) :=
  walksList (fun c hc => (h.suited c hc).walks (h.laid.child hc)) h.laid path i b h.orderly
    ⟨rfl, rfl⟩ h.fits

theorem ReadyList.head {c : Tree} {cs : List Tree} (h : ReadyList l b (c :: cs)) :
    Ready l b c where
  orderly := h.orderly
  suited := h.suited c List.mem_cons_self
  laid := h.laid.1
  fits s hs := h.fits s (List.mem_append_left _ hs)

/-- After the first tree the walk over the others can begin. -/
theorem ReadyList.tail {c : Tree} {cs : List Tree} (h : ReadyList l b (c :: cs))
    (path : Tree.Path) : ReadyList l (walk path c b) cs := by
  have hgrown := h.head.grown path
  refine ⟨hgrown.orderly, fun d hd => ?_, h.laid.2.2, fun s hs => ?_⟩
  · rw [hgrown.frames, hgrown.sections]
    exact h.suited d (List.mem_cons_of_mem c hd)
  · exact hgrown.fits h.orderly.steady (h.fits s (List.mem_append_right _ hs)) fun y hy x hx =>
      h.laid.2.1 x (Tree.mem_spots_of_preorder hy hx) s hs

theorem ReadyList.rest {cs ds : List Tree} (h : ReadyList l b (cs ++ ds)) (path : Tree.Path)
    (i : Nat) : ReadyList l (walkList path i cs b) ds := by
  induction cs generalizing b i with
  | nil => exact h
  | cons c cs ih => exact ih (h.tail (i :: path)) (i + 1)

/-- What the beginning of an expression does, where a walk is ready for it. -/
theorem enter_expression_entered {p : Production} {e : Option Extent} {cs : List Tree}
    (h : Orderly l b) (hexpr : p.isExpression = true) (path : Tree.Path)
    (hfits : b.forest.Fits l b.host (Tree.node p e cs).span)
    (hside : b.frames.map Frame.place = [] → b.sections ≠ []) :
    Entered l b (b.enter path (.node p e cs)) (.node p e cs) b.host ∧
      (b.enter path (.node p e cs)).sections = b.sections ∧
      (b.enter path (.node p e cs)).frames.map Frame.place =
        (path, b.forest.nextNode) :: b.frames.map Frame.place := by
  have hbegin : b.enter path (.node p e cs) = b.beginExpr path (.node p e cs) := by
    cases p <;> first | rfl | cases hexpr
  rw [hbegin]
  exact beginExpr_entered h path (Tree.spot?_of_expression hexpr e cs) hfits
    fun hnil => hside (by rw [hnil]; rfl)

theorem host_of_place {place : Tree.Path × NodeId} {outer : List (Tree.Path × NodeId)}
    (h : b.frames.map Frame.place = place :: outer) : b.host = place.2 := by
  obtain ⟨frame, others, hcons, hplace, -⟩ := List.map_eq_cons_iff.mp h
  rw [host, hcons]
  exact congrArg Prod.snd hplace

theorem Ready.self_fits {k : Kind} {s : Span} (h : Ready l b t) (hspot : t.spot? = some (k, s)) :
    b.forest.Fits l b.host s := by
  cases t with
  | token k => exact nomatch hspot
  | node p e cs =>
    refine h.fits (k, s) ?_
    rw [Tree.spots, hspot]
    exact List.mem_cons_self

theorem Entered.le {host : NodeId} (h : Entered l b b' t host) :
    b.forest.nextNode ≤ b'.forest.nextNode := by
  rw [h.nextNode]
  exact Nat.le_succ _

/-- When a production has begun, the walk over its children can begin. -/
theorem Ready.begins {p : Production} {e : Option Extent} {cs : List Tree}
    (h : Ready l b (.node p e cs)) (path : Tree.Path) :
    ReadyList l (b.enter path (.node p e cs)) cs ∧
      b.forest.nextNode ≤ (b.enter path (.node p e cs)).forest.nextNode := by
  cases h.suited.standing with
  | quiet hsection hleaf hexpr hcs =>
    have henter := enter_quiet b hsection hleaf hexpr path e cs
    refine ⟨⟨h.orderly.quiet henter, fun c hc => ?_, h.laid.2, fun s hs => ?_⟩,
      Nat.le_of_eq henter.alike.nextNode.symm⟩
    · rw [henter.frames, henter.sections]
      exact hcs c hc
    · rw [host_congr henter.document henter.sections henter.frames]
      exact (h.fits s (List.mem_append_right _ hs)).alike henter.alike
  | @inSection kind hp hplaces hvariable hcs =>
    have hspot : (Tree.node p e cs).spot? = some (kind, (Tree.node p e cs).span) := by
      have hnode : p.nodeKind? = some kind := by
        rw [← hp]
        cases p <;> first | rfl | exact nomatch hp
      exact congrArg (Option.map fun k => (k, (Tree.node p e cs).span)) hnode
    have hhost := host_of_frames_nil hplaces
    obtain ⟨he, hframes, c, hsections, -, hnode⟩ := enter_section_entered hp path e cs h.orderly
      (hhost ▸ h.self_fits hspot) hvariable
    have hplaces' : (b.enter path (.node p e cs)).frames.map Frame.place = [] := by
      rw [hframes, hplaces]
    have hhost' : (b.enter path (.node p e cs)).host = b.forest.nextNode := by
      rw [host_of_frames_nil hplaces', current_of_sections hsections, hnode]
    refine ⟨⟨he.orderly, ?_, h.laid.2, he.fits_inside hhost' h.laid⟩, he.le⟩
    rw [hplaces', hsections, ← hplaces]
    exact hcs _ (List.cons_ne_nil _ _)
  | leaf hp hplaces hlegible hbare hcs =>
    have hnone : Tree.spotsList cs = [] :=
      Tree.spotsList_eq_nil fun c hc => Tree.spots_of_bare (hbare c hc)
    obtain ⟨kind, hspot⟩ : ∃ kind, (Tree.node p e cs).spot? =
        some (kind, (Tree.node p e cs).span) := by
      cases p <;> first | exact ⟨_, rfl⟩ | exact nomatch hp
    have hhost := host_of_frames_nil hplaces
    rcases enter_leaf_entered hp path e cs h.orderly (hhost ▸ h.self_fits hspot)
      (fun himport => (hlegible p rfl).2 himport) with ⟨he, hsections, hframes⟩ | ⟨hquiet, -⟩
    · refine ⟨⟨he.orderly, ?_, h.laid.2, by rw [hnone]; exact List.forall_mem_nil _⟩, he.le⟩
      rw [hframes, hsections]
      exact hcs
    · refine ⟨⟨h.orderly.quiet hquiet, ?_, h.laid.2, by rw [hnone]; exact List.forall_mem_nil _⟩,
        Nat.le_of_eq hquiet.alike.nextNode.symm⟩
      rw [hquiet.frames, hquiet.sections]
      exact hcs
  | expression hexpr hside hcs =>
    obtain ⟨he, -, hframes⟩ := enter_expression_entered h.orderly hexpr path
      (h.self_fits (Tree.spot?_of_expression hexpr e cs)) hside
    refine ⟨⟨he.orderly, fun c hc => .inert (hcs c hc) ?_, h.laid.2,
      he.fits_inside (host_of_place hframes) h.laid⟩, he.le⟩
    rw [hframes]
    exact fun hnil => absurd hnil (List.cons_ne_nil _ _)

/-! ## Visits -/

/-- What is known of a production that a walk from `b` to `b'` comes to: the builder is ready for it,
and the nodes that have been added when it ends keep their places. -/
structure Visit.Inside (l : Layout) (b b' : Builder) (v : Visit) : Prop where
  ready : Ready l v.before v.tree
  le : b.forest.nextNode ≤ v.node
  le' : v.after.forest.nextNode ≤ b'.forest.nextNode
  profile? : ∀ id < v.after.forest.nextNode,
    b'.forest.profile? id = v.after.forest.profile? id
  parent? : ∀ id < v.after.forest.nextNode, b'.forest.parent? id = v.after.forest.parent? id
  parts : ∀ p, v.node ≤ p → p < v.after.forest.nextNode →
    b'.forest.parts p = v.after.forest.parts p

theorem Grown.le {xs : List (Tree.Path × Tree)} {rs : List (Tree.Path × NodeId)}
    {fs : List Tree.Path} (h : Grown l b b' xs rs fs) : b.forest.nextNode ≤ b'.forest.nextNode := by
  rw [h.nextNode]
  exact Nat.le_add_right _ _

namespace Visit.Inside

variable {b₀ : Builder}

/-- The walk goes on. -/
theorem grow {xs : List (Tree.Path × Tree)} {rs : List (Tree.Path × NodeId)}
    {fs : List Tree.Path} (h : v.Inside l b₀ b) (hg : Grown l b b' xs rs fs)
    (hhost : b.host < b₀.forest.nextNode) : v.Inside l b₀ b' where
  ready := h.ready
  le := h.le
  le' := Nat.le_trans h.le' hg.le
  profile? id hid := (hg.profile? id (Nat.lt_of_lt_of_le hid h.le')).trans (h.profile? id hid)
  parent? id hid := (hg.parent? id (Nat.lt_of_lt_of_le hid h.le')).trans (h.parent? id hid)
  parts p hle hp := by
    have hne : p ≠ b.host := Nat.ne_of_gt (Nat.lt_of_lt_of_le hhost (Nat.le_trans h.le hle))
    exact (hg.parts p (Nat.lt_of_lt_of_le hp h.le') hne).trans (h.parts p hle hp)

theorem alike (h : v.Inside l b₀ b) (halike : b.forest.Alike b'.forest) : v.Inside l b₀ b' where
  ready := h.ready
  le := h.le
  le' := by rw [halike.nextNode]; exact h.le'
  profile? id hid := (halike.profile? id).trans (h.profile? id hid)
  parent? id hid := (halike.parent? id).trans (h.parent? id hid)
  parts p hle hp := (halike.parts p).trans (h.parts p hle hp)

theorem mono {b₁ : Builder} (h : v.Inside l b₁ b) (hle : b₀.forest.nextNode ≤ b₁.forest.nextNode) :
    v.Inside l b₀ b where
  ready := h.ready
  le := Nat.le_trans hle h.le
  le' := h.le'
  profile? := h.profile?
  parent? := h.parent?
  parts := h.parts

end Visit.Inside

mutual

theorem inside_of_visit {path : Tree.Path} {b : Builder} : {t : Tree} → Ready l b t →
    v ∈ visits path t b → v.Inside l b (walk path t b)
  | .token _, _, hv => absurd hv List.not_mem_nil
  | .node p e cs, h, hv => by
    rw [visits] at hv
    rcases List.mem_cons.mp hv with rfl | hv
    · exact ⟨h, Nat.le_refl _, Nat.le_refl _, fun _ _ => rfl, fun _ _ => rfl, fun _ _ _ => rfl⟩
    · obtain ⟨hchildren, hle⟩ := h.begins path
      rw [walk]
      exact ((inside_of_visitList hchildren hv).mono hle).alike (exit_alike _ path _)

theorem inside_of_visitList {path : Tree.Path} {i : Nat} {b : Builder} : {cs : List Tree} →
    ReadyList l b cs → v ∈ visitsList path i cs b → v.Inside l b (walkList path i cs b)
  | [], _, hv => absurd hv List.not_mem_nil
  | c :: cs, h, hv => by
    have hfirst := h.head.grown (i :: path)
    have hrest := (h.tail (i :: path)).grown path (i + 1)
    rw [visitsList] at hv
    rw [walkList]
    rcases List.mem_append.mp hv with hv | hv
    · refine (inside_of_visit h.head hv).grow hrest ?_
      rw [hfirst.host]
      exact h.orderly.steady.host.2
    · exact (inside_of_visitList (h.tail _) hv).mono hfirst.le

end

/-! ## The productions of nodes -/

mutual

/-- The productions for which a walk adds nodes are those that it comes to. -/
theorem exists_visit_of_reps {path : Tree.Path} {b : Builder} {r : Tree.Path × NodeId} :
    {t : Tree} → r ∈ reps path t b → ∃ v ∈ visits path t b, v.path = r.1 ∧ v.node = r.2
  | .token _, hr => absurd hr List.not_mem_nil
  | .node p e cs, hr => by
    rw [reps] at hr
    rcases List.mem_append.mp hr with hr | hr
    · refine ⟨⟨path, .node p e cs, b⟩, List.mem_cons_self, ?_⟩
      split at hr
      · exact absurd hr List.not_mem_nil
      · obtain rfl := List.mem_singleton.mp hr
        exact ⟨rfl, rfl⟩
    · obtain ⟨v, hv, hr⟩ := exists_visit_of_repsList hr
      exact ⟨v, List.mem_cons_of_mem _ hv, hr⟩

theorem exists_visit_of_repsList {path : Tree.Path} {i : Nat} {b : Builder}
    {r : Tree.Path × NodeId} : {cs : List Tree} → r ∈ repsList path i cs b →
      ∃ v ∈ visitsList path i cs b, v.path = r.1 ∧ v.node = r.2
  | [], hr => absurd hr List.not_mem_nil
  | c :: cs, hr => by
    rw [repsList] at hr
    rcases List.mem_append.mp hr with hr | hr
    · obtain ⟨v, hv, hr⟩ := exists_visit_of_reps hr
      exact ⟨v, List.mem_append_left _ hv, hr⟩
    · obtain ⟨v, hv, hr⟩ := exists_visit_of_repsList hr
      exact ⟨v, List.mem_append_right _ hv, hr⟩

end

/-- Every node that has been added is that of a production that the walk has come to. -/
theorem Grown.exists_visit {xs : List (Tree.Path × Tree)} {rs : List (Tree.Path × NodeId)}
    {fs : List Tree.Path} {vs : List Visit} (hg : Grown l b b' xs rs fs)
    (hvs : vs.map (fun v => (v.path, v.tree)) = xs) (hpaths : (xs.map Prod.fst).Nodup)
    (hreps : ∀ r ∈ rs, ∃ v ∈ vs, v.path = r.1 ∧ v.node = r.2) {id : NodeId}
    (hle : b.forest.nextNode ≤ id) (hlt : id < b'.forest.nextNode) :
    ∃ v ∈ vs, v.node = id ∧ ∃ q, b'.forest.profile? id = some q ∧
      v.tree.spot? = some (q.kind, q.span) := by
  have hmem : id ∈ rs.map Prod.snd := by
    rw [hg.ids, List.mem_range'_1, ← hg.nextNode]
    exact ⟨hle, hlt⟩
  obtain ⟨r, hr, rfl⟩ := List.mem_map.mp hmem
  obtain ⟨v, hv, hpath, hnode⟩ := hreps r hr
  obtain ⟨y, hy, hypath, q, hq, hspot⟩ := hg.shown r hr
  have hx : (v.path, v.tree) ∈ xs := hvs ▸ List.mem_map_of_mem hv
  have hsame : (v.path, v.tree) = y :=
    List.inj_on_of_nodup_map hpaths hx hy (hpath.trans hypath.symm)
  exact ⟨v, hv, hnode, q, hq, by rw [← hspot, ← hsame]⟩

theorem Ready.exists_visit (h : Ready l b t) (path : Tree.Path) {id : NodeId}
    (hle : b.forest.nextNode ≤ id) (hlt : id < (walk path t b).forest.nextNode) :
    ∃ v ∈ visits path t b, v.node = id ∧ ∃ q, (walk path t b).forest.profile? id = some q ∧
      v.tree.spot? = some (q.kind, q.span) :=
  (h.grown path).exists_visit (map_visits path t b) (Tree.nodup_preorderAt path t)
    (fun _ => exists_visit_of_reps) hle hlt

theorem ReadyList.exists_visit {cs : List Tree} (h : ReadyList l b cs) (path : Tree.Path) (i : Nat)
    {id : NodeId} (hle : b.forest.nextNode ≤ id)
    (hlt : id < (walkList path i cs b).forest.nextNode) :
    ∃ v ∈ visitsList path i cs b, v.node = id ∧
      ∃ q, (walkList path i cs b).forest.profile? id = some q ∧
        v.tree.spot? = some (q.kind, q.span) :=
  (h.grown path i).exists_visit (map_visitsList path i cs b) (Tree.nodup_preorderList path i cs)
    (fun _ => exists_visit_of_repsList) hle hlt

end Builder
end Wdl
