import Wdl.Builder.Events

/-!
The layout of parse trees.

The spots of a tree are the kinds and spans of the nodes that its productions build, in the order in
which the productions begin.  A `Layout` says how the spans of two spots lie to each other, one
inside the other or one after the other, and `LaidOut` that the spots of a tree keep to it.

`Spread` is the least that can be asked for: spots that are not nested have different spans.
-/

namespace Wdl

/-- The kind of node that a production builds. -/
def Production.nodeKind? : Production → Option Kind
  | .importDoc => some .importDoc
  | .metaEntry => some .entry
  | .expr | .exprOperand => some .expression
  | p => p.sectionKind?

/-- What a node is and where. -/
abbrev Spot := Kind × Span

namespace Tree

/-- The spot of a tree itself, if its production builds a node. -/
def spot? (t : Tree) : Option Spot :=
  (t.production?.bind Production.nodeKind?).map fun k => (k, t.span)

mutual

/-- The spots of a tree, in the order in which their productions begin. -/
def spots : Tree → List Spot
  | .token _ => []
  | .node p e cs => (spot? (.node p e cs)).toList ++ spotsList cs

def spotsList : List Tree → List Spot
  | [] => []
  | c :: cs => spots c ++ spotsList cs

end

/-- Any two productions that build nodes and have the same span are nested in one another. -/
def Spread (t : Tree) : Prop :=
  ∀ x ∈ t.preorder, ∀ y ∈ t.preorder, x.2.spot?.isSome = true → y.2.spot?.isSome = true →
    x.2.span = y.2.span → x.1 <:+ y.1 ∨ y.1 <:+ x.1

end Tree

/-- How spans lie to each other. -/
structure Layout where
  /-- how the span of a spot lies to that of one that comes after it and is not nested in it -/
  apart : Span → Span → Prop
  /-- how the span of a spot lies to that of one that it is nested in -/
  within : Span → Span → Prop
  ne_of_apart : ∀ a b, apart a b → a ≠ b

namespace Layout

variable (l : Layout)

mutual

def LaidOut : Tree → Prop
  | .token _ => True
  | .node p e cs =>
    ((Tree.node p e cs).spot?.isSome = true →
      ∀ x ∈ Tree.spotsList cs, l.within x.2 (Tree.node p e cs).span) ∧ LaidOutList cs

def LaidOutList : List Tree → Prop
  | [] => True
  | c :: cs =>
    LaidOut c ∧ (∀ x ∈ c.spots, ∀ y ∈ Tree.spotsList cs, l.apart x.2 y.2) ∧ LaidOutList cs

end

variable {l}

theorem LaidOutList.child {cs : List Tree} (h : l.LaidOutList cs) {c : Tree} (hc : c ∈ cs) :
    l.LaidOut c := by
  induction cs with
  | nil => exact absurd hc List.not_mem_nil
  | cons c' cs ih =>
    rcases List.mem_cons.mp hc with rfl | hc
    · exact h.1
    · exact ih h.2.2 hc

/-- The layout of spread trees. -/
def spread : Layout where
  apart a b := a ≠ b
  within _ _ := True
  ne_of_apart _ _ h := h

end Layout

namespace Tree

mutual

/-- Every spot is that of a production below the given path. -/
theorem exists_of_mem_spots (path : Path) (t : Tree) {x : Spot} (hx : x ∈ t.spots) :
    ∃ y ∈ preorderAt path t, y.2.spot? = some x ∧ path <:+ y.1 := by
  cases t with
  | token k => exact absurd hx List.not_mem_nil
  | node p e cs =>
    rcases List.mem_append.mp hx with hx | hx
    · exact ⟨_, List.mem_cons_self, Option.mem_toList.mp hx, List.suffix_refl path⟩
    · obtain ⟨y, hy, hspot, j, -, hj⟩ := exists_of_mem_spotsList path 0 cs hx
      exact ⟨y, List.mem_cons_of_mem _ hy, hspot, (List.suffix_cons j path).trans hj⟩

theorem exists_of_mem_spotsList (path : Path) (i : Nat) (cs : List Tree) {x : Spot}
    (hx : x ∈ spotsList cs) :
    ∃ y ∈ preorderList path i cs, y.2.spot? = some x ∧ ∃ j, i ≤ j ∧ (j :: path) <:+ y.1 := by
  cases cs with
  | nil => exact absurd hx List.not_mem_nil
  | cons c cs =>
    rcases List.mem_append.mp hx with hx | hx
    · obtain ⟨y, hy, hspot, hpath⟩ := exists_of_mem_spots (i :: path) c hx
      exact ⟨y, List.mem_append_left _ hy, hspot, i, Nat.le_refl i, hpath⟩
    · obtain ⟨y, hy, hspot, j, hj, hpath⟩ := exists_of_mem_spotsList path (i + 1) cs hx
      exact ⟨y, List.mem_append_right _ hy, hspot, j, Nat.le_of_succ_le hj, hpath⟩

end

/-- Two branches at one place are not nested in one another. -/
theorem not_suffix_of_branches {i j : Nat} (hne : i ≠ j) {path x y : Path}
    (hx : (i :: path) <:+ x) (hy : (j :: path) <:+ y) : ¬ x <:+ y := by
  intro hxy
  have := List.suffix_of_suffix_length_le (hx.trans hxy) hy (Nat.le_refl _)
  exact hne (List.cons.inj (this.eq_of_length rfl)).1

/-- The condition of `Spread`, on the productions of a part of a tree. -/
def SpreadOver (xs : List (Path × Tree)) : Prop :=
  ∀ x ∈ xs, ∀ y ∈ xs, x.2.spot?.isSome = true → y.2.spot?.isSome = true →
    x.2.span = y.2.span → x.1 <:+ y.1 ∨ y.1 <:+ x.1

theorem SpreadOver.mono {xs ys : List (Path × Tree)} (h : SpreadOver ys) (hsub : xs ⊆ ys) :
    SpreadOver xs :=
  fun x hx y hy => h x (hsub hx) y (hsub hy)

theorem span_of_spot? {t : Tree} {x : Spot} (h : t.spot? = some x) : t.span = x.2 := by
  obtain ⟨k, -, rfl⟩ := Option.map_eq_some_iff.mp h
  rfl

mutual

theorem laidOut_of_spreadOver (path : Path) (t : Tree) (h : SpreadOver (preorderAt path t)) :
    Layout.spread.LaidOut t := by
  cases t with
  | token k => exact trivial
  | node p e cs =>
    refine ⟨fun _ _ _ => trivial, laidOutList_of_spreadOver path 0 cs (h.mono ?_)⟩
    exact List.subset_cons_self _ _

theorem laidOutList_of_spreadOver (path : Path) (i : Nat) (cs : List Tree)
    (h : SpreadOver (preorderList path i cs)) : Layout.spread.LaidOutList cs := by
  cases cs with
  | nil => exact trivial
  | cons c cs =>
    refine ⟨laidOut_of_spreadOver (i :: path) c (h.mono (List.subset_append_left _ _)), ?_,
      laidOutList_of_spreadOver path (i + 1) cs (h.mono (List.subset_append_right _ _))⟩
    intro x hx y hy heq
    obtain ⟨x', hx', hxs, hxp⟩ := exists_of_mem_spots (i :: path) c hx
    obtain ⟨y', hy', hys, j, hj, hyp⟩ := exists_of_mem_spotsList path (i + 1) cs hy
    have hne : i ≠ j := Nat.ne_of_lt hj
    rcases h x' (List.mem_append_left _ hx') y' (List.mem_append_right _ hy') (by rw [hxs]; rfl)
      (by rw [hys]; rfl) (by rw [span_of_spot? hxs, span_of_spot? hys, heq]) with hn | hn
    · exact not_suffix_of_branches hne hxp hyp hn
    · exact not_suffix_of_branches hne.symm hyp hxp hn

end

theorem Spread.laidOut {t : Tree} (h : t.Spread) : Layout.spread.LaidOut t :=
  laidOut_of_spreadOver [] t h

end Tree

end Wdl
