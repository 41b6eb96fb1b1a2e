import Wdl.Proofs.Parse.Accepted
import Wdl.Proofs.Parse.Layout

/-!
The spans of productions are those of the tokens that they are made from.

The extent of an entry reaches from its first token to its last.  So where the tokens follow each
other, as those of a text do, the trees that are made from them are laid out in `Layout.ordered`:
productions come one after the other or lie within one another.
-/

namespace Wdl

/-- The layout of trees of a text: spans are not empty, lie one within another, or come one after
another. -/
def Layout.ordered : Layout where
  apart a b := a.start ≤ a.stop ∧ a.stop < b.start
  within a b := a.start ≤ a.stop ∧ b.start ≤ a.start ∧ a.stop ≤ b.stop
  ne_of_apart a b h heq := by
    rw [heq] at h
    exact absurd h.2 (Int.not_lt.mpr h.1)

namespace Parse

/-- Tokens that are not empty and follow each other. -/
structure InLine (ks : List Token) : Prop where
  lt : ∀ k ∈ ks, k.start.offset < k.stop.offset
  follow : ks.Pairwise fun a b => a.stop.offset ≤ b.start.offset

/-- An extent that reaches from the first to the last of some tokens. -/
inductive Covers : Option Extent → List Token → Prop
  | none : Covers none []
  | some {x : Extent} {ks : List Token} : (∃ a ∈ ks, x.start = a.start) →
    (∃ b ∈ ks, x.stop = b.stop) →
    (∀ k ∈ ks, x.start.offset ≤ k.start.offset ∧ k.stop.offset ≤ x.stop.offset) →
    Covers (some x) ks

theorem covers_token {k : Token} : Covers (some (.ofToken k)) [k] :=
  .some ⟨k, List.mem_cons_self, rfl⟩ ⟨k, List.mem_cons_self, rfl⟩
    (List.forall_mem_singleton.mpr ⟨Nat.le_refl _, Nat.le_refl _⟩)

/-- The extent from the beginning of one to the end of another. -/
def join : Option Extent → Option Extent → Option Extent
  | none, y => y
  | some x, none => some x
  | some x, some y => some ⟨x.start, y.stop⟩

theorem hull_cons (x : Option Extent) (xs : List (Option Extent)) :
    Extent.hull (x :: xs) = join x (Extent.hull xs) := by
  unfold Extent.hull
  cases x with
  | none => rfl
  | some x =>
    rw [List.filterMap_cons_some (f := id) (a := some x) rfl, List.head?_cons, List.getLast?_cons]
    cases hlast : (xs.filterMap id).getLast? with
    | none =>
      rw [List.getLast?_eq_none_iff.mp hlast]
      rfl
    | some y =>
      cases hhead : (xs.filterMap id).head? with
      | none =>
        rw [List.head?_eq_none_iff.mp hhead] at hlast
        cases hlast
      | some z => rfl

theorem join_assoc (x y z : Option Extent) : join (join x y) z = join x (join y z) := by
  cases x <;> cases y <;> cases z <;> rfl

theorem hull_append (xs ys : List (Option Extent)) :
    Extent.hull (xs ++ ys) = join (Extent.hull xs) (Extent.hull ys) := by
  induction xs with
  | nil => rfl
  | cons x xs ih => rw [List.cons_append, hull_cons, ih, hull_cons, join_assoc]

theorem Covers.join {x y : Option Extent} {ks ls : List Token} (hx : Covers x ks)
    (hy : Covers y ls) (hline : InLine (ks ++ ls)) : Covers (Parse.join x y) (ks ++ ls) := by
  cases hx with
  | none => exact hy
  | @some x _ hstart hstop hall =>
    cases hy with
    | none =>
      rw [List.append_nil]
      exact .some hstart hstop hall
    | @some y _ hstart' hstop' hall' =>
      obtain ⟨a, ha, hxa⟩ := hstart
      obtain ⟨b, hb, hyb⟩ := hstop'
      obtain ⟨-, -, hapart⟩ := List.pairwise_append.mp hline.follow
      refine .some ⟨a, List.mem_append_left _ ha, hxa⟩ ⟨b, List.mem_append_right _ hb, hyb⟩
        fun k hk => ?_
      rcases List.mem_append.mp hk with hk | hk
      · refine ⟨(hall k hk).1, ?_⟩
        have hle := hapart k hk b hb
        have hlt := hline.lt b (List.mem_append_right _ hb)
        show k.stop.offset ≤ y.stop.offset
        rw [hyb]
        omega
      · refine ⟨?_, (hall' k hk).2⟩
        have hle := hapart a ha k hk
        have hlt := hline.lt a (List.mem_append_left _ ha)
        show x.start.offset ≤ k.start.offset
        rw [hxa]
        omega

theorem InLine.left {ks ls : List Token} (h : InLine (ks ++ ls)) : InLine ks :=
  ⟨fun k hk => h.lt k (List.mem_append_left _ hk), (List.pairwise_append.mp h.follow).1⟩

theorem InLine.right {ks ls : List Token} (h : InLine (ks ++ ls)) : InLine ls :=
  ⟨fun k hk => h.lt k (List.mem_append_right _ hk), (List.pairwise_append.mp h.follow).2.1⟩

/-- The extent of several entries covers the tokens of all. -/
theorem covers_hull {parts : List (Entry × List Token)}
    (h : ∀ p ∈ parts, InLine p.2 → Covers p.1.extent? p.2)
    (hline : InLine (parts.flatMap Prod.snd)) :
    Covers (Extent.hull ((parts.map Prod.fst).map Entry.extent?)) (parts.flatMap Prod.snd) := by
  induction parts with
  | nil => exact .none
  | cons p parts ih =>
    obtain ⟨hp, hparts⟩ := List.forall_mem_cons.mp h
    rw [List.flatMap_cons] at hline ⊢
    rw [List.map_cons, List.map_cons, hull_cons]
    exact (hp hline.left).join (ih hparts hline.right) hline

variable {rules : List Rule}

/-- The extent of an entry covers its tokens. -/
theorem Entry.Derives.covers {e : Entry} {ks : List Token} (h : e.Derives rules ks)
    (hline : InLine ks) : Covers e.extent? ks := by
  induction h with
  | token k => exact covers_token
  | @combine rule mem parts symbols derived ih =>
    rw [extent_combine]
    exact covers_hull ih hline

/-- The extent of an entry is that from its first token to its last. -/
theorem Entry.Derives.extent_eq {e : Entry} {ks : List Token} (h : e.Derives rules ks) :
    e.extent? = Extent.hull (ks.map fun k => some (.ofToken k)) := by
  induction h with
  | token k => rfl
  | @combine rule mem parts symbols derived ih =>
    rw [extent_combine]
    clear symbols derived
    induction parts with
    | nil => rfl
    | cons p parts ihp =>
      obtain ⟨hp, hparts⟩ := List.forall_mem_cons.mp ih
      rw [List.map_cons, List.map_cons, hull_cons, hp, ihp hparts, List.flatMap_cons,
        List.map_append, hull_append]

theorem hull_of_tokens (a : Token) (ks : List Token) :
    Extent.hull ((a :: ks).map fun k => some (.ofToken k)) =
      some ⟨a.start, ((a :: ks).getLast (List.cons_ne_nil a ks)).stop⟩ := by
  have hids : ((a :: ks).map fun k => some (Extent.ofToken k)).filterMap id =
      (a :: ks).map Extent.ofToken := by
    simp [List.filterMap_map]
  unfold Extent.hull
  rw [hids, List.getLast?_map, List.getLast?_eq_some_getLast (List.cons_ne_nil a ks)]
  rfl

/-! ## Spots -/

/-- A spot reaches from the beginning of a token to the end of one that is not before it. -/
def Spans (ks : List Token) (s : Spot) : Prop :=
  ∃ a ∈ ks, ∃ b ∈ ks, s.2.start = a.start.offset ∧ s.2.stop = (b.stop.offset : Int) - 1 ∧
    a.start.offset < b.stop.offset

theorem Spans.mono {ks ls : List Token} {s : Spot} (h : Spans ks s) (hsub : ks ⊆ ls) :
    Spans ls s := by
  obtain ⟨a, ha, b, hb, hs⟩ := h
  exact ⟨a, hsub ha, b, hsub hb, hs⟩

/-- Spots of tokens that follow each other do so, too. -/
theorem Spans.apart {ks ls : List Token} {s t : Spot} (hs : Spans ks s) (ht : Spans ls t)
    (hline : InLine (ks ++ ls)) : Layout.ordered.apart s.2 t.2 := by
  obtain ⟨a, -, b, hb, hstart, hstop, hlt⟩ := hs
  obtain ⟨c, hc, -, -, hstart', -, -⟩ := ht
  have hle := (List.pairwise_append.mp hline.follow).2.2 b hb c hc
  show s.2.start ≤ s.2.stop ∧ s.2.stop < t.2.start
  rw [hstart, hstop, hstart']
  omega

theorem spotsList_append (ts us : List Tree) :
    Tree.spotsList (ts ++ us) = Tree.spotsList ts ++ Tree.spotsList us := by
  induction ts with
  | nil => rfl
  | cons t ts ih => rw [List.cons_append, Tree.spotsList, ih, Tree.spotsList, List.append_assoc]

theorem laidOutList_append {l : Layout} {ts us : List Tree} (ht : l.LaidOutList ts)
    (hu : l.LaidOutList us)
    (hapart : ∀ x ∈ Tree.spotsList ts, ∀ y ∈ Tree.spotsList us, l.apart x.2 y.2) :
    l.LaidOutList (ts ++ us) := by
  induction ts with
  | nil => exact hu
  | cons t ts ih =>
    refine ⟨ht.1, fun x hx y hy => ?_,
      ih ht.2.2 fun x hx => hapart x (List.mem_append_right _ hx)⟩
    rw [show Tree.spotsList (ts.append us) = _ from spotsList_append ts us] at hy
    rcases List.mem_append.mp hy with hy | hy
    · exact ht.2.1 x hx y hy
    · exact hapart x (List.mem_append_left _ hx) y hy

/-- The trees of an entry keep to the order of its tokens. -/
structure Lined (ts : List Tree) (ks : List Token) : Prop where
  laidOut : Layout.ordered.LaidOutList ts
  spans : ∀ s ∈ Tree.spotsList ts, Spans ks s

theorem lined_flatMap {v : Bool} {parts : List (Entry × List Token)}
    (h : ∀ p ∈ parts, InLine p.2 → Lined (p.1.trees v) p.2)
    (hline : InLine (parts.flatMap Prod.snd)) :
    Lined ((parts.map Prod.fst).flatMap (Entry.trees v)) (parts.flatMap Prod.snd) := by
  induction parts with
  | nil => exact ⟨trivial, List.forall_mem_nil _⟩
  | cons p parts ih =>
    obtain ⟨hp, hparts⟩ := List.forall_mem_cons.mp h
    rw [List.flatMap_cons] at hline
    have hfirst := hp hline.left
    have hrest := ih hparts hline.right
    rw [List.map_cons, List.flatMap_cons, List.flatMap_cons]
    refine ⟨laidOutList_append hfirst.laidOut hrest.laidOut fun x hx y hy =>
      (hfirst.spans x hx).apart (hrest.spans y hy) hline, fun s hs => ?_⟩
    rw [spotsList_append] at hs
    rcases List.mem_append.mp hs with hs | hs
    · exact (hfirst.spans s hs).mono (List.subset_append_left _ _)
    · exact (hrest.spans s hs).mono (List.subset_append_right _ _)

/-- A production that builds a node is made from tokens. -/
def Solid (rules : List Rule) : Prop :=
  ∀ (e : Entry) (ks : List Token), e.Derives rules ks → ∀ v, ∀ t ∈ e.trees v,
    t.spot?.isSome = true → ks ≠ []

/-- A node around trees that keep to the order of the tokens. -/
theorem Lined.node {p : Production} {x : Option Extent} {ts : List Tree} {ks : List Token}
    (h : Lined ts ks) (hcovers : Covers x ks) (hline : InLine ks)
    (hsolid : (Tree.node p x ts).spot?.isSome = true → ks ≠ []) : Lined [.node p x ts] ks := by
  have hspan : ∀ {x' : Extent}, x = some x' → (Tree.node p x ts).span = x'.span := by
    rintro x' rfl
    rfl
  refine ⟨⟨⟨fun hsome s hs => ?_, h.laidOut⟩, fun _ _ y hy => absurd hy List.not_mem_nil, trivial⟩,
    fun s hs => ?_⟩
  · obtain ⟨a, ha, b, hb, hstart, hstop, hlt⟩ := h.spans s hs
    cases hcovers with
    | none => exact absurd rfl (hsolid hsome)
    | @some x _ _ _ hall =>
      rw [hspan rfl]
      have hle := (hall a ha).1
      have hle' := (hall b hb).2
      show s.2.start ≤ s.2.stop ∧ (x.start.offset : Int) ≤ s.2.start ∧
        s.2.stop ≤ (x.stop.offset : Int) - 1
      rw [hstart, hstop]
      omega
  · rw [Tree.spotsList, Tree.spotsList, List.append_nil, Tree.spots] at hs
    rcases List.mem_append.mp hs with hs | hs
    · have hspot := Option.mem_toList.mp hs
      have hne := hsolid (by rw [hspot]; rfl)
      cases hcovers with
      | none => exact absurd rfl hne
      | @some x _ hfirst hlast hall =>
        obtain ⟨a, ha, hxa⟩ := hfirst
        obtain ⟨b, hb, hxb⟩ := hlast
        have hle := (hall a ha).2
        have hlt := hline.lt a ha
        rw [hxb] at hle
        refine ⟨a, ha, b, hb, ?_, ?_, Nat.lt_of_lt_of_le hlt hle⟩
        · rw [← Tree.span_of_spot? hspot, hspan rfl]
          exact congrArg (fun p : Place => (p.offset : Int)) hxa
        · rw [← Tree.span_of_spot? hspot, hspan rfl]
          exact congrArg (fun p : Place => (p.offset : Int) - 1) hxb
    · exact h.spans s hs

/-- The trees of every entry keep to the order of its tokens. -/
theorem Entry.Derives.lined (hsolid : Solid rules) {e : Entry} {ks : List Token}
    (h : e.Derives rules ks) (hline : InLine ks) (v : Bool) : Lined (e.trees v) ks := by
  have hcombine := h
  induction h generalizing v with
  | token k =>
    have hspots : Tree.spotsList (Entry.trees v (.token k)) = [] := by
      unfold Entry.trees
      dsimp only
      split <;> rfl
    refine ⟨?_, by rw [hspots]; exact List.forall_mem_nil _⟩
    unfold Entry.trees
    dsimp only
    split
    · exact ⟨trivial, fun x hx => absurd hx List.not_mem_nil, trivial⟩
    · exact trivial
  | @combine rule mem parts symbols derived ih =>
    have hinner : Lined ((parts.map Prod.fst).flatMap (Entry.trees rule.verbatim))
        (parts.flatMap Prod.snd) :=
      lined_flatMap (fun p hp hp' => ih p hp hp' rule.verbatim (derived p hp)) hline
    have hcovers := hcombine.covers hline
    have htrees := trees_combine rule (parts.map Prod.fst) v
    rw [extent_combine] at hcovers
    rw [htrees]
    unfold wrap at htrees ⊢
    cases hp : rule.production with
    | none => exact hinner
    | some p =>
      rw [hp] at htrees
      refine hinner.node hcovers hline fun hsome => ?_
      exact hsolid _ _ hcombine v _ (htrees ▸ List.mem_cons_self) hsome

end Parse
end Wdl
