import Mathlib.Data.List.Chain
import Wdl.Document.Spans
import Wdl.Proofs.Document.Entries
import Wdl.Proofs.Document.Placed
import Wdl.Proofs.Parse.Cover

/-!
Sound trees.

The check of spans compares each node with the one above it and with its neighbour only.  Where it
finds nothing, the spans of the whole tree are laminar all the same: of two nodes anywhere in it,
one lies below the other and within its span, or their spans have nothing in common.

Where the nodes of a document keep to the order of a text, the children of each are listed in that
order, whether they are kept so or sorted, and so the check of spans finds nothing wrong in the tree
of the document.
-/

/-! ## Laminar trees -/

namespace Wdl

namespace Span

/-- Whether a stretch contains another. -/
def Contains (a b : Span) : Prop := a.start ≤ b.start ∧ b.stop ≤ a.stop

/-- Whether one of two stretches ends before the other starts. -/
def Disjoint (a b : Span) : Prop := a.stop < b.start ∨ b.stop < a.start

variable {a b c d : Span}

theorem Contains.refl (a : Span) : a.Contains a :=
  ⟨Int.le_refl _, Int.le_refl _⟩

theorem Contains.trans (hab : a.Contains b) (hbc : b.Contains c) : a.Contains c :=
  ⟨Int.le_trans hab.1 hbc.1, Int.le_trans hbc.2 hab.2⟩

theorem Disjoint.symm (h : a.Disjoint b) : b.Disjoint a :=
  Or.symm h

/-- What lies within stretches without a common place has none either. -/
theorem Disjoint.mono (h : a.Disjoint b) (hac : a.Contains c) (hbd : b.Contains d) :
    c.Disjoint d := by
  rcases h with hlt | hlt
  · exact .inl (Int.lt_of_le_of_lt hac.2 (Int.lt_of_lt_of_le hlt hbd.1))
  · exact .inr (Int.lt_of_le_of_lt hbd.2 (Int.lt_of_lt_of_le hlt hac.1))

end Span

namespace Ast

def span (a : Ast) : Span := a.node.span

/-- The tree below the node that a path leads to, a path being a list of places among children. -/
def sub? : Ast → List Nat → Option Ast
  | a, [] => some a
  | a, i :: path => a.children[i]?.bind fun c => c.sub? path

/-- A node and those directly below it have the places that they should have. -/
structure WellPlaced (a : Ast) : Prop where
  upright : a.span.start ≤ a.span.stop
  linked : ∀ c ∈ a.children, c.node.parent = some a.id
  within : ∀ c ∈ a.children, a.span.Contains c.span
  follow : a.children.IsChain fun c d => c.span.stop < d.span.start

/-- A node that does not end before it starts, after another one. -/
def Precedes (c d : Ast) : Prop :=
  c.span.stop < d.span.start ∧ d.span.start ≤ d.span.stop

instance : Trans Precedes Precedes Precedes where
  trans hcd hde := ⟨Int.lt_trans (Int.lt_of_lt_of_le hcd.1 hcd.2) hde.1, hde.2⟩

variable {a s t : Ast} {p q : List Nat}

theorem sub?_nil (a : Ast) : a.sub? [] = some a := by
  rw [sub?]

theorem sub?_cons (a : Ast) (i : Nat) (path : List Nat) :
    a.sub? (i :: path) = a.children[i]?.bind fun c => c.sub? path := by
  rw [sub?]

theorem sizeOf_child_lt {c : Ast} (hc : c ∈ a.children) : sizeOf c < sizeOf a := by
  obtain ⟨id, n, cs⟩ := a
  have hlt : sizeOf c < sizeOf cs := List.sizeOf_lt_of_mem hc
  rw [mk.sizeOf_spec]
  omega

theorem exists_child {i : Nat} (h : a.sub? (i :: p) = some s) :
    ∃ c, a.children[i]? = some c ∧ c.sub? p = some s :=
  Option.bind_eq_some_iff.mp ((a.sub?_cons i p).symm.trans h)

/-- What is true of every tree below a node is true of the node and below its children. -/
theorem forall_sub?_iff {P : Ast → Prop} :
    (∀ p s, a.sub? p = some s → P s) ↔
      P a ∧ ∀ c ∈ a.children, ∀ p s, c.sub? p = some s → P s := by
  constructor
  · intro h
    refine ⟨h [] a a.sub?_nil, fun c hc p s hs => ?_⟩
    obtain ⟨i, hi⟩ := List.mem_iff_getElem?.mp hc
    exact h (i :: p) s (by rw [sub?_cons, hi, Option.bind_some, hs])
  · rintro ⟨hself, hbelow⟩ p s hs
    cases p with
    | nil => exact Option.some.inj (a.sub?_nil.symm.trans hs) ▸ hself
    | cons i p =>
      obtain ⟨c, hc, hs⟩ := exists_child hs
      exact hbelow c (List.mem_of_getElem? hc) p s hs

/-! ## What the check finds at one node -/

theorem inverted_eq_nil {n : Node} : inverted n = [] ↔ n.span.start ≤ n.span.stop := by
  unfold inverted
  split <;> simp_all

theorem misplaced_eq_nil {id : NodeId} {n child : Node} {previous : Option Node} :
    misplaced id n previous child = [] ↔
      child.parent = some id ∧ n.span.Contains child.span ∧
        ∀ m, previous = some m → m.span.stop < child.span.start := by
  unfold misplaced
  rw [List.append_eq_nil_iff, List.append_eq_nil_iff, and_assoc]
  refine and_congr ?_ (and_congr ?_ ?_)
  · by_cases hparent : child.parent = some id <;> simp [hparent]
  · unfold Span.Contains
    split <;> simp_all
    omega
  · cases previous with
    | none => simp
    | some m => split <;> simp_all

/-- Nothing is wrong with the children of a node if each follows the one before it. -/
theorem misplacedList_eq_nil {id : NodeId} {n : Node} {previous : Option Node} {cs : List Node} :
    misplacedList id n previous cs = [] ↔
      (∀ c ∈ cs, c.parent = some id ∧ n.span.Contains c.span) ∧
        (previous.toList ++ cs).IsChain fun c d => c.span.stop < d.span.start := by
  induction cs generalizing previous with
  | nil => cases previous <;> simp [misplacedList]
  | cons c cs ih =>
    rw [misplacedList, List.append_eq_nil_iff, misplaced_eq_nil, ih, List.forall_mem_cons]
    cases previous with
    | none => simp [and_assoc]
    | some m => simp [List.isChain_cons_cons, and_assoc, and_left_comm]

theorem violationsList_eq_nil {cs : List Ast} :
    violationsList cs = [] ↔ ∀ c ∈ cs, c.violations = [] := by
  induction cs with
  | nil => simp [violationsList]
  | cons c cs ih => rw [violationsList, List.append_eq_nil_iff, ih, List.forall_mem_cons]

/-- One step of the check: a node with its children, and then the trees below it. -/
theorem violations_eq_nil (a : Ast) :
    a.violations = [] ↔ a.WellPlaced ∧ ∀ c ∈ a.children, c.violations = [] := by
  obtain ⟨id, n, cs⟩ := a
  rw [violations, List.append_eq_nil_iff, List.append_eq_nil_iff, violationsList_eq_nil,
    inverted_eq_nil, misplacedList_eq_nil, Option.toList_none, List.nil_append, List.isChain_map]
  refine and_congr_left' ⟨fun ⟨hupright, hchildren, hfollow⟩ => ?_, fun h => ?_⟩
  · have hplaced : ∀ c ∈ cs, c.node.parent = some id ∧ n.span.Contains c.span :=
      fun c hc => hchildren c.node (List.mem_map_of_mem hc)
    exact ⟨hupright, fun c hc => (hplaced c hc).1, fun c hc => (hplaced c hc).2, hfollow⟩
  · refine ⟨h.upright, fun m hm => ?_, h.follow⟩
    obtain ⟨c, hc, rfl⟩ := List.mem_map.mp hm
    exact ⟨h.linked c hc, h.within c hc⟩

/-! ## What it finds in a tree -/

/-- The check finds nothing just where every node is well placed. -/
theorem violations_eq_nil_iff (a : Ast) :
    a.violations = [] ↔ ∀ p s, a.sub? p = some s → s.WellPlaced := by
  rw [forall_sub?_iff, violations_eq_nil]
  refine and_congr_right fun _ => forall₂_congr fun c hc => ?_
  exact violations_eq_nil_iff c
termination_by sizeOf a
decreasing_by exact sizeOf_child_lt hc

section WellPlaced

variable (h : ∀ p s, a.sub? p = some s → s.WellPlaced)

include h

/-- A node contains those below it, at any depth. -/
theorem contains_of_sub? (hs : a.sub? p = some s) : a.span.Contains s.span := by
  induction p generalizing a with
  | nil =>
    obtain rfl := Option.some.inj (a.sub?_nil.symm.trans hs)
    exact .refl _
  | cons i p ih =>
    obtain ⟨hself, hbelow⟩ := forall_sub?_iff.mp h
    obtain ⟨c, hc, hs⟩ := exists_child hs
    have hmem := List.mem_of_getElem? hc
    exact (hself.within c hmem).trans (ih (hbelow c hmem) hs)

/-- Each sibling comes after all those before it, not after its neighbour only, as none ends before
it starts. -/
theorem children_pairwise : a.children.Pairwise fun c d => c.span.stop < d.span.start := by
  obtain ⟨hself, hbelow⟩ := forall_sub?_iff.mp h
  have hupright : ∀ c ∈ a.children, c.span.start ≤ c.span.stop :=
    fun c hc => (hbelow c hc [] c c.sub?_nil).upright
  have hchain : a.children.IsChain Precedes :=
    hself.follow.imp_of_mem_imp fun _ d _ hd hlt => ⟨hlt, hupright d hd⟩
  exact hchain.pairwise.imp fun h => h.1

theorem disjoint_of_lt {i j : Nat} {c d : Ast} (hc : a.children[i]? = some c)
    (hd : a.children[j]? = some d) (hlt : i < j) : c.span.Disjoint d.span := by
  obtain ⟨hi, rfl⟩ := List.getElem?_eq_some_iff.mp hc
  obtain ⟨hj, rfl⟩ := List.getElem?_eq_some_iff.mp hd
  exact .inl (List.pairwise_iff_getElem.mp (children_pairwise h) i j hi hj hlt)

/-- Two nodes part where their paths do, below two children of the same node, or one lies below the
other. -/
theorem nested_or_disjoint (hs : a.sub? p = some s) (ht : a.sub? q = some t) :
    (p <+: q ∧ s.span.Contains t.span) ∨ (q <+: p ∧ t.span.Contains s.span) ∨
      s.span.Disjoint t.span := by
  induction p generalizing a q with
  | nil =>
    obtain rfl := Option.some.inj (a.sub?_nil.symm.trans hs)
    exact .inl ⟨List.nil_prefix, contains_of_sub? h ht⟩
  | cons i p ih =>
    cases q with
    | nil =>
      obtain rfl := Option.some.inj (a.sub?_nil.symm.trans ht)
      exact .inr (.inl ⟨List.nil_prefix, contains_of_sub? h hs⟩)
    | cons j q =>
      have hbelow := (forall_sub?_iff.mp h).2
      obtain ⟨c, hc, hs⟩ := exists_child hs
      obtain ⟨d, hd, ht⟩ := exists_child ht
      have hwithin := contains_of_sub? (hbelow c (List.mem_of_getElem? hc)) hs
      have hwithin' := contains_of_sub? (hbelow d (List.mem_of_getElem? hd)) ht
      rcases Nat.lt_trichotomy i j with hlt | rfl | hlt
      · exact .inr (.inr ((disjoint_of_lt h hc hd hlt).mono hwithin hwithin'))
      · obtain rfl := Option.some.inj (hc.symm.trans hd)
        rw [List.prefix_cons_inj, List.prefix_cons_inj]
        exact ih (hbelow c (List.mem_of_getElem? hc)) hs ht
      · exact .inr (.inr ((disjoint_of_lt h hd hc hlt).symm.mono hwithin hwithin'))

end WellPlaced

/-- The check finds nothing in a tree just where each node in it is upright, contains its children,
which link back to it, and lists them one after the other; and where it finds nothing, of any two
nodes one is above the other and contains it, or they are disjoint. -/
theorem violations_certify (a : Ast) :
    (a.violations = [] ↔ ∀ p s, a.sub? p = some s → s.WellPlaced) ∧
    (a.violations = [] → ∀ p q s t, a.sub? p = some s → a.sub? q = some t → p ≠ q →
      ((p <+: q ∧ s.span.Contains t.span) ∨ (q <+: p ∧ t.span.Contains s.span)) ∨
        s.span.Disjoint t.span) := by
  refine ⟨a.violations_eq_nil_iff, fun hnone p q s t hs ht _ => ?_⟩
  exact or_assoc.mpr (nested_or_disjoint (a.violations_eq_nil_iff.mp hnone) hs ht)

end Ast
end Wdl

/-! ## Documents in the order of a text -/

namespace Wdl
namespace Forest

variable {d : NodeId} {f : Forest}

/-- No node of the document `d` ends before it starts; children lie within their parents, which they
link back to, and are listed one after the other. -/
structure Sound (d : NodeId) (f : Forest) : Prop where
  upright : ∀ id, f.Holds d id → (f.span id).start ≤ (f.span id).stop
  linked : ∀ p c, f.Holds d p → c ∈ f.children p → f.parent? c = some p
  within : ∀ p c, f.Holds d p → c ∈ f.children p →
    (f.span p).start ≤ (f.span c).start ∧ (f.span c).stop ≤ (f.span p).stop
  follow : ∀ p, f.Holds d p →
    (f.children p).Pairwise fun a c => (f.span a).stop < (f.span c).start

theorem span_of_profile? {id : NodeId} {q : Profile} (h : f.profile? id = some q) :
    f.span id = q.span := by
  obtain ⟨n, hn, rfl⟩ := Option.map_eq_some_iff.mp h
  rw [span, hn]
  rfl

theorem Linked.exists_span (hl : Linked d f) {p c : NodeId} (hp : d ≤ p) (hc : c ∈ f.parts p) :
    ∃ qp qc, f.profile? p = some qp ∧ f.profile? c = some qc ∧ f.span p = qp.span ∧
      f.span c = qc.span := by
  have hlt := hl.lt_of_part hp hc
  obtain ⟨qc, hqc⟩ := f.exists_profile? hlt
  obtain ⟨qp, hqp⟩ := f.exists_profile? (Nat.lt_trans (hl.parent_of_part p c hp hc).2 hlt)
  exact ⟨qp, qc, hqp, hqc, span_of_profile? hqp, span_of_profile? hqc⟩

/-! ## The order of children -/

theorem le_trans_span (a b c : Span) (hab : a.le b = true) (hbc : b.le c = true) :
    a.le c = true := by
  simp only [Span.le, Bool.or_eq_true, Bool.and_eq_true, decide_eq_true_eq, beq_iff_eq] at *
  omega

theorem le_total_span (a b : Span) : (a.le b || b.le a) = true := by
  simp only [Span.le, Bool.or_eq_true, Bool.and_eq_true, decide_eq_true_eq, beq_iff_eq]
  omega

theorem nodup_children (hl : Linked d f) {p : NodeId} (hp : d ≤ p) : (f.children p).Nodup := by
  have hnodup := hl.nodup p hp
  unfold children body?
  unfold parts at hnodup
  cases hn : f.node? p with
  | none => exact .nil
  | some n =>
    rw [hn] at hnodup
    dsimp only [Option.map_some, Option.getD_some] at hnodup ⊢
    split
    · exact (List.mergeSort_perm _ _).nodup_iff.mpr hnodup
    · exact hnodup

/-- Children that are listed by their places come in the order of these. -/
theorem children_sorted {p : NodeId} {q : Profile} (hq : f.profile? p = some q)
    (hsorts : q.sortsParts = true) :
    (f.children p).Pairwise fun a c => (f.span a).le (f.span c) = true := by
  obtain ⟨n, hn, rfl⟩ := Option.map_eq_some_iff.mp hq
  unfold children body?
  rw [hn]
  dsimp only [Option.map_some]
  rw [if_pos (show n.body.sortsParts = true from hsorts)]
  exact @List.pairwise_mergeSort _ (fun x y => (f.span x).le (f.span y))
    (fun _ _ _ => le_trans_span _ _ _) (fun _ _ => le_total_span _ _) _

/-- Other children are listed as they are kept. -/
theorem children_kept {p : NodeId} {q : Profile} (hq : f.profile? p = some q)
    (hsorts : q.sortsParts = false) : f.children p = f.parts p := by
  obtain ⟨n, hn, rfl⟩ := Option.map_eq_some_iff.mp hq
  unfold children body? parts
  rw [hn]
  dsimp only [Option.map_some, Option.getD_some]
  rw [if_neg (Bool.eq_false_iff.mp (show n.body.sortsParts = false from hsorts))]

/-- In the order of a text, children are listed as they were added. -/
theorem Placed.children_lt (hp : Placed .ordered d f) (hl : Linked d f) {p : NodeId} (hle : d ≤ p) :
    (f.children p).Pairwise (· < ·) := by
  rcases Nat.lt_or_ge p f.nextNode with hlt | hge
  · obtain ⟨q, hq⟩ := f.exists_profile? hlt
    cases hsorts : q.sortsParts with
    | false =>
      rw [children_kept hq hsorts]
      exact hp.kept p q hle hq hsorts
    | true =>
      refine ((children_sorted hq hsorts).and (nodup_children hl hle)).imp_of_mem ?_
      intro a c ha hc hac
      rw [mem_children] at ha hc
      refine Nat.lt_of_le_of_ne (Nat.le_of_not_lt fun hgt => ?_) hac.2
      obtain ⟨-, qa, -, hqa, -, hspan⟩ := hl.exists_span hle ha
      obtain ⟨-, qc, -, hqc, -, hspan'⟩ := hl.exists_span hle hc
      obtain ⟨hupright, hlt⟩ := hp.apart p c a qc qa hle hc ha hgt hqc hqa
      have hbefore := hac.1
      rw [hspan, hspan'] at hbefore
      simp only [Span.le, Bool.or_eq_true, Bool.and_eq_true, decide_eq_true_eq,
        beq_iff_eq] at hbefore
      omega
  · have hnone : f.children p = [] := by
      unfold children body?
      rw [(f.node?_eq_none_iff).mpr hge]
      rfl
    rw [hnone]
    exact .nil

theorem Holds.le (hl : Linked d f) {id : NodeId} (h : f.Holds d id) : d ≤ id :=
  h.elim fun _ ho => (ho.le hl).1

theorem Holds.child (hl : Linked d f) {p c : NodeId} (h : f.Holds d p) (hc : c ∈ f.children p) :
    f.Holds d c :=
  (holds_part hl (h.le hl) (f.mem_children.mp hc)).mpr h

/-- An attached node is the document or a child of one that is. -/
theorem Holds.cases {id : NodeId} (h : f.Holds d id) :
    id = d ∨ ∃ p, f.Holds d p ∧ id ∈ f.children p := by
  obtain ⟨o, ho⟩ := h
  cases ho with
  | root => exact .inl rfl
  | owner hp hc _ => exact .inr ⟨_, ⟨_, hp⟩, hc⟩
  | inner hp hc _ => exact .inr ⟨_, ⟨_, hp⟩, hc⟩

/-- Nodes that keep to the order of a text are sound, if the document itself is not upside down. -/
theorem Placed.sound (hp : Placed .ordered d f) (hl : Linked d f)
    (hroot : (f.span d).start ≤ (f.span d).stop) : f.Sound d := by
  have hwithin : ∀ p c, f.Holds d p → c ∈ f.children p →
      Layout.ordered.within (f.span c) (f.span p) := by
    intro p c hheld hc
    rw [mem_children] at hc
    obtain ⟨qp, qc, hqp, hqc, hspan, hspan'⟩ := hl.exists_span (hheld.le hl) hc
    rw [hspan, hspan']
    exact hp.within p c qp qc (hheld.le hl) hc hqp hqc
  refine ⟨fun id hheld => ?_, fun p c hheld hc => ?_, fun p c hheld hc => (hwithin p c hheld hc).2,
    fun p hheld => ?_⟩
  · rcases hheld.cases with rfl | ⟨p, hheld, hc⟩
    · exact hroot
    · exact (hwithin p id hheld hc).1
  · exact (hl.parent_of_part p c (hheld.le hl) (f.mem_children.mp hc)).1
  · refine (hp.children_lt hl (hheld.le hl)).imp_of_mem fun {a c} ha hc hlt => ?_
    rw [mem_children] at ha hc
    obtain ⟨-, qa, -, hqa, -, hspan⟩ := hl.exists_span (hheld.le hl) ha
    obtain ⟨-, qc, -, hqc, -, hspan'⟩ := hl.exists_span (hheld.le hl) hc
    rw [hspan, hspan']
    exact (hp.apart p a c qa qc (hheld.le hl) ha hc hlt hqa hqc).2

/-! ## The check -/

theorem span_of_node? {id : NodeId} {n : Node} (h : f.node? id = some n) : f.span id = n.span := by
  rw [span, h]
  rfl

theorem node?_of_astTo {depth : Nat} {id : NodeId} {a : Ast} (h : f.astTo depth id = some a) :
    f.node? id = some a.node := by
  cases depth with
  | zero => exact nomatch h
  | succ depth =>
    obtain ⟨n, hn, rfl⟩ := Option.map_eq_some_iff.mp h
    exact hn

/-- The tree of a node is well placed in a sound document. -/
theorem Sound.wellPlaced (hs : f.Sound d) {depth : Nat} {id : NodeId} {n : Node}
    (hheld : f.Holds d id) (hn : f.node? id = some n) :
    (Ast.mk id n ((f.children id).filterMap (f.astTo depth))).WellPlaced := by
  have hchild : ∀ a ∈ (f.children id).filterMap (f.astTo depth),
      ∃ c ∈ f.children id, f.node? c = some a.node := by
    intro a ha
    obtain ⟨c, hc, hac⟩ := List.mem_filterMap.mp ha
    exact ⟨c, hc, node?_of_astTo hac⟩
  have hspan : f.span id = n.span := span_of_node? hn
  refine ⟨?_, fun a ha => ?_, fun a ha => ?_, ?_⟩
  · have hupright := hs.upright id hheld
    rwa [hspan] at hupright
  · obtain ⟨c, hc, hnode⟩ := hchild a ha
    have hlinked := hs.linked id c hheld hc
    rwa [parent?, hnode, Option.bind_some] at hlinked
  · obtain ⟨c, hc, hnode⟩ := hchild a ha
    have hwithin := hs.within id c hheld hc
    rwa [hspan, span_of_node? hnode] at hwithin
  · refine (List.pairwise_filterMap.mpr ((hs.follow id hheld).imp ?_)).isChain
    intro c c' hlt a ha a' ha'
    rwa [span_of_node? (node?_of_astTo ha), span_of_node? (node?_of_astTo ha')] at hlt

/-- The check finds nothing wrong below a node of a sound document. -/
theorem Sound.astTo (hs : f.Sound d) (hl : Linked d f) (hd : d < f.nextNode) {depth : Nat}
    {id : NodeId} (hheld : f.Holds d id) (hdepth : f.nextNode < id + depth) :
    ∃ a, f.astTo depth id = some a ∧ f.node? id = some a.node ∧ a.violations = [] := by
  have hlt : id < f.nextNode := hheld.elim fun _ ho => (ho.lt hl hd).1
  induction depth generalizing id with
  | zero => exact absurd hlt (Nat.not_lt_of_lt hdepth)
  | succ depth ih =>
    obtain ⟨n, hn⟩ := f.exists_node? hlt
    refine ⟨.mk id n ((f.children id).filterMap (f.astTo depth)),
      by rw [Forest.astTo, hn, Option.map_some], hn,
      (Ast.violations_eq_nil _).mpr ⟨hs.wellPlaced hheld hn, fun a ha => ?_⟩⟩
    obtain ⟨c, hc, hac⟩ := List.mem_filterMap.mp ha
    have hpart := f.mem_children.mp hc
    have hle := (hl.parent_of_part id c (hheld.le hl) hpart).2
    have hnext : f.nextNode < c + depth := by
      refine Nat.lt_of_lt_of_le hdepth ?_
      rw [← Nat.succ_add_eq_add_succ]
      exact Nat.add_le_add_right hle depth
    obtain ⟨a', ha', -, hnone⟩ :=
      ih (hheld.child hl hc) hnext (hl.lt_of_part (hheld.le hl) hpart)
    obtain rfl := Option.some.inj (hac.symm.trans ha')
    exact hnone

/-- The check finds nothing wrong in a sound document. -/
theorem Sound.check (hs : f.Sound d) (hl : Linked d f) (hd : d < f.nextNode) :
    ∃ a, f.ast? d = some a ∧ f.node? d = some a.node ∧ a.violations = [] :=
  hs.astTo hl hd ⟨d, .root⟩ (Nat.lt_of_lt_of_le (Nat.lt_succ_self _) (Nat.le_add_left _ _))

end Forest
end Wdl
