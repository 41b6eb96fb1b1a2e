import Wdl.Proofs.Builder.Quiet
import Wdl.Proofs.Grammar.Legible
import Wdl.Proofs.Lexer.Tokens
import Wdl.Proofs.Parse.Layout

/-!
The outline of parse trees.

What builds nodes in a document are sections, leaves and expressions, in this order from the outside
to the inside: `Outer` trees are those of documents, in which no expression stands outside of all
sections, and `Inert` trees are those in which nothing but expressions builds nodes.

In the list of the productions of a tree those below a given one stand together,
`Tree.exists_around`.
-/

namespace Wdl

/-- Trees in which nothing but expressions builds a node. -/
inductive Inert : Tree → Prop
  | token (k : Token) : Inert (.token k)
  | node {p : Production} {e : Option Extent} {cs : List Tree} : p.sectionKind? = none →
    p.isLeaf = false → (∀ c ∈ cs, Inert c) → Inert (.node p e cs)

theorem Phrase.inert {f : Form} {t : Tree} (h : Phrase f t) : Inert t := by
  induction h with
  | expr _ ih | operand _ ih | group _ ih | negate _ ih | unaryMinus _ ih | unaryPlus _ ih
  | exprPart _ ih | literalValue _ ih =>
    exact .node rfl rfl (List.forall_mem_singleton.mpr ih)
  | binary _ _ _ ihx ihy | index _ _ ihx ihy | pair _ _ ihx ihy | mapEntry _ _ ihx ihy
  | literalEntry _ _ ihx ihy | interpolation _ _ ihx ihy =>
    exact .node rfl rfl (List.forall_mem_cons.mpr ⟨ihx, List.forall_mem_singleton.mpr ihy⟩)
  | array _ ih | map _ ih => exact .node rfl rfl ih
  | ifThenElse _ _ _ ihc ihx ihy =>
    exact .node rfl rfl (List.forall_mem_cons.mpr
      ⟨ihc, List.forall_mem_cons.mpr ⟨ihx, List.forall_mem_singleton.mpr ihy⟩⟩)
  | apply k _ ih | object k _ ih => exact .node rfl rfl (List.forall_mem_cons.mpr ⟨.token k, ih⟩)
  | leftName k | int k | float k | literal k | fragment k | numberValue k =>
    exact .node rfl rfl (List.forall_mem_singleton.mpr (.token k))
  | member k _ ih =>
    exact .node rfl rfl (List.forall_mem_cons.mpr ⟨ih, List.forall_mem_singleton.mpr (.token k)⟩)
  | booleanTrue | booleanFalse | null | noFragment => exact .node rfl rfl (List.forall_mem_nil _)
  | string k l _ _ ihx ihxs =>
    refine .node rfl rfl (List.forall_mem_cons.mpr ⟨.token k, List.forall_mem_cons.mpr ⟨ihx, ?_⟩⟩)
    exact List.forall_mem_append.mpr ⟨ihxs, List.forall_mem_singleton.mpr (.token l)⟩
  | nameEntry k _ ih | placeholderOption k _ ih =>
    exact .node rfl rfl (List.forall_mem_cons.mpr ⟨.token k, List.forall_mem_singleton.mpr ih⟩)
  | placeholder _ _ ihxs ihy =>
    exact .node rfl rfl (List.forall_mem_append.mpr ⟨ihxs, List.forall_mem_singleton.mpr ihy⟩)

/-! ## Spots -/

namespace Tree

theorem spot?_of_expression {p : Production} (hp : p.isExpression = true) (e : Option Extent)
    (cs : List Tree) :
    (Tree.node p e cs).spot? = some (.expression, (Tree.node p e cs).span) := by
  have hkind : p.nodeKind? = some .expression := by
    cases p <;> first | rfl | exact nomatch hp
  exact congrArg (Option.map fun k => (k, (Tree.node p e cs).span)) hkind

theorem spot?_of_quiet {p : Production} (hsection : p.sectionKind? = none) (hleaf : p.isLeaf = false)
    (hexpr : p.isExpression = false) (e : Option Extent) (cs : List Tree) :
    (Tree.node p e cs).spot? = none := by
  cases p
  case importDoc | metaEntry => exact nomatch hleaf
  case expr | exprOperand => exact nomatch hexpr
  all_goals first | rfl | exact nomatch hsection

theorem quiet_of_isNeutral {p : Production} (hp : p.isNeutral = true) :
    p.sectionKind? = none ∧ p.isLeaf = false ∧ p.isExpression = false := by
  cases p <;> first | exact ⟨rfl, rfl, rfl⟩ | exact nomatch hp

theorem spotsList_eq_nil {cs : List Tree} (h : ∀ c ∈ cs, c.spots = []) : spotsList cs = [] := by
  induction cs with
  | nil => rfl
  | cons c cs ih =>
    obtain ⟨hc, hcs⟩ := List.forall_mem_cons.mp h
    rw [spotsList, hc, ih hcs]
    rfl

theorem spots_of_bare {t : Tree} (h : Bare t) : t.spots = [] := by
  induction h with
  | token k => rfl
  | node hp _ ih =>
    obtain ⟨hsection, hleaf, hexpr⟩ := quiet_of_isNeutral hp
    rw [spots, spot?_of_quiet hsection hleaf hexpr, spotsList_eq_nil ih]
    rfl

theorem laidOutList_of_bare {l : Layout} {cs : List Tree} (h : ∀ c ∈ cs, Bare c)
    (hlaid : ∀ c ∈ cs, l.LaidOut c) : l.LaidOutList cs := by
  induction cs with
  | nil => exact trivial
  | cons c cs ih =>
    obtain ⟨hc, hcs⟩ := List.forall_mem_cons.mp h
    obtain ⟨hlaidc, hlaidcs⟩ := List.forall_mem_cons.mp hlaid
    refine ⟨hlaidc, fun x hx => ?_, ih hcs hlaidcs⟩
    rw [spots_of_bare hc] at hx
    exact absurd hx List.not_mem_nil

/-- Where nothing builds a node, nothing is out of place. -/
theorem laidOut_of_bare {l : Layout} {t : Tree} (h : Bare t) : l.LaidOut t := by
  induction h with
  | token k => exact trivial
  | node hp hcs ih =>
    obtain ⟨hsection, hleaf, hexpr⟩ := quiet_of_isNeutral hp
    refine ⟨fun hsome => ?_, laidOutList_of_bare hcs ih⟩
    rw [spot?_of_quiet hsection hleaf hexpr] at hsome
    exact nomatch hsome

mutual

/-- The productions of a tree give its spots. -/
theorem mem_spots_of_preorder {path : Path} {t : Tree} {y : Path × Tree} {s : Spot}
    (hy : y ∈ preorderAt path t) (hs : y.2.spot? = some s) : s ∈ t.spots := by
  cases t with
  | token k => exact absurd hy List.not_mem_nil
  | node p e cs =>
    rw [spots]
    rcases List.mem_cons.mp hy with rfl | hy
    · exact List.mem_append_left _ (Option.mem_toList.mpr hs)
    · exact List.mem_append_right _ (mem_spotsList_of_preorder hy hs)

theorem mem_spotsList_of_preorder {path : Path} {i : Nat} {cs : List Tree} {y : Path × Tree}
    {s : Spot} (hy : y ∈ preorderList path i cs) (hs : y.2.spot? = some s) : s ∈ spotsList cs := by
  cases cs with
  | nil => exact absurd hy List.not_mem_nil
  | cons c cs =>
    rw [spotsList]
    rcases List.mem_append.mp hy with hy | hy
    · exact List.mem_append_left _ (mem_spots_of_preorder hy hs)
    · exact List.mem_append_right _ (mem_spotsList_of_preorder hy hs)

end

/-! ## Paths -/

mutual

theorem suffix_of_mem_preorderAt {path : Path} {t : Tree} {y : Path × Tree}
    (hy : y ∈ preorderAt path t) : path <:+ y.1 := by
  cases t with
  | token k => exact absurd hy List.not_mem_nil
  | node p e cs =>
    rcases List.mem_cons.mp hy with rfl | hy
    · exact List.suffix_refl _
    · obtain ⟨j, -, hj⟩ := suffix_of_mem_preorderList hy
      exact (List.suffix_cons j path).trans hj

theorem suffix_of_mem_preorderList {path : Path} {i : Nat} {cs : List Tree} {y : Path × Tree}
    (hy : y ∈ preorderList path i cs) : ∃ j, i ≤ j ∧ (j :: path) <:+ y.1 := by
  cases cs with
  | nil => exact absurd hy List.not_mem_nil
  | cons c cs =>
    rcases List.mem_append.mp hy with hy | hy
    · exact ⟨i, Nat.le_refl i, suffix_of_mem_preorderAt hy⟩
    · obtain ⟨j, hle, hj⟩ := suffix_of_mem_preorderList hy
      exact ⟨j, Nat.le_of_succ_le hle, hj⟩

end

/-- What lies below a node has another path. -/
theorem below_of_mem_preorderList {path : Path} {i : Nat} {cs : List Tree} {y : Path × Tree}
    (hy : y ∈ preorderList path i cs) : path <:+ y.1 ∧ path ≠ y.1 := by
  obtain ⟨j, -, hj⟩ := suffix_of_mem_preorderList hy
  refine ⟨(List.suffix_cons j path).trans hj, fun heq => ?_⟩
  have := hj.length_le
  rw [← heq] at this
  exact absurd this (Nat.not_succ_le_self _)

mutual

/-- The productions of a tree have different paths. -/
theorem nodup_preorderAt (path : Path) (t : Tree) : ((preorderAt path t).map Prod.fst).Nodup := by
  cases t with
  | token k => exact .nil
  | node p e cs =>
    refine List.nodup_cons.mpr ⟨fun hmem => ?_, nodup_preorderList path 0 cs⟩
    obtain ⟨y, hy, hpath⟩ := List.mem_map.mp hmem
    exact (below_of_mem_preorderList hy).2 hpath.symm

theorem nodup_preorderList (path : Path) (i : Nat) (cs : List Tree) :
    ((preorderList path i cs).map Prod.fst).Nodup := by
  cases cs with
  | nil => exact .nil
  | cons c cs =>
    rw [preorderList, List.map_append]
    refine List.nodup_append.mpr ⟨nodup_preorderAt (i :: path) c,
      nodup_preorderList path (i + 1) cs, fun x hx y hy heq => ?_⟩
    obtain ⟨x', hx', rfl⟩ := List.mem_map.mp hx
    obtain ⟨y', hy', rfl⟩ := List.mem_map.mp hy
    obtain ⟨j, hj, hsuffix⟩ := suffix_of_mem_preorderList hy'
    exact not_suffix_of_branches (Nat.ne_of_lt hj) (suffix_of_mem_preorderAt hx') hsuffix
      (heq ▸ List.suffix_refl x'.1)

end

mutual

/-- The productions of a tree are the same under any path. -/
theorem preorderAt_snd (path path' : Path) (t : Tree) :
    (preorderAt path t).map Prod.snd = (preorderAt path' t).map Prod.snd := by
  cases t with
  | token k => rfl
  | node p e cs => exact congrArg (_ :: ·) (preorderList_snd path path' 0 0 cs)

theorem preorderList_snd (path path' : Path) (i i' : Nat) (cs : List Tree) :
    (preorderList path i cs).map Prod.snd = (preorderList path' i' cs).map Prod.snd := by
  cases cs with
  | nil => rfl
  | cons c cs =>
    rw [preorderList, preorderList, List.map_append, List.map_append,
      preorderAt_snd (i :: path) (i' :: path') c, preorderList_snd path path' (i + 1) (i' + 1) cs]

end

/-- All productions of a tree are legible. -/
def AllLegible (t : Tree) : Prop :=
  ∀ x ∈ t.preorder.map Prod.snd, x.Legible

theorem AllLegible.child {p : Production} {e : Option Extent} {cs : List Tree}
    (h : (Tree.node p e cs).AllLegible) : ∀ c ∈ cs, c.AllLegible := by
  have hlist : ∀ (cs : List Tree) i, (∀ x ∈ (preorderList [] i cs).map Prod.snd, x.Legible) →
      ∀ c ∈ cs, c.AllLegible := by
    intro cs
    induction cs with
    | nil => exact fun _ _ => List.forall_mem_nil _
    | cons c cs ih =>
      intro i h
      rw [preorderList, List.map_append, List.forall_mem_append] at h
      refine List.forall_mem_cons.mpr ⟨?_, ih (i + 1) h.2⟩
      intro x hx
      rw [preorder, preorderAt_snd [] [i] c] at hx
      exact h.1 x hx
  refine hlist cs 0 fun x hx => h x ?_
  exact List.mem_cons_of_mem _ hx

theorem AllLegible.self {p : Production} {e : Option Extent} {cs : List Tree}
    (h : (Tree.node p e cs).AllLegible) : (Tree.node p e cs).Legible :=
  h _ List.mem_cons_self

end Tree

/-- A proper token has a text. -/
theorem Token.Proper.text_ne {k : Token} (h : k.Proper) : k.text ≠ "" := by
  obtain ⟨rest, hmatch⟩ := h
  intro hempty
  have := (Terminal.match?_bounds _ _ _ hmatch).1
  rw [hempty] at this
  exact absurd this (Nat.lt_irrefl _)

/-! ## Documents -/

/-- Trees of documents: sections and leaves, and around them nothing that builds a node. -/
inductive Outer (good : Token → Prop) : Tree → Prop
  | token (k : Token) : Outer good (.token k)
  | neutral {p : Production} {e : Option Extent} {cs : List Tree} :
    p.isNeutral = true → (∀ c ∈ cs, Outer good c) → Outer good (.node p e cs)
  | part {p : Production} {e : Option Extent} {cs : List Tree} :
    p.sectionKind?.isSome = true ∨ p.isLeaf = true → Part good (.node p e cs) →
      Outer good (.node p e cs)

namespace Grammar

open Parse

/-- The nonterminals that stand outside of all sections. -/
def isOuter : Nonterminal → Bool
  | .document | .version | .documentElement | .documentElements | .importDoc | .struct | .workflow
  | .task => true
  | _ => false

def outerSymbol : Symbol → Bool
  | .terminal _ => true
  | .nonterminal n => isOuter n

/-- Whether a rule keeps what stands outside of all sections there. -/
def staysOuter (r : Rule) : Bool :=
  !isOuter r.lhs ||
    match r.production with
    | some p => p.sectionKind?.isSome || p.isLeaf || (p.isNeutral && r.rhs.all outerSymbol)
    | none => r.rhs.all outerSymbol

variable {good : Token → Prop}

/-- The trees of a nonterminal have its shape, and are trees of documents where they stand outside
of all sections. -/
def Outlined (good : Token → Prop) (n : Nonterminal) (ts : List Tree) : Prop :=
  Shaped good n ts ∧ (isOuter n = true → ∀ t ∈ ts, Outer good t)

theorem handedAll_outer {v : Bool} {xs : List Symbol} {ts : List Tree}
    (hxs : xs.all outerSymbol = true) (h : HandedAll good (Outlined good) v xs ts) :
    ∀ t ∈ ts, Outer good t := by
  induction xs generalizing ts with
  | nil =>
    rw [show ts = [] from h]
    exact List.forall_mem_nil _
  | cons x xs ih =>
    obtain ⟨front, back, hfront, hback, rfl⟩ := h
    rw [List.all_cons, Bool.and_eq_true] at hxs
    refine List.forall_mem_append.mpr ⟨?_, ih hxs.2 hback⟩
    cases x with
    | terminal a =>
      obtain ⟨k, -, -, rfl⟩ := hfront
      intro t ht
      simp only [Entry.trees] at ht
      split at ht
      · rw [List.mem_singleton.mp ht]
        exact .token k
      · exact absurd ht List.not_mem_nil
    | nonterminal n => exact hfront.2 hxs.1

theorem rules_stayOuter : rules.all staysOuter = true := by decide +kernel

theorem outer_shape {n : Nonterminal} (h : isOuter n = true) : n.shape = .part := by
  cases n <;> first | rfl | exact nomatch h

theorem closed_outlined : Closed good (Outlined good) rules := by
  intro rule hrule ts e hts
  have hshaped : Shaped good rule.lhs (wrap rule e ts) :=
    closed_shape rule hrule ts e (handedAll_mono (fun _ _ h => h.1) hts)
  refine ⟨hshaped, fun houter => ?_⟩
  have hstays := List.all_eq_true.mp rules_stayOuter rule hrule
  rw [staysOuter, houter, Bool.not_true, Bool.false_or] at hstays
  rw [Shaped, outer_shape houter] at hshaped
  unfold wrap at hshaped ⊢
  cases hp : rule.production with
  | none =>
    rw [hp] at hstays
    exact handedAll_outer hstays hts
  | some p =>
    rw [hp] at hstays hshaped
    refine List.forall_mem_singleton.mpr ?_
    rw [Bool.or_eq_true, Bool.or_eq_true, Bool.and_eq_true] at hstays
    have hpart : Part good (.node p e ts) := hshaped _ List.mem_cons_self
    rcases hstays with hbuilds | ⟨hneutral, hall⟩
    · exact .part hbuilds hpart
    · exact .neutral hneutral (handedAll_outer hall hts)

/-- A parse tree of a document is one. -/
theorem IsTree.outer {t : Tree} (h : IsTree .document t) : Outer Token.Proper t :=
  (h.shape closed_outlined).2 rfl t List.mem_cons_self

theorem IsTree.allLegible {n : Nonterminal} {t : Tree} (h : IsTree n t) : t.AllLegible := by
  intro x hx
  obtain ⟨y, hy, rfl⟩ := List.mem_map.mp hx
  exact h.legible y hy

/-! ## Scatters -/

def beginsScatter (r : Rule) : Bool :=
  r.production != some .scatter ||
    (!r.verbatim && r.rhs.take 3 == [.terminal .scatterKw, .terminal .lpar, .terminal .name])

theorem rules_beginScatter : rules.all beginsScatter = true := by decide +kernel

/-- The variable of a scatter has a name. -/
theorem scatter_variable {cs : List Tree} (h : Conforms Token.Proper .scatter cs) :
    (Tree.node .scatter none cs).childText 0 ≠ "" := by
  obtain ⟨rule, hrule, hp, hts⟩ := h
  have hbegins := List.all_eq_true.mp rules_beginScatter rule hrule
  rw [beginsScatter, hp] at hbegins
  simp only [bne_self_eq_false, Bool.false_or, Bool.and_eq_true, Bool.not_eq_true',
    beq_iff_eq] at hbegins
  obtain ⟨hverbatim, htake⟩ := hbegins
  have hrhs : rule.rhs =
      [.terminal .scatterKw, .terminal .lpar, .terminal .name] ++ rule.rhs.drop 3 := by
    rw [← htake, List.take_append_drop]
  rw [hrhs, hverbatim] at hts
  obtain ⟨_, _, ⟨k₁, -, h₁, rfl⟩, ⟨_, _, ⟨k₂, -, h₂, rfl⟩, ⟨_, _, ⟨k, hk, h₃, rfl⟩, -, rfl⟩, rfl⟩,
    rfl⟩ := hts
  have hsilent₁ : Entry.trees false (.token k₁) = [] := by
    simp only [Entry.trees, h₁]
    rfl
  have hsilent₂ : Entry.trees false (.token k₂) = [] := by
    simp only [Entry.trees, h₂]
    rfl
  have hkept : Entry.trees false (.token k) = [.token k] := by
    simp only [Entry.trees, h₃]
    rfl
  rw [hsilent₁, hsilent₂, hkept]
  exact hk.text_ne

end Grammar
end Wdl

namespace Wdl

/-! ## Productions below others -/

namespace Tree

variable {path : Path} {i : Nat} {t : Tree} {cs : List Tree} {x y : Path × Tree}

theorem not_suffix_of_mem_preorderList (hy : y ∈ preorderList path i cs) : ¬ y.1 <:+ path := by
  obtain ⟨hsuffix, hne⟩ := below_of_mem_preorderList hy
  exact fun h => hne (hsuffix.eq_of_length (Nat.le_antisymm hsuffix.length_le h.length_le))

mutual

/-- What is not in a production does not lie below it. -/
theorem exists_around {path : Path} : {t : Tree} → y ∈ preorderAt path t →
    ∃ front back, preorderAt path t = front ++ (preorderAt y.1 y.2 ++ back) ∧
      ∀ x ∈ front ++ back, ¬ y.1 <:+ x.1
  | .token _, hy => absurd hy List.not_mem_nil
  | .node p e cs, hy => by
    rcases List.mem_cons.mp hy with rfl | hy
    · exact ⟨[], [], (List.append_nil _).symm, List.forall_mem_nil _⟩
    · obtain ⟨front, back, heq, hapart⟩ := exists_aroundList hy
      refine ⟨(path, .node p e cs) :: front, back, congrArg (_ :: ·) heq, ?_⟩
      exact List.forall_mem_cons.mpr ⟨not_suffix_of_mem_preorderList hy, hapart⟩

theorem exists_aroundList {path : Path} {i : Nat} : {cs : List Tree} →
    y ∈ preorderList path i cs → ∃ front back,
      preorderList path i cs = front ++ (preorderAt y.1 y.2 ++ back) ∧
        ∀ x ∈ front ++ back, ¬ y.1 <:+ x.1
  | [], hy => absurd hy List.not_mem_nil
  | c :: cs, hy => by
    rw [preorderList]
    rcases List.mem_append.mp hy with hy | hy
    · obtain ⟨front, back, heq, hapart⟩ := exists_around hy
      refine ⟨front, back ++ preorderList path (i + 1) cs, ?_, ?_⟩
      · rw [heq, List.append_assoc, List.append_assoc]
      · rw [← List.append_assoc]
        refine List.forall_mem_append.mpr ⟨hapart, fun x hx => ?_⟩
        obtain ⟨j, hj, hsuffix⟩ := suffix_of_mem_preorderList hx
        exact not_suffix_of_branches (Nat.ne_of_lt hj) (suffix_of_mem_preorderAt hy) hsuffix
    · obtain ⟨front, back, heq, hapart⟩ := exists_aroundList hy
      refine ⟨preorderAt (i :: path) c ++ front, back, ?_, ?_⟩
      · rw [heq, List.append_assoc]
      · rw [List.append_assoc]
        refine List.forall_mem_append.mpr ⟨fun x hx => ?_, hapart⟩
        obtain ⟨j, hj, hsuffix⟩ := suffix_of_mem_preorderList hy
        exact not_suffix_of_branches (Nat.ne_of_gt hj) hsuffix (suffix_of_mem_preorderAt hx)

end

mutual

/-- A production comes before all that lie below it. -/
theorem pairwise_preorderAt (path : Path) : (t : Tree) →
    (preorderAt path t).Pairwise fun x y => ¬ y.1 <:+ x.1
  | .token _ => .nil
  | .node _ _ cs =>
    .cons (fun _ hy => not_suffix_of_mem_preorderList hy) (pairwise_preorderList path 0 cs)

theorem pairwise_preorderList (path : Path) (i : Nat) : (cs : List Tree) →
    (preorderList path i cs).Pairwise fun x y => ¬ y.1 <:+ x.1
  | [] => .nil
  | c :: cs => by
    refine List.pairwise_append.mpr ⟨pairwise_preorderAt (i :: path) c,
      pairwise_preorderList path (i + 1) cs, fun x hx y hy => ?_⟩
    obtain ⟨j, hj, hsuffix⟩ := suffix_of_mem_preorderList hy
    exact not_suffix_of_branches (Nat.ne_of_gt hj) hsuffix (suffix_of_mem_preorderAt hx)

end

/-- What lies below a production stands among its own. -/
theorem mem_preorderAt_of_suffix (hx : x ∈ preorderAt path t) (hy : y ∈ preorderAt path t)
    (hsuffix : y.1 <:+ x.1) : x ∈ preorderAt y.1 y.2 := by
  obtain ⟨front, back, heq, hapart⟩ := exists_around hy
  rw [heq] at hx
  rcases List.mem_append.mp hx with hx | hx
  · exact absurd hsuffix (hapart x (List.mem_append_left _ hx))
  · rcases List.mem_append.mp hx with hx | hx
    · exact hx
    · exact absurd hsuffix (hapart x (List.mem_append_right _ hx))

/-- The trees of a row that are nodes, with the paths that lead to them. -/
def nodesAt (path : Path) (i : Nat) : List Tree → List (Path × Tree)
  | [] => []
  | .token _ :: cs => nodesAt path (i + 1) cs
  | .node p e ds :: cs => (i :: path, .node p e ds) :: nodesAt path (i + 1) cs

theorem map_snd_nodesAt (path : Path) (i : Nat) (cs : List Tree) :
    (nodesAt path i cs).map Prod.snd = cs.filter fun c => c.production?.isSome := by
  fun_induction nodesAt path i cs with
  | case1 => rfl
  | case2 i k cs ih => exact ih
  | case3 i p e ds cs ih => exact congrArg (_ :: ·) ih

theorem nodesAt_sublist (path : Path) (i : Nat) (cs : List Tree) :
    (nodesAt path i cs).Sublist (preorderList path i cs) := by
  fun_induction nodesAt path i cs with
  | case1 => exact .slnil
  | case2 i k cs ih => exact ih
  | case3 i p e ds cs ih => exact (List.sublist_append_of_sublist_right ih).cons_cons _

theorem exists_index_of_nodesAt (hy : y ∈ nodesAt path i cs) : ∃ j, y.1 = j :: path := by
  fun_induction nodesAt path i cs with
  | case1 => exact absurd hy List.not_mem_nil
  | case2 i k cs ih => exact ih hy
  | case3 i p e ds cs ih =>
    rcases List.mem_cons.mp hy with rfl | hy
    · exact ⟨i, rfl⟩
    · exact ih hy

/-- What lies below a row lies in one of its nodes. -/
theorem exists_nodesAt (hx : x ∈ preorderList path i cs) : ∃ y ∈ nodesAt path i cs, y.1 <:+ x.1 := by
  fun_induction nodesAt path i cs with
  | case1 => exact absurd hx List.not_mem_nil
  | case2 i k cs ih => exact ih hx
  | case3 i p e ds cs ih =>
    rcases List.mem_append.mp hx with hx | hx
    · exact ⟨_, List.mem_cons_self, suffix_of_mem_preorderAt hx⟩
    · obtain ⟨y, hy, hsuffix⟩ := ih hx
      exact ⟨y, List.mem_cons_of_mem _ hy, hsuffix⟩

/-- The nodes directly below a production stand among those of the tree in their order. -/
theorem nodesAt_sublist_preorderAt (hy : y ∈ preorderAt path t) :
    (nodesAt y.1 0 y.2.children).Sublist (preorderAt path t) := by
  obtain ⟨front, back, heq, -⟩ := exists_around hy
  obtain ⟨z, tree⟩ := y
  cases tree with
  | token k => exact List.nil_sublist _
  | node p e cs =>
    rw [heq]
    refine List.sublist_append_of_sublist_right (List.sublist_append_of_sublist_left ?_)
    exact (nodesAt_sublist z 0 cs).cons _

end Tree

end Wdl
