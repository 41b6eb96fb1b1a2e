import Wdl.Proofs.Grammar.Ends
import Wdl.Proofs.Grammar.Outline

/-!
Kinds and places that are given once.

In a text no two productions build nodes of the same kind at the same place, expressions apart,
which may be nothing but another expression.  A production within another of its kind begins later,
because the outer one begins with a token of its own; declarations are the exception, but they have
nothing but expressions within.
-/

namespace Wdl

namespace Tree

/-- No kind and place is given twice, but for expressions. -/
def Sole (t : Tree) : Prop :=
  (t.spots.filter fun s => s.1 != .expression).Nodup

mutual

/-- No production in a tree has another of its kind at its place within, but for expressions. -/
def Own : Tree → Prop
  | .token _ => True
  | .node p e cs =>
    (∀ s, (Tree.node p e cs).spot? = some s → s.1 ≠ .expression → s ∉ spotsList cs) ∧ OwnList cs

def OwnList : List Tree → Prop
  | [] => True
  | c :: cs => Own c ∧ OwnList cs

end

theorem ownList_append {ts us : List Tree} (ht : OwnList ts) (hu : OwnList us) :
    OwnList (ts ++ us) := by
  induction ts with
  | nil => exact hu
  | cons t ts ih => exact ⟨ht.1, ih ht.2⟩

mutual

theorem Own.sole {l : Layout} {t : Tree} (h : t.Own) (hlaid : l.LaidOut t) : t.Sole := by
  cases t with
  | token k => exact .nil
  | node p e cs =>
    have hinner := OwnList.sole h.2 hlaid.2
    rw [Sole, spots, List.filter_append]
    refine List.nodup_append.mpr ⟨?_, hinner, fun x hx y hy heq => ?_⟩
    · cases (Tree.node p e cs).spot? with
      | none => exact .nil
      | some s => exact (List.pairwise_singleton _ s).sublist List.filter_sublist
    · obtain ⟨hx, hkind⟩ := List.mem_filter.mp hx
      rw [heq] at hx hkind
      exact h.1 y (Option.mem_toList.mp hx) (bne_iff_ne.mp hkind) (List.mem_filter.mp hy).1

theorem OwnList.sole {l : Layout} {cs : List Tree} (h : OwnList cs) (hlaid : l.LaidOutList cs) :
    ((spotsList cs).filter fun s => s.1 != .expression).Nodup := by
  cases cs with
  | nil => exact .nil
  | cons c cs =>
    rw [spotsList, List.filter_append]
    refine List.nodup_append.mpr ⟨Own.sole h.1 hlaid.1, OwnList.sole h.2 hlaid.2.2,
      fun x hx y hy heq => ?_⟩
    have hapart := hlaid.2.1 x (List.mem_filter.mp hx).1 y (List.mem_filter.mp hy).1
    exact l.ne_of_apart _ _ hapart (congrArg Prod.snd heq)

end

mutual

/-- The spots of a tree are those of its productions. -/
theorem filterMap_preorderAt (path : Path) (t : Tree) :
    ((preorderAt path t).filterMap fun y => y.2.spot?) = t.spots := by
  cases t with
  | token k => rfl
  | node p e cs =>
    rw [preorderAt, List.filterMap_cons, filterMap_preorderList path 0 cs, spots]
    cases (Tree.node p e cs).spot? <;> rfl

theorem filterMap_preorderList (path : Path) (i : Nat) (cs : List Tree) :
    ((preorderList path i cs).filterMap fun y => y.2.spot?) = spotsList cs := by
  cases cs with
  | nil => rfl
  | cons c cs =>
    rw [preorderList, List.filterMap_append, filterMap_preorderAt (i :: path) c,
      filterMap_preorderList path (i + 1) cs, spotsList]

end

theorem eq_of_nodup_filterMap {α β : Type} {g : α → Option β} {as : List α}
    (h : (as.filterMap g).Nodup) {a b : α} (ha : a ∈ as) (hb : b ∈ as) {c : β} (hga : g a = some c)
    (hgb : g b = some c) : a = b := by
  induction as with
  | nil => exact absurd ha List.not_mem_nil
  | cons x as ih =>
    have hother : ∀ {y}, g x = some c → y ∈ as → g y = some c → False := by
      intro y hgx hy hgy
      rw [List.filterMap_cons_some hgx] at h
      exact (List.nodup_cons.mp h).1 (List.mem_filterMap.mpr ⟨y, hy, hgy⟩)
    rcases List.mem_cons.mp ha with rfl | ha' <;> rcases List.mem_cons.mp hb with rfl | hb'
    · rfl
    · exact (hother hga hb' hgb).elim
    · exact (hother hgb ha' hga).elim
    · refine ih (h.sublist ?_) ha' hb'
      exact (List.sublist_cons_self x as).filterMap g

/-- The kind and place of a production are those of no other, if it is no expression. -/
theorem Sole.eq {t : Tree} (h : t.Sole) {x y : Path × Tree} (hx : x ∈ t.preorder)
    (hy : y ∈ t.preorder) {s : Spot} (hxs : x.2.spot? = some s) (hys : y.2.spot? = some s)
    (hkind : s.1 ≠ .expression) : x = y := by
  have hkept : (some s).filter (fun s => s.1 != .expression) = some s :=
    if_pos (bne_iff_ne.mpr hkind)
  rw [Sole, ← filterMap_preorderAt [] t, List.filter_filterMap] at h
  exact eq_of_nodup_filterMap h hx hy (by rw [hxs, hkept]) (by rw [hys, hkept])

mutual

/-- Productions of a tree that is laid out are nested in one another, or one comes after the other.
-/
theorem nested_or_apart {l : Layout} {path : Path} {t : Tree} (h : l.LaidOut t) {x y : Path × Tree}
    (hx : x ∈ preorderAt path t) (hy : y ∈ preorderAt path t) {a b : Spot}
    (ha : x.2.spot? = some a) (hb : y.2.spot? = some b) :
    (x.1 <:+ y.1 ∨ y.1 <:+ x.1) ∨ l.apart a.2 b.2 ∨ l.apart b.2 a.2 := by
  cases t with
  | token k => exact absurd hx List.not_mem_nil
  | node p e cs =>
    rcases List.mem_cons.mp hx with rfl | hx'
    · exact .inl (.inl (suffix_of_mem_preorderAt hy))
    · rcases List.mem_cons.mp hy with rfl | hy'
      · exact .inl (.inr (suffix_of_mem_preorderAt hx))
      · exact nested_or_apart_list h.2 hx' hy' ha hb

theorem nested_or_apart_list {l : Layout} {path : Path} {i : Nat} {cs : List Tree}
    (h : l.LaidOutList cs) {x y : Path × Tree} (hx : x ∈ preorderList path i cs)
    (hy : y ∈ preorderList path i cs) {a b : Spot} (ha : x.2.spot? = some a)
    (hb : y.2.spot? = some b) :
    (x.1 <:+ y.1 ∨ y.1 <:+ x.1) ∨ l.apart a.2 b.2 ∨ l.apart b.2 a.2 := by
  cases cs with
  | nil => exact absurd hx List.not_mem_nil
  | cons c cs =>
    obtain ⟨hc, hapart, hcs⟩ := h
    rcases List.mem_append.mp hx with hx | hx <;> rcases List.mem_append.mp hy with hy | hy
    · exact nested_or_apart hc hx hy ha hb
    · exact .inr (.inl (hapart a (mem_spots_of_preorder hx ha) b
        (mem_spotsList_of_preorder hy hb)))
    · exact .inr (.inr (hapart b (mem_spots_of_preorder hy hb) a
        (mem_spotsList_of_preorder hx ha)))
    · exact nested_or_apart_list hcs hx hy ha hb

end

/-- A tree that is laid out is spread. -/
theorem spread_of_laidOut {l : Layout} {t : Tree} (h : l.LaidOut t) : t.Spread := by
  intro x hx y hy hxs hys hspan
  obtain ⟨a, ha⟩ := Option.isSome_iff_exists.mp hxs
  obtain ⟨b, hb⟩ := Option.isSome_iff_exists.mp hys
  have hsame : a.2 = b.2 := by rw [← span_of_spot? ha, ← span_of_spot? hb, hspan]
  rcases nested_or_apart h hx hy ha hb with hnested | hapart | hapart
  · exact hnested
  · exact absurd hsame (l.ne_of_apart _ _ hapart)
  · exact absurd hsame.symm (l.ne_of_apart _ _ hapart)

end Tree

namespace Grammar

open Parse (InLine symbol_combine trees_combine extent_combine)

/-! ## Within declarations -/

/-- The nonterminals of what is within declarations. -/
def isInner : Nonterminal → Bool
  | .type | .quantifier | .optional | .nonempty | .optionalNonempty | .expr | .disjunction
  | .conjunction | .comparison | .sum | .product | .factor | .exprCore | .exprOperand | .literal
  | .string | .singleString | .singlePart | .singlePlaceholder | .singlePlaceholders
  | .singleExprPart | .doubleString | .doublePart | .doublePlaceholder | .doublePlaceholders
  | .doubleExprPart | .stringLiteral | .placeholder | .placeholderOption | .placeholderOptions
  | .placeholderName | .placeholderValue | .moreExprs | .mapEntry | .mapKey | .moreMapEntries
  | .objectEntry | .moreObjectEntries => true
  | _ => false

def hasInnerParts (r : Rule) : Bool :=
  r.rhs.all fun
    | .terminal _ => true
    | .nonterminal n => isInner n

/-- Whether a rule for what is within declarations stays there and builds expressions at most. -/
def staysInner (r : Rule) : Bool :=
  (!isInner r.lhs || (hasInnerParts r &&
    ((r.production.bind Production.nodeKind?).getD .expression == .expression))) &&
  (r.production != some .decl || hasInnerParts r)

theorem rules_inner : rules.all staysInner = true := by decide +kernel

theorem isInner_of_parts {r : Rule} {parts : List (Parse.Entry × List Token)}
    (h : hasInnerParts r = true) (hsymbols : (parts.map fun q => q.1.symbol) = r.rhs)
    {q : Parse.Entry × List Token} (hq : q ∈ parts) :
    ∀ n, q.1.symbol = .nonterminal n → isInner n = true := by
  intro n hn
  have hmem : q.1.symbol ∈ r.rhs := by
    rw [← hsymbols]
    exact List.mem_map_of_mem hq
  have := List.all_eq_true.mp h _ hmem
  rwa [hn] at this

/-- The spots of the trees of several entries. -/
theorem spotsList_flatMap {v : Bool} {es : List Parse.Entry} {s : Spot}
    (hs : s ∈ Tree.spotsList (es.flatMap (Parse.Entry.trees v))) :
    ∃ e ∈ es, s ∈ Tree.spotsList (e.trees v) := by
  induction es with
  | nil => exact absurd hs List.not_mem_nil
  | cons e es ih =>
    rw [List.flatMap_cons, Parse.spotsList_append] at hs
    rcases List.mem_append.mp hs with hs | hs
    · exact ⟨e, List.mem_cons_self, hs⟩
    · obtain ⟨e', he', hs'⟩ := ih hs
      exact ⟨e', List.mem_cons_of_mem _ he', hs'⟩

theorem spotsList_token (v : Bool) (k : Token) :
    Tree.spotsList (Parse.Entry.trees v (.token k)) = [] := by
  unfold Parse.Entry.trees
  dsimp only
  split <;> rfl

/-- Only expressions build nodes within declarations. -/
theorem expression_of_inner {e : Parse.Entry} {ks : List Token} (h : e.Derives rules ks)
    (hinner : ∀ n, e.symbol = .nonterminal n → isInner n = true) (v : Bool) :
    ∀ s ∈ Tree.spotsList (e.trees v), s.1 = .expression := by
  induction h generalizing v with
  | token k =>
    intro s hs
    rw [spotsList_token] at hs
    exact absurd hs List.not_mem_nil
  | @combine rule mem parts symbols derived ih =>
    have hlhs := hinner rule.lhs (symbol_combine rule _)
    have hstays := (Bool.and_eq_true _ _ ▸ List.all_eq_true.mp rules_inner rule mem).1
    rw [hlhs, Bool.not_true, Bool.false_or, Bool.and_eq_true] at hstays
    have hparts : ∀ s ∈ Tree.spotsList ((parts.map Prod.fst).flatMap
        (Parse.Entry.trees rule.verbatim)), s.1 = .expression := by
      intro s hs
      obtain ⟨e, he, hs⟩ := spotsList_flatMap hs
      obtain ⟨q, hq, rfl⟩ := List.mem_map.mp he
      exact ih q hq (isInner_of_parts hstays.1 symbols hq) rule.verbatim s hs
    intro s hs
    rw [trees_combine] at hs
    unfold Parse.wrap at hs
    cases hp : rule.production with
    | none =>
      rw [hp] at hs
      exact hparts s hs
    | some p =>
      rw [hp, Tree.spotsList, Tree.spotsList, List.append_nil, Tree.spots] at hs
      rcases List.mem_append.mp hs with hs | hs
      · obtain ⟨k, hk, rfl⟩ := Option.map_eq_some_iff.mp (Option.mem_toList.mp hs)
        have hkind := hstays.2
        rw [hp, show (some p).bind Production.nodeKind? = some k from hk] at hkind
        exact beq_iff_eq.mp hkind
      · exact hparts s hs

/-! ## Productions with a token of their own -/

/-- The productions that build nodes, other than expressions and declarations. -/
def opens (p : Production) : Bool :=
  match p.nodeKind? with
  | none | some .expression => false
  | some _ => p != .decl

/-- Whether the production of a rule begins with a token of its own, if it is to. -/
def beginsWithToken (r : Rule) : Bool :=
  !((r.production.map opens).getD false) ||
    match r.rhs.head? with
    | some (.terminal _) => true
    | _ => false

theorem rules_begin : rules.all beginsWithToken = true := by decide +kernel

/-- What a production has within, if it begins with a token of its own, begins later. -/
theorem lt_start_of_opens {r : Rule} {p : Production} (hmem : r ∈ rules)
    (hproduction : r.production = some p) (hopens : opens p = true)
    {parts : List (Parse.Entry × List Token)} {x : Extent}
    (hsymbols : (parts.map fun q => q.1.symbol) = r.rhs)
    (hderived : ∀ q ∈ parts, q.1.Derives rules q.2) (hline : InLine (parts.flatMap Prod.snd))
    (hcovers : Parse.Covers (some x) (parts.flatMap Prod.snd)) {s : Spot}
    (hs : s ∈ Tree.spotsList ((parts.map Prod.fst).flatMap (Parse.Entry.trees r.verbatim))) :
    (x.start.offset : Int) < s.2.start := by
  have hbegins := List.all_eq_true.mp rules_begin r hmem
  rw [beginsWithToken, hproduction, Option.map_some, Option.getD_some, hopens, Bool.not_true,
    Bool.false_or, ← hsymbols] at hbegins
  cases parts with
  | nil => exact nomatch hbegins
  | cons q parts =>
    obtain ⟨hq, hrest⟩ := List.forall_mem_cons.mp hderived
    cases hsymbol : q.1.symbol with
    | nonterminal n =>
      rw [List.map_cons, List.head?_cons, hsymbol] at hbegins
      exact nomatch hbegins
    | terminal a =>
      obtain ⟨k, hk, -⟩ := token_of_symbol hq hsymbol
      have hnone : Tree.spotsList (q.1.trees r.verbatim) = [] := by
        cases hq : q.1 with
        | token k => exact spotsList_token r.verbatim k
        | reduced n extent ts =>
          rw [hq] at hsymbol
          exact nomatch hsymbol
      rw [List.map_cons, List.flatMap_cons, Parse.spotsList_append, hnone, List.nil_append] at hs
      rw [List.flatMap_cons] at hline hcovers
      have hlined := Parse.lined_flatMap (v := r.verbatim)
        (fun q hq hline => (hrest q hq).lined rules_solid hline r.verbatim) hline.right
      obtain ⟨b, hb, -, -, hstart, -, -⟩ := hlined.spans s hs
      rw [hk] at hline hcovers
      have hbefore := (List.pairwise_append.mp hline.follow).2.2 k List.mem_cons_self b hb
      have hnonempty := hline.lt k (List.mem_append_left _ List.mem_cons_self)
      cases hcovers with
      | some hfirst hlast hall =>
        have hle := (hall k (List.mem_append_left _ List.mem_cons_self)).1
        rw [hstart]
        omega

/-- The trees that are made from the tokens of a text. -/
theorem own_trees {e : Parse.Entry} {ks : List Token} (h : e.Derives rules ks) (hline : InLine ks)
    (v : Bool) : Tree.OwnList (e.trees v) := by
  have hself := h
  induction h generalizing v with
  | token k =>
    unfold Parse.Entry.trees
    dsimp only
    split
    · exact ⟨trivial, trivial⟩
    · exact trivial
  | @combine rule mem parts symbols derived ih =>
    have hinner : ∀ parts' : List (Parse.Entry × List Token), parts' ⊆ parts →
        InLine (parts'.flatMap Prod.snd) →
        Tree.OwnList ((parts'.map Prod.fst).flatMap (Parse.Entry.trees rule.verbatim)) := by
      intro parts' hsub hline
      induction parts' with
      | nil => exact trivial
      | cons q parts' ih' =>
        obtain ⟨hq, hsub⟩ := List.cons_subset.mp hsub
        rw [List.flatMap_cons] at hline
        exact Tree.ownList_append (ih q hq hline.left rule.verbatim (derived q hq))
          (ih' hsub hline.right)
    have hparts := hinner parts (List.Subset.refl _) hline
    have hcovers := hself.covers hline
    rw [extent_combine] at hcovers
    rw [trees_combine]
    unfold Parse.wrap
    cases hp : rule.production with
    | none => exact hparts
    | some p =>
      refine ⟨⟨fun s hs hkind hmem => ?_, hparts⟩, trivial⟩
      obtain ⟨k, hk, heq⟩ := Option.map_eq_some_iff.mp hs
      by_cases hdecl : p = .decl
      · have hinnerParts := (Bool.and_eq_true _ _ ▸ List.all_eq_true.mp rules_inner rule mem).2
        rw [hp, hdecl, bne_self_eq_false, Bool.false_or] at hinnerParts
        obtain ⟨e, he, hmem⟩ := spotsList_flatMap hmem
        obtain ⟨q, hq, rfl⟩ := List.mem_map.mp he
        exact hkind (expression_of_inner (derived q hq)
          (isInner_of_parts hinnerParts symbols hq) rule.verbatim s hmem)
      · have hopens : opens p = true := by
          unfold opens
          rw [show p.nodeKind? = some k from hk]
          have hk' : k ≠ .expression := by
            rw [← heq] at hkind
            exact hkind
          cases k <;> first | exact bne_iff_ne.mpr hdecl | exact absurd rfl hk'
        cases hx : Extent.hull ((parts.map Prod.fst).map Parse.Entry.extent?) with
        | none =>
          rw [hx] at hcovers
          have hsolid : parts.flatMap Prod.snd ≠ [] := by
            refine rules_solid _ _ hself v (.node p _ _) ?_ (Option.isSome_of_mem hs)
            rw [trees_combine]
            unfold Parse.wrap
            rw [hp]
            exact List.mem_cons_self
          cases hks : parts.flatMap Prod.snd with
          | nil => exact hsolid hks
          | cons k ks =>
            rw [hks] at hcovers
            exact nomatch hcovers
        | some x =>
          rw [hx] at hcovers hs
          have hlt := lt_start_of_opens mem hp hopens symbols derived hline hcovers hmem
          rw [← Tree.span_of_spot? hs] at hlt
          exact Int.lt_irrefl _ hlt

end Grammar
end Wdl
