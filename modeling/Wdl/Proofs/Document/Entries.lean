import Wdl.Proofs.Document.Scopes
import Wdl.Proofs.Occurrences
import Wdl.Proofs.Scope.Nearest

/-!
What is written into scopes.

`Notes P Q f g` says that the scopes of `g` hold nothing that those of `f` do not, but symbols that
satisfy `P` and children that satisfy `Q`.  Together with what becomes of the tree of a document,
this is enough to know that whatever can be looked up is part of the document.

A document adds scopes to those of a forest.  It puts a new scope into an older one, and binds names
in the scopes that have come to lie in its own, or binds a node in the scope of the node itself.
`Housed` says what is true of the scopes all the while, and each way to change them keeps it.
-/

namespace Wdl
namespace Forest

/-- The node `id` is attached to the document `d`. -/
def Holds (f : Forest) (d id : NodeId) : Prop := ∃ o, f.InTree d id o

theorem Alike.holds_iff {f g : Forest} (h : Alike f g) {d id : NodeId} :
    g.Holds d id ↔ f.Holds d id :=
  exists_congr fun _ => h.inTree_iff

/-- After a node has been added the document holds what it held, and the node if it holds its
parent. -/
theorem Sprout.holds_iff {f g : Forest} {q : Profile} {parent : Option NodeId} {d : NodeId}
    (hl : Linked d f) (h : Sprout f g q parent) (hparent : parent ≠ some f.nextNode)
    {id : NodeId} : g.Holds d id ↔
      f.Holds d id ∨ (id = f.nextNode ∧ ∃ p, parent = some p ∧ f.Holds d p) := by
  constructor
  · rintro ⟨o, ho⟩
    rcases (h.inTree_iff hl hparent).mp ho with ho | ⟨rfl, p, o', hp, ho', -⟩
    · exact .inl ⟨o, ho⟩
    · exact .inr ⟨rfl, p, hp, o', ho'⟩
  · rintro (⟨o, ho⟩ | ⟨rfl, p, hp, o, ho⟩)
    · exact ⟨o, ho.sprout hl h hparent⟩
    · exact ⟨_, (h.inTree_iff hl hparent).mpr (.inr ⟨rfl, p, o, hp, ho, rfl⟩)⟩

/-- A part is held if and only if what it is part of is. -/
theorem holds_part {f : Forest} {d p c : NodeId} (hl : Linked d f) (hp : d ≤ p)
    (hc : c ∈ f.parts p) : f.Holds d c ↔ f.Holds d p := by
  obtain ⟨hparent, hlt⟩ := hl.parent_of_part p c hp hc
  have habove : ∀ p' o, f.InTree d p' o → c ∈ f.children p' → f.Holds d p := by
    intro p' o ho hc'
    have hparent' := (hl.parent_of_part p' c (ho.le hl).1 ((mem_children f).mp hc')).1
    obtain rfl := Option.some.inj (hparent'.symm.trans hparent)
    exact ⟨o, ho⟩
  constructor
  · rintro ⟨o, ho⟩
    cases ho with
    | root => exact absurd hlt (Nat.not_lt_of_le hp)
    | owner ho hc' _ => exact habove _ _ ho hc'
    | inner ho hc' _ => exact habove _ _ ho hc'
  · rintro ⟨o, ho⟩
    have hmem := (mem_children f).mpr hc
    cases hs : f.scopeOf? c with
    | none => exact ⟨o, .inner ho hmem hs⟩
    | some s => exact ⟨c, .owner ho hmem (by rw [hs]; rfl)⟩

/-- The scopes that can be reached from one. -/
inductive Nested (f : Forest) (s₀ : ScopeId) : ScopeId → Prop
  | root : Nested f s₀ s₀
  | child {s c : ScopeId} {sc : Scope} : Nested f s₀ s → f.scope? s = some sc → c ∈ sc.children →
    Nested f s₀ c

structure Notes (P : NodeId → Prop) (Q : ScopeId → Prop) (f g : Forest) : Prop where
  symbols : ∀ s sc, g.scope? s = some sc → ∀ e ∈ sc.symbols,
    P e.2 ∨ ∃ old, f.scope? s = some old ∧ e ∈ old.symbols
  children : ∀ s sc, g.scope? s = some sc → ∀ c ∈ sc.children,
    Q c ∨ ∃ old, f.scope? s = some old ∧ c ∈ old.children
  nextScope : f.nextScope ≤ g.nextScope

namespace Notes

variable {P : NodeId → Prop} {Q : ScopeId → Prop} {f g h : Forest}

theorem of_scopes (heq : g.scopes = f.scopes) : Notes P Q f g where
  symbols s sc hsc e he := .inr ⟨sc, by rwa [scope?, ← heq], he⟩
  children s sc hsc c hc := .inr ⟨sc, by rwa [scope?, ← heq], hc⟩
  nextScope := Nat.le_of_eq (congrArg Array.size heq.symm)

theorem trans (hfg : Notes P Q f g) (hgh : Notes P Q g h) : Notes P Q f h where
  symbols s sc hsc e he := by
    rcases hgh.symbols s sc hsc e he with hnew | ⟨old, hold, he⟩
    · exact .inl hnew
    · exact hfg.symbols s old hold e he
  children s sc hsc c hc := by
    rcases hgh.children s sc hsc c hc with hnew | ⟨old, hold, hc⟩
    · exact .inl hnew
    · exact hfg.children s old hold c hc
  nextScope := Nat.le_trans hfg.nextScope hgh.nextScope

theorem addScope (f : Forest) (node : Option NodeId) : Notes P Q f (f.addScope { node }) where
  symbols s sc hsc e he := by
    rw [scope?_addScope] at hsc
    split at hsc
    · rw [← Option.some.inj hsc] at he
      exact absurd he List.not_mem_nil
    · exact .inr ⟨sc, hsc, he⟩
  children s sc hsc c hc := by
    rw [scope?_addScope] at hsc
    split at hsc
    · rw [← Option.some.inj hsc] at hc
      exact absurd hc List.not_mem_nil
    · exact .inr ⟨sc, hsc, hc⟩
  nextScope := by
    rw [nextScope_addScope]
    exact Nat.le_succ _

/-- A change to one scope. -/
theorem modifyScope (f : Forest) (id : ScopeId) (change : Scope → Scope)
    (hsymbols : ∀ sc, ∀ e ∈ (change sc).symbols, P e.2 ∨ e ∈ sc.symbols)
    (hchildren : ∀ sc, ∀ c ∈ (change sc).children, Q c ∨ c ∈ sc.children) :
    Notes P Q f (f.modifyScope id change) where
  symbols s sc hsc e he := by
    rw [scope?_modifyScope] at hsc
    split at hsc
    · obtain ⟨old, hold, rfl⟩ := Option.map_eq_some_iff.mp hsc
      exact (hsymbols old e he).imp_right fun he => ⟨old, hold, he⟩
    · exact .inr ⟨sc, hsc, he⟩
  children s sc hsc c hc := by
    rw [scope?_modifyScope] at hsc
    split at hsc
    · obtain ⟨old, hold, rfl⟩ := Option.map_eq_some_iff.mp hsc
      exact (hchildren old c hc).imp_right fun hc => ⟨old, hold, hc⟩
    · exact .inr ⟨sc, hsc, hc⟩
  nextScope := Nat.le_of_eq (nextScope_modifyScope f id change).symm

theorem define {s : ScopeId} {name : String} {id : NodeId} (hdefine : f.define s name id = .ok g)
    (hid : P id) : Notes P Q f g := by
  rw [(define_ok hdefine).2.2]
  refine modifyScope f s _ (fun sc e he => ?_) fun sc c hc => .inr hc
  rcases List.mem_append.mp he with he | he
  · exact .inr he
  · rw [List.mem_singleton.mp he]
    exact .inl hid

theorem bind? {binding : Option (ScopeId × String)} {id : NodeId}
    (hbind : f.bind? id binding = .ok g) (hid : binding ≠ none → P id) : Notes P Q f g := by
  cases binding with
  | none => exact of_scopes (by rw [Except.ok.inj hbind])
  | some x => exact define hbind (hid (Option.some_ne_none x))

theorem pushScope (f : Forest) (s : ScopeId) {c : ScopeId} (hc : Q c) :
    Notes P Q f (f.pushScope s c) := by
  refine (modifyScope f c (fun sc => { sc with parent := some s })
    (fun sc e he => .inr he) fun sc e he => .inr he).trans
    (modifyScope _ s (fun sc => { sc with children := sc.children ++ [c] })
      (fun sc e he => .inr he) fun sc c' hc' => ?_)
  rcases List.mem_append.mp hc' with hc' | hc'
  · exact .inr hc'
  · rw [List.mem_singleton.mp hc']
    exact .inl hc

end Notes

/-- All that the scopes from `s₀` on bind is attached to the document `d`, and no scope before them
lies in one of them. -/
structure Bound (d : NodeId) (s₀ : ScopeId) (f : Forest) : Prop where
  symbols : ∀ s sc, s₀ ≤ s → f.scope? s = some sc → ∀ e ∈ sc.symbols, f.Holds d e.2
  children : ∀ s sc, s₀ ≤ s → f.scope? s = some sc → ∀ c ∈ sc.children, s₀ ≤ c
  nextScope : s₀ ≤ f.nextScope

theorem Bound.notes {d : NodeId} {s₀ : ScopeId} {f g : Forest} {P : NodeId → Prop}
    (h : Bound d s₀ f) (hn : Notes P (· = f.nextScope) f g) (hnew : ∀ id, P id → g.Holds d id)
    (hold : ∀ id, f.Holds d id → g.Holds d id) : Bound d s₀ g where
  symbols s sc hle hsc e he := by
    rcases hn.symbols s sc hsc e he with he | ⟨old, hsc, he⟩
    · exact hnew _ he
    · exact hold _ (h.symbols s old hle hsc e he)
  children s sc hle hsc c hc := by
    rcases hn.children s sc hsc c hc with rfl | ⟨old, hsc, hc⟩
    · exact h.nextScope
    · exact h.children s old hle hsc c hc
  nextScope := Nat.le_trans h.nextScope hn.nextScope

/-- What can be looked up in a document is attached to it. -/
theorem Bound.holds {d : NodeId} {s₀ : ScopeId} {f : Forest} (h : Bound d s₀ f) {s : ScopeId}
    (hs : f.Nested s₀ s) {sc : Scope} (hsc : f.scope? s = some sc) {name : String} {id : NodeId}
    (hmem : (name, id) ∈ sc.symbols) : f.Holds d id := by
  have hle : s₀ ≤ s := by
    clear hmem hsc
    induction hs with
    | root => exact Nat.le_refl _
    | child _ hsc hc ih => exact h.children _ _ ih hsc _ hc
  exact h.symbols s sc hle hsc _ hmem

/-! ## Scopes inside one another -/

/-- The scope `r` is the given one, or lies around it. -/
inductive Inside (f : Forest) (r : ScopeId) : ScopeId → Prop
  | here : Inside f r r
  | inner {s t : ScopeId} : f.around? s = some t → Inside f r t → Inside f r s

/-- The scopes of `g` are those of `f` and then those of a document, the first of which is its own.
A scope of it that binds a node lies in that one, unless it belongs to the node, as `own` says. -/
structure Housed (own : NodeId → Option ScopeId) (f g : Forest) : Prop where
  kept : ∀ s < f.nextScope, g.scope? s = f.scope? s
  lt : f.nextScope < g.nextScope
  inward : ∀ s t, g.around? s = some t → t < s ∧ (f.nextScope ≤ s → f.nextScope ≤ t)
  bound : ∀ s name id, f.nextScope ≤ s → g.symbol? s name = some id →
    g.Inside f.nextScope s ∨ own id = some s

variable {own : NodeId → Option ScopeId} {f g h : Forest} {r s p c : ScopeId}

theorem Inside.keep (hs : f.Inside r s)
    (hkeep : ∀ s t, f.around? s = some t → g.around? s = some t) : g.Inside r s := by
  induction hs with
  | here => exact .here
  | inner hat _ ih => exact .inner (hkeep _ _ hat) ih

theorem Inside.le (hs : f.Inside r s) (hinward : ∀ s t, f.around? s = some t → t < s) : r ≤ s := by
  induction hs with
  | here => exact Nat.le_refl _
  | inner hat _ ih => exact Nat.le_trans ih (Nat.le_of_lt (hinward _ _ hat))

/-- From a scope inside another, whose number is lower the farther out it is, the outermost one is
found. -/
theorem Inside.getLast?_enclosingTo (hs : f.Inside r s) (hr : f.around? r = none)
    (hinward : ∀ s t, f.around? s = some t → t < s) {n : Nat} (hn : s < n) :
    (f.enclosingTo n s).getLast? = some r := by
  induction n generalizing s with
  | zero => exact absurd hn (Nat.not_lt_zero s)
  | succ n ih =>
    rw [enclosingTo_succ]
    cases hs with
    | here =>
      rw [hr]
      rfl
    | @inner _ t hat hs =>
      have hlt := Nat.lt_of_lt_of_le (hinward s t hat) (Nat.le_of_lt_succ hn)
      rw [hat, Option.elim_some, List.getLast?_cons, ih hs hlt, Option.getD_some]

theorem Inside.root_eq (hs : f.Inside r s) (hr : f.around? r = none)
    (hinward : ∀ s t, f.around? s = some t → t < s) (hlt : s < f.nextScope) : f.root s = r := by
  rw [root, enclosing, ← nextScope, hs.getLast?_enclosingTo hr hinward (Nat.lt_succ_of_lt hlt),
    Option.getD_some]

/-! ## Changes to scopes -/

theorem around?_of_le (hle : f.nextScope ≤ s) : f.around? s = none := by
  rw [around?, scope?, Array.getElem?_eq_none hle, Option.bind_none]

theorem around?_addScope (f : Forest) (node : Option NodeId) :
    (f.addScope { node }).around? = f.around? := by
  funext s
  by_cases hs : s = f.nextScope
  · rw [around?_of_le (Nat.le_of_eq hs.symm), around?, scope?_addScope, if_pos hs]
    rfl
  · rw [around?, scope?_addScope, if_neg hs, around?]

theorem symbol?_addScope (f : Forest) (node : Option NodeId) :
    (f.addScope { node }).symbol? = f.symbol? := by
  funext s name
  by_cases hs : s = f.nextScope
  · rw [symbol?, scope?_addScope, if_pos hs, symbol?, scope?,
      Array.getElem?_eq_none (Nat.le_of_eq hs.symm)]
    rfl
  · rw [symbol?, scope?_addScope, if_neg hs, symbol?]

theorem around?_define {name : String} {id : NodeId} (hdefine : f.define s name id = .ok g) :
    g.around? = f.around? := by
  have hkeeps := (f.attempt_keeps ⟨s, name, id⟩).2.1
  rwa [attempt, hdefine] at hkeeps

theorem symbol?_define {name : String} {id : NodeId} (hdefine : f.define s name id = .ok g)
    {t : ScopeId} {name' : String} {id' : NodeId} (h : g.symbol? t name' = some id') :
    f.symbol? t name' = some id' ∨ t = s ∧ id' = id := by
  rw [(define_ok hdefine).2.2, symbol?, scope?_modifyScope] at h
  split at h
  · next heq =>
    obtain ⟨sc, hsc, hlookup⟩ := Option.bind_eq_some_iff.mp h
    obtain ⟨old, hold, rfl⟩ := Option.map_eq_some_iff.mp hsc
    rw [List.lookup_append] at hlookup
    rcases Option.or_eq_some_iff.mp hlookup with hlookup | ⟨-, hlookup⟩
    · exact .inl (Option.bind_eq_some_iff.mpr ⟨old, hold, hlookup⟩)
    · obtain ⟨-, rfl⟩ := Prod.mk.inj (List.mem_singleton.mp (mem_of_lookup hlookup))
      exact .inr ⟨heq.symm, rfl⟩
  · exact .inl h

theorem around?_pushScope (hne : p ≠ c) (hc : c < f.nextScope) (s : ScopeId) :
    (f.pushScope p c).around? s = if c = s then some p else f.around? s := by
  rw [around?, pushScope_scope? f hne]
  by_cases hp : p = s
  · subst hp
    rw [if_pos rfl, if_neg hne.symm, around?]
    cases f.scope? p <;> rfl
  · rw [if_neg hp]
    split
    · next hs =>
      subst hs
      rw [scope?, Array.getElem?_eq_getElem hc]
      rfl
    · rfl

theorem symbol?_pushScope (f : Forest) (hne : p ≠ c) :
    (f.pushScope p c).symbol? = f.symbol? := by
  funext s name
  rw [symbol?, pushScope_scope? f hne, symbol?]
  split
  · cases f.scope? s <;> rfl
  · split
    · cases f.scope? s <;> rfl
    · rfl

/-! ## Documents -/

namespace Housed

theorem own_mono {own' : NodeId → Option ScopeId} (hh : Housed own f g)
    (hown : ∀ id s, own id = some s → own' id = some s) : Housed own' f g where
  kept := hh.kept
  lt := hh.lt
  inward := hh.inward
  bound s name id hle hsymbol := (hh.bound s name id hle hsymbol).imp_right (hown id s)

theorem le_of_inside (hh : Housed own f g) (hs : g.Inside f.nextScope s) : f.nextScope ≤ s :=
  hs.le fun s t ht => (hh.inward s t ht).1

theorem lt_of_inside (hh : Housed own f g) (hs : g.Inside f.nextScope s) : s < g.nextScope := by
  cases hs with
  | here => exact hh.lt
  | inner hat _ => exact lt_nextScope_of_around? hat

/-- Nothing lies around the scope of the document. -/
theorem around?_eq_none (hh : Housed own f g) : g.around? f.nextScope = none := by
  by_contra hsome
  obtain ⟨t, ht⟩ := Option.ne_none_iff_exists'.mp hsome
  obtain ⟨hlt, hle⟩ := hh.inward _ t ht
  exact absurd hlt (Nat.not_lt_of_le (hle (Nat.le_refl _)))

/-- A change that leaves every scope where it is, and does no more than to bind names where they may
be bound. -/
theorem rebind (hh : Housed own f g) (hkept : ∀ s < f.nextScope, h.scope? s = g.scope? s)
    (hnext : g.nextScope ≤ h.nextScope) (haround : h.around? = g.around?)
    (hsymbol : ∀ s name id, h.symbol? s name = some id → g.symbol? s name = some id ∨
      g.Inside f.nextScope s ∨ own id = some s) : Housed own f h where
  kept s hs := (hkept s hs).trans (hh.kept s hs)
  lt := Nat.lt_of_lt_of_le hh.lt hnext
  inward s t ht := hh.inward s t (haround ▸ ht)
  bound s name id hle hs := by
    have hbound := (hsymbol s name id hs).elim (hh.bound s name id hle) fun hnew => hnew
    exact hbound.imp_left fun hinside => hinside.keep fun _ _ ht => haround ▸ ht

theorem of_scopes (hh : Housed own f g) (heq : h.scopes = g.scopes) : Housed own f h := by
  have hscope : h.scope? = g.scope? := funext fun s => by rw [scope?, heq, scope?]
  refine hh.rebind (fun s _ => by rw [hscope]) (Nat.le_of_eq (congrArg Array.size heq.symm))
    (funext fun s => by rw [around?, hscope, around?]) fun s name id hs => .inl ?_
  rwa [symbol?, hscope] at hs

theorem addScope (hh : Housed own f g) (node : Option NodeId) :
    Housed own f (g.addScope { node }) := by
  refine hh.rebind (fun s hs => ?_) ?_ (around?_addScope g node) fun s name id hs => .inl ?_
  · rw [scope?_addScope, if_neg (Nat.ne_of_lt (Nat.lt_trans hs hh.lt))]
  · rw [nextScope_addScope]
    exact Nat.le_succ _
  · rwa [symbol?_addScope] at hs

theorem define {name : String} {id : NodeId} (hh : Housed own f g)
    (hdefine : g.define s name id = .ok h) (hle : f.nextScope ≤ s)
    (hs : g.Inside f.nextScope s ∨ own id = some s) : Housed own f h := by
  have heq := (define_ok hdefine).2.2
  refine hh.rebind (fun t ht => ?_) (Nat.le_of_eq ?_) (around?_define hdefine)
    fun t name' id' hsymbol => ?_
  · rw [heq, scope?_modifyScope, if_neg (Nat.ne_of_gt (Nat.lt_of_lt_of_le ht hle))]
  · rw [heq, nextScope_modifyScope]
  · refine (symbol?_define hdefine hsymbol).imp_right ?_
    rintro ⟨rfl, rfl⟩
    exact hs

theorem bind? {binding : Option (ScopeId × String)} {id : NodeId} (hh : Housed own f g)
    (hbind : g.bind? id binding = .ok h)
    (hinside : ∀ x, binding = some x → g.Inside f.nextScope x.1) :
    Housed own f h ∧ h.around? = g.around? := by
  cases binding with
  | none =>
    obtain rfl := Except.ok.inj hbind
    exact ⟨hh, rfl⟩
  | some x =>
    have hx := hinside x rfl
    exact ⟨hh.define hbind (hh.le_of_inside hx) (.inl hx), around?_define hbind⟩

/-- A scope that lies nowhere is put inside an older one. -/
theorem pushScope (hh : Housed own f g) (hp : g.Inside f.nextScope p) (hlt : p < c)
    (hc : c < g.nextScope) (hfree : g.around? c = none) : Housed own f (g.pushScope p c) ∧
      ∀ s t, g.around? s = some t → (g.pushScope p c).around? s = some t := by
  have hne := Nat.ne_of_lt hlt
  have hle := hh.le_of_inside hp
  have haround := around?_pushScope hne hc
  have hkeep : ∀ s t, g.around? s = some t → (g.pushScope p c).around? s = some t := by
    intro s t ht
    rw [haround, if_neg, ht]
    rintro rfl
    exact nomatch hfree.symm.trans ht
  refine ⟨⟨fun s hs => ?_, ?_, fun s t ht => ?_, fun s name id hs hsymbol => ?_⟩, hkeep⟩
  · have hsp := Nat.lt_of_lt_of_le hs hle
    rw [pushScope_scope? g hne, if_neg (Nat.ne_of_gt hsp),
      if_neg (Nat.ne_of_gt (Nat.lt_trans hsp hlt)), hh.kept s hs]
  · rw [nextScope_pushScope]
    exact hh.lt
  · rw [haround] at ht
    split at ht
    · next hs =>
      subst hs
      obtain rfl := Option.some.inj ht
      exact ⟨hlt, fun _ => hle⟩
    · exact hh.inward s t ht
  · rw [symbol?_pushScope g hne] at hsymbol
    exact (hh.bound s name id hs hsymbol).imp_left fun hinside => hinside.keep hkeep

end Housed

end Forest
end Wdl
