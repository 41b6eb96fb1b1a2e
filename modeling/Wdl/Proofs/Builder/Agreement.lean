import Mathlib.Data.List.Nodup
import Wdl.Proofs.Builder.Texts

/-!
Documents and their scopes.

After a walk over a document the tree of its nodes and its scopes say the same: `walk_agrees`.  All
that can be looked up is attached to the document, and what is attached and has a name can be looked
up in the scope around it; the scopes are nested as their nodes are.  This does not depend on
errors: what is dropped is in neither of the two.
-/

namespace Wdl
namespace Forest

variable {valid : String → Bool} {d : NodeId} {s₀ : ScopeId} {f : Forest}

/-- The tree of the document `d` and the scopes from `s₀` on say the same. -/
structure Agrees (valid : String → Bool) (d : NodeId) (s₀ : ScopeId) (f : Forest) : Prop where
  /-- the scopes that can be reached are those of the attached nodes with a scope -/
  reached : ∀ s, f.Nested s₀ s ↔ ∃ o, f.InTree d o o ∧ f.scopeOf? o = some s
  present : ∀ s, f.Nested s₀ s → ∃ sc, f.scope? s = some sc
  /-- such a scope binds what lies directly in it and has a name, its names are distinct, and its
  children are the scopes of what lies directly in it, in order -/
  reflects : ∀ s sc, f.Nested s₀ s → f.scope? s = some sc → f.Reflects valid d s sc
  /-- a name stands for one node only -/
  unique : ∀ s name id id', f.Nested s₀ s → f.Binds valid d s name id → f.Binds valid d s name id' →
    id = id'
  /-- all scopes, those of dropped sections too, bind attached nodes only -/
  attached : ∀ s sc, s₀ ≤ s → f.scope? s = some sc → ∀ x ∈ sc.symbols, f.Holds d x.2

/-- The scope of a node that lies directly in a scope is a child of it. -/
theorem Scoped.mem_children (hs : f.Scoped valid d s₀) {s c : ScopeId} {sc : Scope} (hle : s₀ ≤ s)
    (hsc : f.scope? s = some sc) :
    c ∈ sc.children ↔ ∃ p id, f.Directly d s p id ∧ f.scopeOf? id = some c := by
  obtain ⟨ids, heq, -, hmem⟩ := (hs.reflects s sc hle hsc).children
  have hc : c ∈ sc.children ↔ some c ∈ sc.children.map some := by simp
  rw [hc, heq, List.mem_map]
  constructor
  · rintro ⟨id, hid, hscope⟩
    obtain ⟨-, p, hp⟩ := (hmem id).mp hid
    exact ⟨p, id, hp, hscope⟩
  · rintro ⟨p, id, hp, hscope⟩
    exact ⟨id, (hmem id).mpr ⟨by rw [hscope]; rfl, p, hp⟩, hscope⟩

theorem Scoped.nested (hs : f.Scoped valid d s₀) (hl : Linked d f) {id o : NodeId}
    (h : f.InTree d id o) {s : ScopeId} (hos : f.scopeOf? o = some s) : f.Nested s₀ s := by
  induction h generalizing s with
  | root =>
    obtain rfl := Option.some.inj (hs.document.symm.trans hos)
    exact .root
  | @owner p c o hp hc _ ih =>
    obtain ⟨s', hs'⟩ := hs.owner hp
    obtain ⟨hle, sc, hsc, -⟩ := hs.owned o s' (hp.le hl).2 hs'
    exact .child (ih hs') hsc ((hs.mem_children hle hsc).mpr ⟨p, c, ⟨o, hp, hs', hc⟩, hos⟩)
  | inner _ _ _ ih => exact ih hos

theorem Scoped.agrees (hs : f.Scoped valid d s₀) (hl : Linked d f) (hb : Bound d s₀ f) :
    f.Agrees valid d s₀ := by
  have hreached : ∀ s, f.Nested s₀ s → ∃ o, f.InTree d o o ∧ f.scopeOf? o = some s := by
    intro s h
    induction h with
    | root => exact ⟨d, .root, hs.document⟩
    | @child s c sc _ hsc hc ih =>
      obtain ⟨o, ho, hos⟩ := ih
      obtain ⟨p, id, ⟨o', ho', -, hid⟩, hscope⟩ :=
        (hs.mem_children (hs.owned o s (ho.le hl).2 hos).1 hsc).mp hc
      exact ⟨id, .owner ho' hid (by rw [hscope]; rfl), hscope⟩
  have hpresent : ∀ s, f.Nested s₀ s → s₀ ≤ s ∧ ∃ sc, f.scope? s = some sc := by
    intro s h
    obtain ⟨o, ho, hos⟩ := hreached s h
    obtain ⟨hle, sc, hsc, -⟩ := hs.owned o s (ho.le hl).2 hos
    exact ⟨hle, sc, hsc⟩
  refine ⟨fun s => ⟨hreached s, fun ⟨o, ho, hos⟩ => hs.nested hl ho hos⟩,
    fun s h => (hpresent s h).2, fun s sc h hsc => hs.reflects s sc (hpresent s h).1 hsc,
    fun s name id id' h hid hid' => ?_, hb.symbols⟩
  obtain ⟨hle, sc, hsc⟩ := hpresent s h
  have hr := hs.reflects s sc hle hsc
  exact congrArg Prod.snd (List.inj_on_of_nodup_map hr.distinct ((hr.symbols name id).mpr hid)
    ((hr.symbols name id').mpr hid') rfl)

end Forest

namespace Builder

/-- The nodes of a document other than itself are those of productions of `t`, numbered in the order
in which these begin, and with their kinds and spans. -/
structure Numbered (t : Tree) (d : NodeId) (f : Forest) (rs : List (Tree.Path × NodeId)) :
    Prop where
  ids : rs.map Prod.snd = List.range' (d + 1) rs.length
  nextNode : f.nextNode = d + 1 + rs.length
  order : (rs.map Prod.fst).Sublist (t.preorder.map Prod.fst)
  shown : ∀ r ∈ rs, ∃ y ∈ t.preorder, y.1 = r.1 ∧
    ∃ q, f.profile? r.2 = some q ∧ y.2.spot? = some (q.kind, q.span)

theorem Grown.numbered {l : Layout} {b b' : Builder} {t : Tree} {rs : List (Tree.Path × NodeId)}
    {fs : List Tree.Path} (h : Grown l b b' t.preorder rs fs) {d : NodeId}
    (hd : b.forest.nextNode = d + 1) : Numbered t d b'.forest rs where
  ids := by rw [h.ids, hd]
  nextNode := by rw [h.nextNode, hd]
  order := h.order
  shown := h.shown

theorem start_nextNode (f : Forest) (path : String) (stop : Int) (origin : Origin)
    (source : List Char) (keywords : List String) (errors : List SyntaxError) :
    (start f path stop origin source keywords errors).forest.nextNode = f.nextNode + 1 :=
  Forest.nextNode_addScoped ..

/-- After a walk over any parse tree of a document, the productions of which keep apart, its scopes
agree with the tree of its nodes. -/
theorem walk_agrees {t : Tree} (ht : Grammar.IsTree .document t) (hspread : t.Spread) (f : Forest)
    (path : String) (stop : Int) (origin : Origin) (source : List Char) (keywords : List String)
    (errors : List SyntaxError) :
    (walk [] t (start f path stop origin source keywords errors)).finish.forest.Agrees
        (fun name => isIdentifier name && !keywords.contains name) f.nextNode f.nextScope ∧
      Numbered t f.nextNode
        (walk [] t (start f path stop origin source keywords errors)).finish.forest
        (reps [] t (start f path stop origin source keywords errors)) := by
  have hgrown := grown_of_isTree ht hspread.laidOut f path stop origin source keywords errors
    fun _ _ => trivial
  have hscopes := hgrown.orderly.scopes
  have hlinked := hgrown.orderly.steady.linked
  have hbound := hgrown.orderly.rooted.bound
  rw [isNamespace_congr hgrown.keywords, hgrown.document, hgrown.scope] at hscopes
  rw [hgrown.document] at hlinked
  rw [hgrown.document, hgrown.scope] at hbound
  rw [finish_forest]
  exact ⟨hscopes.agrees hlinked hbound, hgrown.numbered (start_nextNode ..)⟩

section Example

/-! ### An example: names that are given twice, and a section that is dropped -/

def repeatedText : String :=
  "version 1.1\ntask t \x7b input \x7b Int a Int a \x7d command \x7b \x7d \x7d " ++
    "task t \x7b command \x7b \x7d \x7d\n"

/-- The productions with nodes.  The second declaration and the second task are dropped, and the
command of that task goes with it. -/
def repeatedReps : List (Tree.Path × NodeId) :=
  [([1], 1), ([1, 1], 2), ([0, 1, 1], 3), ([1, 1, 1], 4), ([2, 1], 5), ([2], 6), ([1, 2], 7)]

set_option maxRecDepth 100000 in
theorem exists_repeatedTree :
    ∃ t, (Grammar.IsTree .document t ∧ t.Spread) ∧
      faults [] t (startText {} repeatedText "" "") = [[1, 1, 1], [2]] ∧
      reps [] t (startText {} repeatedText "" "") = repeatedReps := by
  have hread : (Parse.readTree .document (lexed repeatedText.toList)).any (fun t =>
      faults [] t (startText {} repeatedText "" "") == [[1, 1, 1], [2]] &&
        reps [] t (startText {} repeatedText "" "") == repeatedReps) = true := by
    decide +kernel
  obtain ⟨t, hparse, hrepeated⟩ := exists_tree_of_read hread
  obtain ⟨htree, hlaid, -⟩ := laidOut_of_parse (hparse (.ofNames "" "") 64)
  rw [Bool.and_eq_true, beq_iff_eq, beq_iff_eq] at hrepeated
  exact ⟨t, ⟨htree, Tree.spread_of_laidOut hlaid⟩, hrepeated⟩

theorem walk_agrees_repeated :
    ∃ t, (Grammar.IsTree .document t ∧ t.Spread) ∧
      faults [] t (startText {} repeatedText "" "") = [[1, 1, 1], [2]] ∧
      (walk [] t (startText {} repeatedText "" "")).finish.forest.Agrees
        (fun name => isIdentifier name && !Language.keywords.contains name) 0 0 ∧
      Numbered t 0 (walk [] t (startText {} repeatedText "" "")).finish.forest repeatedReps := by
  obtain ⟨t, ⟨htree, hspread⟩, hfaults, hreps⟩ := exists_repeatedTree
  obtain ⟨hagrees, hnumbered⟩ := walk_agrees htree hspread {} "" _ (.ofNames "" "")
    (lexed repeatedText.toList) Language.keywords []
  exact ⟨t, ⟨htree, hspread⟩, hfaults, hagrees, hreps ▸ hnumbered⟩

end Example

end Builder
end Wdl
