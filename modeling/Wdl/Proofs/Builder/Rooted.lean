import Wdl.Proofs.Builder.Growth
import Wdl.Proofs.Document.Entries

/-!
Events in any order.

`Rooted` builders are steady, know of every open section whether the document holds its node, and
bind in the scopes of the document only what the document holds.  Every event of every part of a
parse tree keeps a builder rooted, whatever came before it.
-/

namespace Wdl
namespace Builder

structure Rooted (b : Builder) : Prop where
  steady : Steady b
  contexts : ∀ c ∈ b.sections, c.rooted = true ↔ b.forest.Holds b.document c.node
  bound : Forest.Bound b.document b.scope b.forest

namespace Rooted

variable {b b' : Builder}

theorem current (h : Rooted b) :
    b.current.rooted = true ↔ b.forest.Holds b.document b.current.node := by
  unfold Builder.current
  cases hsections : b.sections with
  | nil => exact iff_of_true rfl ⟨_, .root⟩
  | cons c outer => exact h.contexts c (hsections ▸ List.mem_cons_self)

theorem shrink (h : Rooted b) (halike : b.forest.Alike b'.forest)
    (hscopes : b'.forest.scopes = b.forest.scopes) (hdocument : b'.document = b.document)
    (hscope : b'.scope = b.scope) (hsections : b'.sections ⊆ b.sections)
    (hframes : b'.frames.map Frame.place ⊆ b.frames.map Frame.place) : Rooted b' where
  steady := h.steady.shrink halike hdocument hscope hsections hframes
  contexts c hc := by
    rw [hdocument, halike.holds_iff]
    exact h.contexts c (hsections hc)
  bound := by
    rw [hdocument, hscope]
    exact h.bound.notes (P := fun _ => False) (.of_scopes hscopes) (fun _ hid => hid.elim)
      fun id hid => halike.holds_iff.mpr hid

theorem quiet (h : Rooted b) (hq : Quiet b b') : Rooted b' :=
  h.shrink hq.alike hq.scopes hq.document hq.scope (by rw [hq.sections]; exact fun _ => id)
    (by rw [hq.frames]; exact fun _ => id)

/-- A new node keeps a builder rooted if what is bound with it is held by the document. -/
theorem sprout {q : Profile} {parent : Option NodeId} {P : NodeId → Prop} (h : Rooted b)
    (hsteady : Steady b') (hs : b.forest.Sprout b'.forest q parent)
    (hparent : ∀ p, parent = some p → p < b.forest.nextNode)
    (hnotes : Forest.Notes P (· = b.forest.nextScope) b.forest b'.forest)
    (hnew : ∀ id, P id → b'.forest.Holds b.document id)
    (hdocument : b'.document = b.document) (hscope : b'.scope = b.scope)
    (hsections : ∀ c ∈ b'.sections, c ∈ b.sections ∨
      (c.rooted = true ↔ b'.forest.Holds b.document c.node)) : Rooted b' := by
  have hne : parent ≠ some b.forest.nextNode := fun heq => Nat.lt_irrefl _ (hparent _ heq)
  refine ⟨hsteady, fun c hc => ?_, ?_⟩
  · rw [hdocument]
    rcases hsections c hc with hc | hc
    · rw [h.contexts c hc, hs.holds_iff h.steady.linked hne]
      refine (or_iff_left fun hnew => ?_).symm
      exact Nat.ne_of_lt (h.steady.sections c hc).2 hnew.1
    · exact hc
  · rw [hdocument, hscope]
    refine h.bound.notes hnotes hnew fun id hid => ?_
    exact (hs.holds_iff h.steady.linked hne).mpr (.inl hid)

end Rooted

/-- What every event keeps: the builder stays rooted and loses no problem. -/
structure Advances (b b' : Builder) : Prop where
  rooted : Rooted b'
  problems : b.problems <+: b'.problems
  document : b'.document = b.document
  scope : b'.scope = b.scope

namespace Advances

variable {b b' b'' : Builder}

theorem quiet (h : Rooted b) (hq : Quiet b b') : Advances b b' :=
  ⟨h.quiet hq, hq.problems, hq.document, hq.scope⟩

theorem trans (h : Advances b b') (h' : Advances b' b'') : Advances b b'' :=
  ⟨h'.rooted, h.problems.trans h'.problems, h'.document.trans h.document, h'.scope.trans h.scope⟩

end Advances

/-- A builder that has just begun its document is rooted. -/
theorem start_rooted (f : Forest) (path : String) (stop : Int) (origin : Origin)
    (source : List Char) (keywords : List String) (errors : List SyntaxError) :
    Rooted (start f path stop origin source keywords errors) where
  steady := start_steady ..
  contexts c hc := absurd hc List.not_mem_nil
  bound := by
    have hscope : ∀ s sc, f.nextScope ≤ s →
        (start f path stop origin source keywords errors).forest.scope? s = some sc →
          sc = { node := some f.nextNode } := by
      intro s sc hle hsc
      have hread : (start f path stop origin source keywords errors).forest.scope? s =
          if s = f.nextScope then some { node := some f.nextNode } else f.scope? s :=
        Forest.scope?_addScoped ..
      rw [hread] at hsc
      split at hsc
      · exact (Option.some.inj hsc).symm
      · exact absurd (Forest.lt_of_scope? hsc) (Nat.not_lt_of_le hle)
    refine ⟨fun s sc hle hsc e he => ?_, fun s sc hle hsc c hc => ?_, ?_⟩
    · rw [hscope s sc hle hsc] at he
      exact absurd he List.not_mem_nil
    · rw [hscope s sc hle hsc] at hc
      exact absurd hc List.not_mem_nil
    · exact Nat.le_of_lt (Nat.lt_of_lt_of_eq (Nat.lt_succ_self _) (Forest.nextScope_addScope _ _).symm)

variable {b b' : Builder}

/-! ## Sections -/

section Opened

variable {path : Tree.Path} {t : Tree} {body : Body} {name : Option String} {id : NodeId}
  {parent : Option NodeId} {accepted : Bool}

theorem introduce_notes (b : Builder) (t : Tree) (body : Body) {P : NodeId → Prop}
    {Q : ScopeId → Prop} : Forest.Notes P Q b.forest (b.introduce t body).forest := by
  unfold introduce
  split
  · exact .of_scopes rfl
  · have hadd : Forest.Notes P Q b.forest (b.addNode t body).forest := .of_scopes rfl
    exact hadd.trans (.addScope _ _)

theorem nestScope_notes (b : Builder) (g : Forest) {scope : Option ScopeId} {P : NodeId → Prop}
    {Q : ScopeId → Prop} (hscope : ∀ s, scope = some s → Q s) :
    Forest.Notes P Q g (b.nestScope g scope) := by
  unfold nestScope
  split
  · split
    · exact .pushScope g _ (hscope _ rfl)
    · exact .of_scopes rfl
  · exact .of_scopes rfl

/-- The scopes bind at most the node of a new section, and only inside the document. -/
theorem Opened.notes (ho : b.Opened path t body name b' id parent accepted)
    (hscope : ∀ s, body.scope? = some s → s = b.forest.nextScope) :
    Forest.Notes (fun x => x = id ∧ (accepted && b.current.rooted) = true)
      (· = b.forest.nextScope) b.forest b'.forest := by
  cases ho with
  | refused => exact introduce_notes b t body
  | twin _ _ _ _ => exact (introduce_notes b t body).trans (nestScope_notes b _ hscope)
  | grafted hbind hscopes _ =>
    refine ((introduce_notes b t body).trans ?_).trans (nestScope_notes b _ hscope)
    refine (Forest.Notes.bind? hbind fun hne => ⟨rfl, ?_⟩).trans (.of_scopes hscopes)
    unfold bindingFor at hne
    split at hne
    · next hrooted => exact hrooted
    · exact absurd rfl hne

/-- The document holds the node of a new section if it holds the one around it. -/
theorem Opened.holds (ho : b.Opened path t body name b' id parent accepted) (h : Rooted b)
    (hparts : body.parts = []) :
    (accepted && b.current.rooted) = true ↔ b'.forest.Holds b.document id := by
  have hs := ho.sprout hparts
  have hlinked := h.steady.linked
  have hne : parent ≠ some b.forest.nextNode := fun heq =>
    Nat.ne_of_lt h.steady.current.2 (ho.parent_eq heq).symm
  have hnew : ¬ b.forest.Holds b.document b.forest.nextNode := fun ⟨o, hheld⟩ =>
    Nat.lt_irrefl _ (hheld.lt hlinked h.steady.document_lt).1
  rw [hs.holds_iff hlinked hne]
  cases ho with
  | refused => simp [hnew]
  | twin hmem _ _ _ =>
    rw [Bool.true_and, h.current, Forest.holds_part hlinked h.steady.current.1 hmem]
    simp
  | grafted => simp [hnew, h.current]

theorem Opened.advances (ho : b.Opened path t body name b' id parent accepted) (h : Rooted b)
    (hparts : body.parts = []) (hscope : ∀ s, body.scope? = some s → s = b.forest.nextScope) :
    Advances b b' := by
  obtain ⟨hdocument, hbscope, -, -⟩ := ho.document
  refine ⟨?_, ho.problems, hdocument, hbscope⟩
  refine h.sprout (ho.steady h.steady hparts) (ho.sprout hparts) (fun p hp => ?_)
    (ho.notes hscope) (fun x hx => ?_) hdocument hbscope fun c hc => ?_
  · rw [ho.parent_eq hp]
    exact h.steady.current.2
  · rw [hx.1]
    exact (ho.holds h hparts).mp hx.2
  · rw [ho.sections] at hc
    rcases List.mem_cons.mp hc with rfl | hc
    · exact .inr (ho.holds h hparts)
    · exact .inl hc

theorem Named.advances {loopName? : Option String} (hn : b.Named loopName? b') (h : Rooted b) :
    Advances b b' := by
  obtain ⟨hdocument, hscope, -, hsections, hframes⟩ := hn.fields
  refine ⟨⟨hn.steady h.steady, fun c hc => ?_, ?_⟩, hn.problems, hdocument, hscope⟩
  · rw [hdocument, hn.alike.holds_iff]
    exact h.contexts c (hsections ▸ hc)
  · rw [hdocument, hscope]
    have hnotes : Forest.Notes (fun x => b.forest.Holds b.document x) (· = b.forest.nextScope)
        b.forest b'.forest := by
      cases hn with
      | bound _ hrooted _ hdefine => exact .define hdefine (h.current.mp hrooted)
      | _ => exact .of_scopes rfl
    exact h.bound.notes hnotes (fun x hx => hn.alike.holds_iff.mpr hx)
      fun x hx => hn.alike.holds_iff.mpr hx

theorem enter_section_advances {p : Production} {kind : Kind} (hp : p.sectionKind? = some kind)
    (path : Tree.Path) (e : Option Extent) (cs : List Tree) (h : Rooted b) :
    Advances b (b.enter path (.node p e cs)) := by
  obtain ⟨body, name, hopening, errors, henter⟩ := b.enter_section hp path e cs
  obtain ⟨id, parent, accepted, ho⟩ :=
    openNew_opened h.steady path (.node p e cs) hopening.parts name
  have hscope : ∀ s, body.scope? = some s → s = b.forest.nextScope := by
    intro s hs
    rcases hopening.scope with hnone | hsome
    · exact nomatch hnone.symm.trans hs
    · exact Option.some.inj (hs.symm.trans hsome)
  rw [henter]
  have hopened := ho.advances h hopening.parts hscope
  have hreported := hopened.trans (.quiet hopened.rooted (.withErrors _ (b.syntaxErrors ++ errors)))
  exact hreported.trans ((bindVariable_named _ _).advances hreported.rooted)

end Opened

/-! ## Imports and metadata -/

theorem Leafed.advances {t : Tree} {body : Body} {binding : Option (ScopeId × String)}
    {parent : Option NodeId} (hl : b.Leafed t body binding b' parent) (h : Rooted b)
    (hparts : body.parts = []) (hbinding : binding ≠ none → b.current.rooted = true) :
    Advances b b' := by
  obtain ⟨hdocument, hscope, -, hsections, -⟩ := hl.fields
  refine ⟨?_, hl.problems, hdocument, hscope⟩
  have hs := hl.sprout hparts
  have hne : parent ≠ some b.forest.nextNode := fun heq =>
    Nat.ne_of_lt h.steady.current.2 (hl.parent_eq heq).symm
  have hnotes : Forest.Notes (fun x => x = b.forest.nextNode ∧ parent = some b.current.node ∧
      b.current.rooted = true) (· = b.forest.nextScope) b.forest b'.forest := by
    cases hl with
    | refused | twin => exact .of_scopes rfl
    | grafted _ _ hbind hscopes _ =>
      have hadd : Forest.Notes (fun x => x = b.forest.nextNode ∧
          some b.current.node = some b.current.node ∧ b.current.rooted = true)
          (· = b.forest.nextScope) b.forest (b.addNode t body).forest := .of_scopes rfl
      exact (hadd.trans (.bind? hbind fun hne => ⟨rfl, rfl, hbinding hne⟩)).trans
        (.of_scopes hscopes)
  refine h.sprout (hl.steady h.steady hparts) hs (fun p hp => ?_) hnotes (fun x hx => ?_) hdocument
    hscope fun c hc => .inl (hsections ▸ hc)
  · rw [hl.parent_eq hp]
    exact h.steady.current.2
  · exact (hs.holds_iff h.steady.linked hne).mpr
      (.inr ⟨hx.1, _, hx.2.1, h.current.mp hx.2.2⟩)

theorem enter_leaf_advances {p : Production} (hp : p.isLeaf = true) (path : Tree.Path)
    (e : Option Extent) (cs : List Tree) (h : Rooted b) :
    Advances b (b.enter path (.node p e cs)) := by
  cases p <;> simp only [Production.isLeaf, Bool.false_eq_true] at hp
  case importDoc =>
    show Advances b (b.addImport (.node .importDoc e cs))
    rcases b.addImport_eq (.node .importDoc e cs) with
      ⟨-, heq⟩ | ⟨error, heq⟩ | ⟨errors, problems, body, heq⟩
    · rw [heq]
      exact .quiet h (.refl b)
    · rw [heq]
      exact .quiet h (.withErrors b _)
    · have h' := Advances.quiet h (.withReports b (b.syntaxErrors ++ errors) problems)
      obtain ⟨parent, hl⟩ := attachLeaf_leafed h'.rooted.steady (.node .importDoc e cs)
        (.importDoc body) rfl
        (if b.isNamespace body.namespaceName && b.current.rooted then
          some (b.scope, body.namespaceName) else none)
      rw [heq]
      refine h'.trans (hl.advances h'.rooted rfl fun hne => ?_)
      split at hne
      · next hvalid => exact (Bool.and_eq_true _ _ ▸ hvalid).2
      · exact absurd rfl hne
  case metaEntry =>
    show Advances b (b.addMetaEntry (.node .metaEntry e cs))
    obtain ⟨key, value, heq⟩ := b.addMetaEntry_eq (.node .metaEntry e cs)
    obtain ⟨parent, hl⟩ := attachLeaf_leafed h.steady (.node .metaEntry e cs)
      (.entry { key, value }) rfl none
    rw [heq]
    exact hl.advances h rfl fun hne => absurd rfl hne

/-! ## Expressions -/

theorem Begun.advances {path : Tree.Path} {t : Tree} {parent : Option NodeId}
    (hb : Begun b b' path t parent) (h : Rooted b) : Advances b b' := by
  refine ⟨?_, hb.problems, hb.document, hb.scope⟩
  refine h.sprout (P := fun _ => False) (hb.steady h.steady) hb.sprout (fun p hp => ?_)
    (.of_scopes hb.scopes) (fun _ hx => hx.elim) hb.document hb.scope
    fun c hc => .inl (hb.sections ▸ hc)
  rw [hb.parent_eq hp]
  exact h.steady.host.2

end Builder
end Wdl
