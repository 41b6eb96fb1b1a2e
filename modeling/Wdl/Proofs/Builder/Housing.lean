import Wdl.Proofs.Builder.Correspondence
import Wdl.Proofs.Document.Atomic
import Wdl.Proofs.Scope.Resolution

/-!
Forests of texts.

Builders that are `Sheltered` keep the scopes of the document inside one another, and every event
keeps them sheltered.  So it is with all documents in a forest that has been made of texts,
`FromTexts.settled`, whatever is wrong with these.  There the calls that `resolve` may follow are
enough, `FromTexts.resolve_eq_endless_iff_forall`, because all scopes that bind a call lie in one
outermost scope.
-/

namespace Wdl

theorem Forest.Sprout.scopeOf?_keep {f g : Forest} {q : Profile} {parent : Option NodeId}
    (h : f.Sprout g q parent) (id : NodeId) (s : ScopeId) (hs : f.scopeOf? id = some s) :
    g.scopeOf? id = some s := by
  obtain ⟨q, hq, -⟩ := Option.bind_eq_some_iff.mp hs
  rw [h.scopeOf?_of_lt (f.lt_of_profile? hq), hs]

namespace Builder

/-- The builder has begun a document in the forest `f`, whose scope is the first after those of
`f`. -/
structure Sheltered (f : Forest) (b : Builder) : Prop where
  housed : Forest.Housed b.forest.scopeOf? f b.forest
  scope : b.scope = f.nextScope
  kept : ∀ id s, f.scopeOf? id = some s → b.forest.scopeOf? id = some s
  own : ∀ id s, b.document ≤ id → b.forest.scopeOf? id = some s → f.nextScope ≤ s
  /-- the scope that is current in a section of the document lies in that of the document -/
  sections : ∀ c outer, c :: outer <:+ b.sections → c.rooted = true →
    b.forest.Inside f.nextScope (((c :: outer).findSome? Context.scope).getD b.scope)

variable {f g : Forest} {b b' : Builder}

theorem start_sheltered (hinward : ∀ s t, f.around? s = some t → t < s) (path : String) (stop : Int)
    (origin : Origin) (source : List Char) (keywords : List String) (errors : List SyntaxError) :
    Sheltered f (start f path stop origin source keywords errors) := by
  let n : Node := ⟨.document { path, scope := f.nextScope }, ⟨0, stop⟩, none, none⟩
  let g := (f.addNode n).addScope { node := some f.nextNode }
  have hsprout : f.Sprout g n.profile none :=
    Forest.sprout_loose rfl rfl (.of_node? rfl fun _ => rfl)
  have haround : g.around? = f.around? := Forest.around?_addScope (f.addNode n) _
  have hsymbol : g.symbol? = f.symbol? := Forest.symbol?_addScope (f.addNode n) _
  refine ⟨⟨fun s hs => ?_, ?_, fun s t ht => ?_, fun s name id hs hid => ?_⟩, rfl,
    hsprout.scopeOf?_keep, fun id s hid hs => ?_, fun c outer hc => ?_⟩
  · exact (Forest.scope?_addScope ..).trans (if_neg (Nat.ne_of_lt hs))
  · exact Nat.lt_of_lt_of_eq (Nat.lt_succ_self _) (Forest.nextScope_addScope _ _).symm
  · replace ht : f.around? s = some t := haround ▸ ht
    exact ⟨hinward s t ht, fun hle => absurd (ht.symm.trans (Forest.around?_of_le hle))
      (Option.some_ne_none t)⟩
  · replace hid : f.symbol? s name = some id := hsymbol ▸ hid
    rw [Forest.symbol?, Forest.scope?, Array.getElem?_eq_none hs] at hid
    cases hid
  · replace hs : g.scopeOf? id = some s := hs
    rw [hsprout.scopeOf?] at hs
    split at hs
    · exact Nat.le_of_eq (Option.some.inj hs)
    · obtain ⟨q, hq, -⟩ := Option.bind_eq_some_iff.mp hs
      exact absurd (f.lt_of_profile? hq) (Nat.not_lt_of_le hid)
  · exact absurd (List.suffix_nil.mp hc) (List.cons_ne_nil c outer)

namespace Sheltered

/-- Where the current section is part of the document, its scope lies in that of the document. -/
theorem around (h : Sheltered f b) (hrooted : b.current.rooted = true) :
    b.forest.Inside f.nextScope b.currentScope := by
  unfold Builder.current at hrooted
  unfold Builder.currentScope
  cases hsections : b.sections with
  | nil =>
    show b.forest.Inside f.nextScope b.scope
    rw [h.scope]
    exact .here
  | cons c outer =>
    rw [hsections] at hrooted
    exact h.sections c outer (hsections ▸ List.suffix_refl _) hrooted

theorem shrink (h : Sheltered f b) (halike : b.forest.Alike b'.forest)
    (hscopes : b'.forest.scopes = b.forest.scopes) (hdocument : b'.document = b.document)
    (hscope : b'.scope = b.scope) (hsections : b'.sections <:+ b.sections) : Sheltered f b' where
  housed := (h.housed.of_scopes hscopes).own_mono fun id s hs => (halike.scopeOf? id).trans hs
  scope := hscope.trans h.scope
  kept id s hs := (halike.scopeOf? id).trans (h.kept id s hs)
  own id s hid hs := h.own id s (hdocument ▸ hid) ((halike.scopeOf? id).symm.trans hs)
  sections c outer hc hrooted := by
    rw [hscope]
    refine (h.sections c outer (hc.trans hsections) hrooted).keep fun s t ht => ?_
    rwa [Forest.around?, Forest.scope?, hscopes]

theorem quiet (h : Sheltered f b) (hq : Quiet b b') : Sheltered f b' :=
  h.shrink hq.alike hq.scopes hq.document hq.scope (hq.sections ▸ List.suffix_refl _)

/-- A new node keeps a builder sheltered if the scopes stay inside one another, and those of new
sections too. -/
theorem sprout {q : Profile} {parent : Option NodeId} (h : Sheltered f b)
    (hs : b.forest.Sprout b'.forest q parent)
    (hq : ∀ s, q.scope = some s → s = b.forest.nextScope)
    (hhoused : Forest.Housed b'.forest.scopeOf? f b'.forest)
    (hkeep : ∀ s t, b.forest.around? s = some t → b'.forest.around? s = some t)
    (hdocument : b'.document = b.document) (hscope : b'.scope = b.scope)
    (hsections : b'.sections = b.sections ∨ ∃ c, b'.sections = c :: b.sections ∧
      (c.rooted = true → b'.forest.Inside f.nextScope (c.scope.getD b.currentScope))) :
    Sheltered f b' where
  housed := hhoused
  scope := hscope.trans h.scope
  kept id s hs' := hs.scopeOf?_keep id s (h.kept id s hs')
  own id s hid hs' := by
    rw [hs.scopeOf?] at hs'
    split at hs'
    · exact Nat.le_of_lt (hq s hs' ▸ h.housed.lt)
    · exact h.own id s (hdocument ▸ hid) hs'
  sections c outer hc hrooted := by
    rw [hscope]
    have hold : c :: outer <:+ b.sections →
        b'.forest.Inside f.nextScope (((c :: outer).findSome? Context.scope).getD b.scope) :=
      fun hc => (h.sections c outer hc hrooted).keep hkeep
    rcases hsections with heq | ⟨new, heq, hinside⟩
    · exact hold (heq ▸ hc)
    · rw [heq] at hc
      rcases List.suffix_cons_iff.mp hc with hc | hc
      · obtain ⟨rfl, rfl⟩ := List.cons.inj hc
        have hcurrent := hinside hrooted
        unfold Builder.currentScope at hcurrent
        rw [List.findSome?_cons]
        cases hown : c.scope <;> rw [hown] at hcurrent <;> exact hcurrent
      · exact hold hc

/-- A section that is opened in the document puts its scope, if it has one, into that of the section
around it. -/
theorem nestScope (h : Sheltered f b) {own : NodeId → Option ScopeId} {scope : Option ScopeId}
    (hg : Forest.Housed own f g) (haround : g.around? = b.forest.around?)
    (hscope : ∀ s, scope = some s → s = b.forest.nextScope ∧ s < g.nextScope) :
    Forest.Housed own f (b.nestScope g scope) ∧
      (∀ s t, b.forest.around? s = some t → (b.nestScope g scope).around? s = some t) ∧
      (b.current.rooted = true →
        (b.nestScope g scope).Inside f.nextScope (scope.getD b.currentScope)) := by
  have hcurrent : b.current.rooted = true → g.Inside f.nextScope b.currentScope :=
    fun hrooted => (h.around hrooted).keep fun _ _ ht => haround ▸ ht
  have hkeep : ∀ s t, b.forest.around? s = some t → g.around? s = some t :=
    fun _ _ ht => haround ▸ ht
  unfold Builder.nestScope
  cases scope with
  | none => exact ⟨hg, hkeep, hcurrent⟩
  | some s =>
    obtain ⟨rfl, hlt⟩ := hscope s rfl
    cases hrooted : b.current.rooted with
    | false => exact ⟨hg, hkeep, nofun⟩
    | true =>
      have hnew := h.housed.lt_of_inside (h.around hrooted)
      have hfree : g.around? b.forest.nextScope = none := by
        rw [haround, Forest.around?_of_le (Nat.le_refl _)]
      obtain ⟨hpushed, hpushes⟩ := hg.pushScope (hcurrent hrooted) hnew hlt hfree
      refine ⟨hpushed, fun s t ht => hpushes s t (hkeep s t ht), fun _ => ?_⟩
      refine .inner ?_ ((hcurrent hrooted).keep hpushes)
      show (g.pushScope b.currentScope b.forest.nextScope).around? b.forest.nextScope = _
      rw [Forest.around?_pushScope (Nat.ne_of_lt hnew) hlt, if_pos rfl]

end Sheltered

/-! ## Events -/

section Opened

variable {path : Tree.Path} {t : Tree} {body : Body} {name : Option String} {id : NodeId}
  {parent : Option NodeId} {accepted : Bool}

theorem introduce_housed {own : NodeId → Option ScopeId} (hb : Forest.Housed own f b.forest)
    (t : Tree) (body : Body) : Forest.Housed own f (b.introduce t body).forest ∧
      (b.introduce t body).forest.around? = b.forest.around? ∧
      ∀ s, body.scope? = some s → b.forest.nextScope < (b.introduce t body).forest.nextScope := by
  have hadded : Forest.Housed own f (b.addNode t body).forest := hb.of_scopes rfl
  unfold introduce
  split
  · exact ⟨hadded, rfl, fun s hs => by simp_all⟩
  · refine ⟨hadded.addScope _, Forest.around?_addScope _ _, fun _ _ => ?_⟩
    exact Nat.lt_of_lt_of_eq (Nat.lt_succ_self _) (Forest.nextScope_addScope _ _).symm

theorem bindingFor_inside (h : Sheltered f b) {x : ScopeId × String}
    (hx : b.bindingFor name = some x) : b.forest.Inside f.nextScope x.1 := by
  unfold bindingFor at hx
  split at hx
  · next hrooted =>
    obtain ⟨n, -, rfl⟩ := Option.map_eq_some_iff.mp hx
    exact h.around hrooted
  · exact nomatch hx

theorem Opened.sheltered (ho : b.Opened path t body name b' id parent accepted)
    (h : Sheltered f b) (hparts : body.parts = [])
    (hscope : ∀ s, body.scope? = some s → s = b.forest.nextScope) : Sheltered f b' := by
  have hs := ho.sprout hparts
  obtain ⟨hdocument, hbscope, -, -⟩ := ho.document
  obtain ⟨hintroduced, haround, hnext⟩ :=
    introduce_housed (h.housed.own_mono hs.scopeOf?_keep) t body
  have hnew : ∀ s, body.scope? = some s →
      s = b.forest.nextScope ∧ s < (b.introduce t body).forest.nextScope :=
    fun s hs => ⟨hscope s hs, hscope s hs ▸ hnext s hs⟩
  cases ho with
  | refused problem =>
    exact h.sprout hs hscope hintroduced (fun _ _ ht => haround ▸ ht) rfl rfl
      (.inr ⟨_, rfl, nofun⟩)
  | twin _ _ _ _ =>
    obtain ⟨hhoused, hkeep, hinside⟩ := h.nestScope hintroduced haround hnew
    exact h.sprout hs hscope hhoused hkeep rfl rfl (.inr ⟨_, rfl, hinside⟩)
  | @grafted f' g hbind hscopes _ =>
    obtain ⟨hbound, haround'⟩ := hintroduced.bind? hbind fun x hx =>
      (bindingFor_inside h hx).keep fun _ _ ht => haround ▸ ht
    have hsame : g.around? = f'.around? := funext fun s => by
      rw [Forest.around?, Forest.scope?, hscopes, Forest.around?, Forest.scope?]
    have hsize : g.nextScope = (b.introduce t body).forest.nextScope := by
      rw [Forest.nextScope, hscopes, ← Forest.nextScope, Forest.bind?_nextScope hbind]
    obtain ⟨hhoused, hkeep, hinside⟩ := h.nestScope (hbound.of_scopes hscopes)
      (hsame.trans (haround'.trans haround)) (hsize ▸ hnew)
    exact h.sprout hs hscope hhoused hkeep rfl rfl (.inr ⟨_, rfl, hinside⟩)

/-- The variable of a scatter is bound in the scope of the scatter. -/
theorem Named.sheltered {loopName? : Option String} (hn : b.Named loopName? b')
    (h : Sheltered f b) (hcurrent : b.document ≤ b.current.node) : Sheltered f b' := by
  cases hn with
  | nothing => exact h
  | refused => exact h.shrink (.refl _) rfl rfl rfl (List.suffix_refl _)
  | @bound own name g _ _ hown hdefine =>
    have halike : b.forest.Alike g := by
      rw [(Forest.define_ok hdefine).2.2]
      exact .of_node? rfl fun _ => rfl
    have hle := h.own _ own hcurrent hown
    refine ⟨?_, h.scope, fun id s hs => (halike.scopeOf? id).trans (h.kept id s hs),
      fun id s hid hs => h.own id s hid ((halike.scopeOf? id).symm.trans hs),
      fun c outer hc hrooted => ?_⟩
    · exact (h.housed.define hdefine hle (.inr hown)).own_mono fun id s hs =>
        (halike.scopeOf? id).trans hs
    · exact (h.sections c outer hc hrooted).keep fun _ _ ht =>
        Forest.around?_define hdefine ▸ ht

theorem enter_section_sheltered {p : Production} {kind : Kind} (hp : p.sectionKind? = some kind)
    (path : Tree.Path) (e : Option Extent) (cs : List Tree) (hr : Rooted b) (h : Sheltered f b) :
    Sheltered f (b.enter path (.node p e cs)) := by
  obtain ⟨body, name, hopening, errors, henter⟩ := b.enter_section hp path e cs
  obtain ⟨id, parent, accepted, ho⟩ :=
    openNew_opened hr.steady path (.node p e cs) hopening.parts name
  have hscope : ∀ s, body.scope? = some s → s = b.forest.nextScope := by
    intro s hs
    rcases hopening.scope with hnone | hsome
    · exact nomatch hnone.symm.trans hs
    · exact Option.some.inj (hs.symm.trans hsome)
  rw [henter]
  have hopened := ho.sheltered h hopening.parts hscope
  have hreported := hopened.quiet (.withErrors _ (b.syntaxErrors ++ errors))
  refine (bindVariable_named _ _).sheltered hreported ?_
  exact (ho.steady hr.steady hopening.parts).current.1

end Opened

theorem Leafed.sheltered {t : Tree} {body : Body} {binding : Option (ScopeId × String)}
    {parent : Option NodeId} (hl : b.Leafed t body binding b' parent) (h : Sheltered f b)
    (hparts : body.parts = []) (hscope : body.scope? = none)
    (hbinding : ∀ x, binding = some x → b.forest.Inside f.nextScope x.1) : Sheltered f b' := by
  have hs := hl.sprout hparts
  have hadded : Forest.Housed b'.forest.scopeOf? f (b.addNode t body).forest :=
    (h.housed.own_mono hs.scopeOf?_keep).of_scopes rfl
  have hnew : ∀ s, (body.profile t.span).scope = some s → s = b.forest.nextScope :=
    fun s hs => nomatch hscope.symm.trans hs
  cases hl with
  | refused | twin => exact h.sprout hs hnew hadded (fun _ _ ht => ht) rfl rfl (.inl rfl)
  | @grafted f' g _ _ _ _ hbind hscopes _ =>
    obtain ⟨hbound, haround⟩ := hadded.bind? hbind fun x hx =>
      (hbinding x hx).keep fun _ _ ht => ht
    refine h.sprout hs hnew (hbound.of_scopes hscopes) (fun s t ht => ?_) rfl rfl (.inl rfl)
    have hsame : g.around? s = f'.around? s := by
      rw [Forest.around?, Forest.scope?, hscopes, Forest.around?, Forest.scope?]
    rw [hsame, haround]
    exact ht

theorem enter_leaf_sheltered {p : Production} (hp : p.isLeaf = true) (path : Tree.Path)
    (e : Option Extent) (cs : List Tree) (hr : Rooted b) (h : Sheltered f b) :
    Sheltered f (b.enter path (.node p e cs)) := by
  cases p <;> simp only [Production.isLeaf, Bool.false_eq_true] at hp
  case importDoc =>
    show Sheltered f (b.addImport (.node .importDoc e cs))
    rcases b.addImport_eq (.node .importDoc e cs) with
      ⟨-, heq⟩ | ⟨error, heq⟩ | ⟨errors, problems, body, heq⟩
    · rw [heq]
      exact h
    · rw [heq]
      exact h.quiet (.withErrors b _)
    · have hq := Quiet.withReports b (b.syntaxErrors ++ errors) problems
      obtain ⟨parent, hl⟩ := attachLeaf_leafed (hr.quiet hq).steady (.node .importDoc e cs)
        (.importDoc body) rfl
        (if b.isNamespace body.namespaceName && b.current.rooted then
          some (b.scope, body.namespaceName) else none)
      rw [heq]
      refine hl.sheltered (h.quiet hq) rfl rfl fun x hx => ?_
      split at hx
      · obtain rfl := Option.some.inj hx
        rw [h.scope]
        exact .here
      · cases hx
  case metaEntry =>
    show Sheltered f (b.addMetaEntry (.node .metaEntry e cs))
    obtain ⟨key, value, heq⟩ := b.addMetaEntry_eq (.node .metaEntry e cs)
    obtain ⟨parent, hl⟩ := attachLeaf_leafed hr.steady (.node .metaEntry e cs)
      (.entry { key, value }) rfl none
    rw [heq]
    exact hl.sheltered h rfl rfl fun x hx => absurd hx.symm (Option.some_ne_none x)

theorem Begun.sheltered {path : Tree.Path} {t : Tree} {parent : Option NodeId}
    (hb : Begun b b' path t parent) (h : Sheltered f b) : Sheltered f b' := by
  refine h.sprout hb.sprout nofun ?_ (fun s t ht => ?_) hb.document hb.scope (.inl hb.sections)
  · exact (h.housed.own_mono hb.sprout.scopeOf?_keep).of_scopes hb.scopes
  · rwa [Forest.around?, Forest.scope?, hb.scopes]

theorem enter_sheltered (hr : Rooted b) (h : Sheltered f b) (path : Tree.Path) (t : Tree) :
    Sheltered f (b.enter path t) := by
  cases t with
  | token k => exact h
  | node p e cs =>
    cases hsection : p.sectionKind? with
    | some kind => exact enter_section_sheltered hsection path e cs hr h
    | none =>
      cases hleaf : p.isLeaf with
      | true => exact enter_leaf_sheltered hleaf path e cs hr h
      | false =>
        cases hexpr : p.isExpression with
        | true =>
          obtain ⟨parent, hbegun⟩ := beginExpr_begun hr.steady path (.node p e cs)
          have hsheltered : Sheltered f (b.beginExpr path (.node p e cs)) := hbegun.sheltered h
          cases p <;> first | exact hsheltered | exact nomatch hexpr
        | false => exact h.quiet (enter_quiet b hsection hleaf hexpr path e cs)

theorem exit_sheltered (h : Sheltered f b) (path : Tree.Path) (t : Tree) :
    Sheltered f (b.exit path t) := by
  cases t with
  | token k => exact h
  | node p e cs =>
    cases hsection : p.sectionKind? with
    | some kind =>
      rw [exit_section hsection]
      rcases b.closeSection_unwinds path (.node p e cs) kind with
        ⟨-, heq⟩ | ⟨inner, c, outer, hsections, -, -, heq⟩ <;> rw [heq]
      · exact h.shrink (.refl _) rfl rfl rfl (List.suffix_refl _)
      · refine h.shrink (.refl _) rfl rfl rfl ?_
        rw [hsections]
        exact (List.suffix_cons c outer).trans (List.suffix_append _ _)
    | none =>
      cases hexpr : p.isExpression with
      | true =>
        have hsheltered : Sheltered f (b.endExpr path (.node p e cs)) := by
          obtain ⟨frames, problems, -, heq⟩ := b.endExpr_eq_shrink path (.node p e cs)
          rw [heq]
          exact h.shrink (.refl _) rfl rfl rfl (List.suffix_refl _)
        cases p <;> first | exact hsheltered | exact nomatch hexpr
      | false => exact h.quiet (exit_quiet b hsection hexpr path e cs)

/-! ## Walks -/

mutual

theorem walk_sheltered {b : Builder} (hr : Rooted b) (h : Sheltered f b) (path : Tree.Path)
    (t : Tree) : Sheltered f (walk path t b) := by
  cases t with
  | token k => exact h.quiet (visitToken_quiet b k)
  | node p e cs =>
    have hentered := (enter_advances hr path (.node p e cs)).rooted
    exact exit_sheltered (walkList_sheltered hentered (enter_sheltered hr h path _) path 0 cs) path _

theorem walkList_sheltered {b : Builder} (hr : Rooted b) (h : Sheltered f b) (path : Tree.Path)
    (i : Nat) (cs : List Tree) : Sheltered f (walkList path i cs b) := by
  cases cs with
  | nil => exact h
  | cons c cs =>
    exact walkList_sheltered (walk_advances hr (i :: path) c).rooted
      (walk_sheltered hr h (i :: path) c) path (i + 1) cs

end

/-- Whatever is wrong with a text, its document is built by a builder that is sheltered. -/
theorem ofText_sheltered (hinward : ∀ s t, f.around? s = some t → t < s)
    (text uri abspath : String) (limit : Int) :
    ∃ b, Rooted b ∧ Sheltered f b ∧ b.document = f.nextNode ∧
      (ofText f text uri abspath limit).forest = b.forest := by
  obtain ⟨errors, tree, hparse⟩ : ∃ errors tree, Parse.parse Language.documents
      (.ofNames uri abspath) limit (lexed text.toList) = (errors, tree) := ⟨_, _, rfl⟩
  rw [ofText_eq f hparse, finish_forest]
  have hrooted := start_rooted f uri ((max text.toList.length 1 : Nat) - 1)
    (.ofNames uri abspath) (lexed text.toList) Language.keywords errors
  have hsheltered := start_sheltered hinward uri ((max text.toList.length 1 : Nat) - 1)
    (.ofNames uri abspath) (lexed text.toList) Language.keywords errors
  cases tree with
  | none => exact ⟨_, hrooted, hsheltered, rfl, rfl⟩
  | some t =>
    have hwalk := walk_advances hrooted [] t
    exact ⟨_, hwalk.rooted, walk_sheltered hrooted hsheltered [] t, hwalk.document, rfl⟩

end Builder

/-! ## Forests of texts -/

namespace Forest

/-- Forests into which the documents of texts have been put, one after another. -/
inductive FromTexts : Forest → Prop
  | empty : FromTexts {}
  | text {f : Forest} (text uri abspath : String) (limit : Int) : FromTexts f →
    FromTexts (Builder.ofText f text uri abspath limit).forest

/-- Scopes lie in older ones, and all scopes that bind a node without a scope of its own lie in one
that lies in no other. -/
structure Settled (f : Forest) : Prop where
  inward : ∀ s t, f.around? s = some t → t < s
  present : ∀ c, f.Stands c → c.symbol < f.nextNode
  gathered : ∀ c c', f.Stands c → f.Stands c' → c.symbol = c'.symbol → f.scopeOf? c.symbol = none →
    ∃ r, f.around? r = none ∧ f.Inside r c.scope ∧ f.Inside r c'.scope

variable {f g : Forest}

theorem Stands.lt {c : Binding} (h : f.Stands c) : c.scope < f.nextScope := by
  obtain ⟨name, hname⟩ := h
  obtain ⟨sc, hsc, -⟩ := Option.bind_eq_some_iff.mp hname
  exact lt_of_scope? hsc

theorem settled_empty : Settled {} where
  inward s _ ht := nomatch (around?_of_le (Nat.zero_le s)).symm.trans ht
  present _ hc := absurd hc.lt (Nat.not_lt_zero _)
  gathered _ _ hc := absurd hc.lt (Nat.not_lt_zero _)

/-- What stands in the older scopes stood there before. -/
theorem Housed.stands_old {own : NodeId → Option ScopeId} (hh : Housed own f g) {c : Binding}
    (hc : g.Stands c) (hlt : c.scope < f.nextScope) : f.Stands c := by
  obtain ⟨name, hname⟩ := hc
  exact ⟨name, by rwa [symbol?, hh.kept c.scope hlt] at hname⟩

/-- What stands in the newer scopes is part of the document. -/
theorem stands_new {b : Builder} (hr : Builder.Rooted b) (hs : Builder.Sheltered f b)
    {c : Binding} (hc : b.forest.Stands c) (hle : f.nextScope ≤ c.scope) :
    b.document ≤ c.symbol ∧ c.symbol < b.forest.nextNode := by
  obtain ⟨name, hname⟩ := hc
  obtain ⟨sc, hsc, hlookup⟩ := Option.bind_eq_some_iff.mp hname
  obtain ⟨o, ho⟩ := hr.bound.symbols c.scope sc (hs.scope ▸ hle) hsc _ (mem_of_lookup hlookup)
  exact ⟨(ho.le hr.steady.linked).1, (ho.lt hr.steady.linked hr.steady.document_lt).1⟩

/-- A document that is added to a settled forest leaves it settled. -/
theorem Settled.document {b : Builder} (h : f.Settled) (hr : Builder.Rooted b)
    (hs : Builder.Sheltered f b) (hdocument : b.document = f.nextNode) : b.forest.Settled where
  inward s t ht := (hs.housed.inward s t ht).1
  present c hc := by
    rcases Nat.lt_or_ge c.scope f.nextScope with hlt | hle
    · have hold := h.present c (hs.housed.stands_old hc hlt)
      exact Nat.lt_trans hold (hdocument ▸ hr.steady.document_lt)
    · exact (stands_new hr hs hc hle).2
  gathered c c' hc hc' hsymbol hscope := by
    -- nothing stands in scopes of two documents
    have happart : ∀ x y, b.forest.Stands x → b.forest.Stands y → x.scope < f.nextScope →
        f.nextScope ≤ y.scope → x.symbol ≠ y.symbol := fun x y hx hy hlt hle =>
      Nat.ne_of_lt (Nat.lt_of_lt_of_le (h.present x (hs.housed.stands_old hx hlt))
        (hdocument ▸ (stands_new hr hs hy hle).1))
    rcases Nat.lt_or_ge c.scope f.nextScope with hlt | hle <;>
      rcases Nat.lt_or_ge c'.scope f.nextScope with hlt' | hle'
    · have hfree : f.scopeOf? c.symbol = none := by
        by_contra hsome
        obtain ⟨s, hsome⟩ := Option.ne_none_iff_exists'.mp hsome
        exact Option.some_ne_none s ((hs.kept _ s hsome).symm.trans hscope)
      obtain ⟨r, hnone, hinside, hinside'⟩ := h.gathered c c' (hs.housed.stands_old hc hlt)
        (hs.housed.stands_old hc' hlt') hsymbol hfree
      have hkept : ∀ s < f.nextScope, b.forest.around? s = f.around? s := fun s hlt => by
        rw [around?, hs.housed.kept s hlt, around?]
      have hkeep : ∀ s t, f.around? s = some t → b.forest.around? s = some t := fun s t ht =>
        (hkept s (lt_nextScope_of_around? ht)).trans ht
      refine ⟨r, ?_, hinside.keep hkeep, hinside'.keep hkeep⟩
      exact (hkept r (Nat.lt_of_le_of_lt (hinside.le h.inward) hlt)).trans hnone
    · exact absurd hsymbol (happart c c' hc hc' hlt hle')
    · exact absurd hsymbol.symm (happart c' c hc' hc hlt' hle)
    · have hinside : ∀ x, b.forest.Stands x → x.symbol = c.symbol → f.nextScope ≤ x.scope →
          b.forest.Inside f.nextScope x.scope := by
        rintro x ⟨name, hname⟩ hx hle
        refine (hs.housed.bound _ name _ hle hname).resolve_right fun hown => ?_
        rw [hx, hscope] at hown
        cases hown
      exact ⟨f.nextScope, hs.housed.around?_eq_none, hinside c hc rfl hle,
        hinside c' hc' hsymbol.symm hle'⟩

theorem FromTexts.settled (h : FromTexts f) : f.Settled := by
  induction h with
  | empty => exact settled_empty
  | text text uri abspath limit _ ih =>
    obtain ⟨b, hrooted, hsheltered, hdocument, heq⟩ :=
      Builder.ofText_sheltered ih.inward text uri abspath limit
    rw [heq]
    exact ih.document hrooted hsheltered hdocument

/-- What a call calls is looked up from one scope. -/
theorem Settled.oneRoot (h : f.Settled) : f.OneRoot := by
  intro c c' call hc hc' hsymbol hcall
  have hscope : f.scopeOf? c.symbol = none := by
    rw [← Builder.scopeOf?_eq, hcall]
    rfl
  obtain ⟨r, hr, hinside, hinside'⟩ := h.gathered c c' hc hc' hsymbol hscope
  rw [hinside.root_eq hr h.inward hc.lt, hinside'.root_eq hr h.inward hc'.lt]

/-- In a forest of texts `resolve` comes to no answer only where there is none, however many calls
may be followed. -/
theorem FromTexts.resolve_eq_endless_iff_forall (h : FromTexts f) (documents : Documents)
    (s : ScopeId) (parts : List String) : f.resolve documents s parts = .error .endless ↔
      ∀ n, f.findDotted documents n s parts = .error .endless :=
  Forest.resolve_eq_endless_iff_forall h.settled.oneRoot

end Forest
end Wdl
