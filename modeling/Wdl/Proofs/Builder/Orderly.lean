import Wdl.Proofs.Builder.EventOrder
import Wdl.Proofs.Document.Placed

/-!
Events in the order of a walk.

While a tree is walked over whose spans keep to a layout, no node has a twin, and more can be said
than of events in any order.  `Orderly` builders are rooted, their scopes agree with the tree of the
document, and their nodes keep to the layout.  Every event that adds a node with a span that fits
keeps a builder orderly, `enter_section_entered`, `enter_leaf_entered` and `beginExpr_entered`; it
leaves the node out of the tree only with a problem.
-/

namespace Wdl
namespace Builder

structure Orderly (l : Layout) (b : Builder) : Prop where
  rooted : Rooted b
  scopes : b.forest.Scoped b.isNamespace b.document b.scope
  placed : b.forest.Placed l b.document
  /-- the scope that is current in a section is that of the innermost node around it that has one -/
  housed : ∀ c outer, c :: outer <:+ b.sections → c.rooted = true →
    ∃ o, b.forest.InTree b.document c.node o ∧
      b.forest.scopeOf? o = some (((c :: outer).findSome? Context.scope).getD b.scope)
  single : ∀ id q, b.document < id → b.forest.profile? id = some q → q.kind ≠ .document

variable {l : Layout} {b b' : Builder}

theorem isNamespace_congr (h : b'.keywords = b.keywords) : b'.isNamespace = b.isNamespace := by
  funext name
  rw [isNamespace, isNamespace, h]

namespace Orderly

theorem steady (h : Orderly l b) : Steady b := h.rooted.steady

/-- Where the current section is part of the document, its node lies in the current scope. -/
theorem around (h : Orderly l b) (hrooted : b.current.rooted = true) :
    ∃ o, b.forest.InTree b.document b.current.node o ∧
      b.forest.scopeOf? o = some b.currentScope := by
  unfold Builder.current at hrooted ⊢
  unfold Builder.currentScope
  cases hsections : b.sections with
  | nil => exact ⟨b.document, .root, h.scopes.document⟩
  | cons c outer =>
    rw [hsections] at hrooted
    exact h.housed c outer (hsections ▸ List.suffix_refl _) hrooted

/-- Order does not depend on reports, nor on which of the sections and expressions are open. -/
theorem shrink (h : Orderly l b) (halike : b.forest.Alike b'.forest)
    (hscopes : b'.forest.scopes = b.forest.scopes) (hdocument : b'.document = b.document)
    (hscope : b'.scope = b.scope) (hkeywords : b'.keywords = b.keywords)
    (hsections : b'.sections <:+ b.sections)
    (hframes : b'.frames.map Frame.place ⊆ b.frames.map Frame.place) : Orderly l b' where
  rooted := h.rooted.shrink halike hscopes hdocument hscope hsections.subset hframes
  scopes := by
    rw [isNamespace_congr hkeywords, hdocument, hscope]
    exact h.scopes.alike halike hscopes
  placed := by
    rw [hdocument]
    exact h.placed.alike halike
  housed c outer hc hrooted := by
    obtain ⟨o, ho, hos⟩ := h.housed c outer (hc.trans hsections) hrooted
    refine ⟨o, ?_, ?_⟩
    · rw [hdocument]
      exact halike.inTree ho
    · rw [halike.scopeOf?, hscope]
      exact hos
  single id q hid hq := by
    rw [hdocument] at hid
    rw [halike.profile?] at hq
    exact h.single id q hid hq

theorem quiet (h : Orderly l b) (hq : Quiet b b') : Orderly l b' :=
  h.shrink hq.alike hq.scopes hq.document hq.scope hq.keywords
    (hq.sections ▸ List.suffix_refl _) (by rw [hq.frames]; exact fun _ => id)

/-- A new node keeps a builder in order if the scopes agree with the tree and its span fits. -/
theorem sprout {q : Profile} {parent : Option NodeId} (h : Orderly l b) (hrooted : Rooted b')
    (hs : b.forest.Sprout b'.forest q parent)
    (hfits : ∀ p, parent = some p → p < b.forest.nextNode ∧ b.forest.Fits l p q.span)
    (hscoped : b'.forest.Scoped b.isNamespace b.document b.scope) (hkind : q.kind ≠ .document)
    (hdocument : b'.document = b.document) (hscope : b'.scope = b.scope)
    (hkeywords : b'.keywords = b.keywords)
    (hsections : b'.sections = b.sections ∨ ∃ c, b'.sections = c :: b.sections ∧
      (c.rooted = true → ∃ o, b'.forest.InTree b.document c.node o ∧
        b'.forest.scopeOf? o = some (((c :: b.sections).findSome? Context.scope).getD b.scope))) :
    Orderly l b' := by
  have hne : parent ≠ some b.forest.nextNode := fun heq => Nat.lt_irrefl _ (hfits _ heq).1
  have hold : ∀ c outer, c :: outer <:+ b.sections → c.rooted = true →
      ∃ o, b'.forest.InTree b'.document c.node o ∧
        b'.forest.scopeOf? o = some (((c :: outer).findSome? Context.scope).getD b'.scope) := by
    intro c outer hc hc'
    obtain ⟨o, ho, hos⟩ := h.housed c outer hc hc'
    refine ⟨o, ?_, ?_⟩
    · rw [hdocument]
      exact ho.sprout h.steady.linked hs hne
    · rw [hs.scopeOf?_of_lt (ho.lt h.steady.linked h.steady.document_lt).2, hscope]
      exact hos
  refine ⟨hrooted, ?_, ?_, fun c outer hc hc' => ?_, fun id qi hid hqi => ?_⟩
  · rw [isNamespace_congr hkeywords, hdocument, hscope]
    exact hscoped
  · rw [hdocument]
    exact h.placed.sprout h.steady.linked hs hfits
  · rcases hsections with heq | ⟨x, heq, hx⟩
    · exact hold c outer (heq ▸ hc) hc'
    · rw [heq] at hc
      rcases List.suffix_cons_iff.mp hc with hc | hc
      · obtain ⟨rfl, rfl⟩ := List.cons.inj hc
        rw [hdocument, hscope]
        exact hx hc'
      · exact hold c outer hc hc'
  · rw [hdocument] at hid
    rw [hs.profile?] at hqi
    split at hqi
    · rw [← Option.some.inj hqi]
      exact hkind
    · exact h.single id qi hid hqi

end Orderly

/-- The document has no parts yet when it is begun. -/
theorem start_parts (f : Forest) (path : String) (stop : Int) (origin : Origin)
    (source : List Char) (keywords : List String) (errors : List SyntaxError) {p : NodeId}
    (hp : f.nextNode ≤ p) :
    (start f path stop origin source keywords errors).forest.parts p = [] := by
  rw [Forest.parts]
  show Option.getD (Option.map _ ((f.addScoped _ _ _).node? p)) [] = []
  rw [Forest.node?_addScoped]
  split
  · rfl
  · rw [(f.node?_eq_none_iff).mpr hp]
    rfl

/-- A builder that has just begun its document is in order. -/
theorem start_orderly (l : Layout) (f : Forest) (path : String) (stop : Int) (origin : Origin)
    (source : List Char) (keywords : List String) (errors : List SyntaxError) :
    Orderly l (start f path stop origin source keywords errors) := by
  have hparts : ∀ p, f.nextNode ≤ p →
      (start f path stop origin source keywords errors).forest.parts p = [] :=
    fun p hp => start_parts f path stop origin source keywords errors hp
  have hscopeOf : ∀ o, f.nextNode ≤ o →
      (start f path stop origin source keywords errors).forest.scopeOf? o =
        if o = f.nextNode then some f.nextScope else none := by
    intro o ho
    rw [Forest.scopeOf?, Forest.profile?]
    show Option.bind (Option.map _ ((f.addScoped _ _ _).node? o)) _ = _
    rw [Forest.node?_addScoped]
    split
    · rfl
    · rw [(f.node?_eq_none_iff).mpr ho]
      rfl
  have hscope? : ∀ s, (start f path stop origin source keywords errors).forest.scope? s =
      if s = f.nextScope then some { node := some f.nextNode } else f.scope? s :=
    fun s => Forest.scope?_addScoped ..
  have hintree : ∀ id o, (start f path stop origin source keywords errors).forest.InTree f.nextNode
      id o → id = f.nextNode ∧ o = f.nextNode := by
    intro id o h
    induction h with
    | root => exact ⟨rfl, rfl⟩
    | owner _ hc _ ih | inner _ hc _ ih =>
      rw [ih.1, Forest.mem_children, hparts _ (Nat.le_refl _)] at hc
      exact absurd hc List.not_mem_nil
  refine ⟨start_rooted .., ⟨?_, fun o s ho hos => ?_, fun s sc hle hsc => ?_⟩, .of_alone hparts,
    fun c outer hc => ?_, fun id q hid hq => ?_⟩
  · exact (hscopeOf _ (Nat.le_refl _)).trans (if_pos rfl)
  · rw [hscopeOf o ho] at hos
    split at hos
    · next heq =>
      rw [← Option.some.inj hos, hscope?, if_pos rfl]
      exact ⟨Nat.le_refl _, _, rfl, congrArg some heq.symm⟩
    · cases hos
  · rw [hscope?] at hsc
    split at hsc
    · have hdir : ∀ p id, ¬ (start f path stop origin source keywords errors).forest.Directly
          f.nextNode s p id := by
        rintro p id ⟨o, ho, -, hc⟩
        rw [(hintree _ _ ho).1, Forest.mem_children, hparts _ (Nat.le_refl _)] at hc
        exact absurd hc List.not_mem_nil
      rw [← Option.some.inj hsc]
      refine Forest.Reflects.new none f.nextNode hdir fun name id => ?_
      refine iff_of_false (fun hb => ?_) List.not_mem_nil
      cases hb with
      | symbol hd _ _ _ => exact hdir _ _ hd
      | loop ht hq _ hv =>
        rw [(hintree _ _ ht).1, Forest.profile?] at hq
        have hnode := Forest.node?_addScoped f (fun s => .document { path, scope := s }) ⟨0, stop⟩
          none f.nextNode
        rw [if_pos rfl] at hnode
        change Option.map _ ((f.addScoped _ _ _).node? _) = _ at hq
        rw [hnode] at hq
        rw [← Option.some.inj hq] at hv
        cases hv
    · exact absurd (Forest.lt_of_scope? hsc) (Nat.not_lt_of_le hle)
  · exact absurd (List.suffix_nil.mp hc) (List.cons_ne_nil _ _)
  · exfalso
    have hlt := Forest.lt_of_profile? _ hq
    have hnext : (start f path stop origin source keywords errors).forest.nextNode =
        f.nextNode + 1 := Forest.nextNode_addScoped ..
    rw [hnext] at hlt
    exact absurd hid (Nat.not_lt_of_le (Nat.le_of_lt_succ hlt))

/-! ## What an event adds -/

/-- An event adds the node of a production, and offers it to `host`, which has no twin of it.  If it
does not become a part of it, that is a problem. -/
structure Entered (l : Layout) (b b' : Builder) (t : Tree) (host : NodeId) : Prop where
  orderly : Orderly l b'
  sprout : ∃ q parent, b.forest.Sprout b'.forest q parent ∧ t.spot? = some (q.kind, q.span) ∧
    (parent = some host ∨ parent = none ∧ b'.problems ≠ b.problems)
  document : b'.document = b.document
  scope : b'.scope = b.scope
  keywords : b'.keywords = b.keywords

/-- Reports that come before the node do not matter. -/
theorem Entered.of_reports {errors : List SyntaxError} {problems : List DocumentProblem} {t : Tree}
    {host : NodeId} (h : Entered l (b.withReports errors (b.problems ++ problems)) b' t host)
    (hproblems : b.problems ++ problems <+: b'.problems) : Entered l b b' t host := by
  obtain ⟨q, parent, hsprout, hspot, hparent⟩ := h.sprout
  refine ⟨h.orderly, ⟨q, parent, hsprout, hspot, ?_⟩, h.document, h.scope, h.keywords⟩
  refine hparent.imp_right fun ⟨hnone, hne⟩ => ⟨hnone, fun heq => hne ?_⟩
  rw [heq] at hproblems ⊢
  have hnil : problems = [] := by
    have := hproblems.length_le
    rw [List.length_append] at this
    exact List.eq_nil_of_length_eq_zero (by omega)
  show b.problems = b.problems ++ problems
  rw [hnil, List.append_nil]

/-! ## Sections -/

section Sections

variable {path : Tree.Path} {t : Tree} {body : Body} {name : Option String} {id : NodeId}
  {parent : Option NodeId} {accepted : Bool}

theorem introduce_scope? (hscope : body.scope? = none ∨ body.scope? = some b.forest.nextScope)
    (s : ScopeId) : (b.introduce t body).forest.scope? s =
      if body.scope? = some s then some { node := some b.forest.nextNode }
      else b.forest.scope? s := by
  unfold introduce
  rcases hscope with hnone | hown
  · rw [hnone, if_neg (Option.some_ne_none s).symm]
    rfl
  · rw [hown]
    dsimp only
    rw [Forest.scope?_addScope]
    show (if s = b.forest.nextScope then _ else b.forest.scope? s) = _
    simp only [Option.some.injEq, eq_comm]

/-- The scope around a section that is part of the document is there. -/
theorem Orderly.exists_scope (h : Orderly l b) (hrooted : b.current.rooted = true) :
    ∃ sc, b.forest.scope? b.currentScope = some sc := by
  obtain ⟨o, ho, hos⟩ := h.around hrooted
  obtain ⟨-, sc, hsc, -⟩ := h.scopes.owned o _ (ho.le h.steady.linked).2 hos
  exact ⟨sc, hsc⟩

/-- A section is bound under the name that it has to be bound under. -/
theorem Opening.symbolIn {p : Production} {cs : List Tree} (ho : b.Opening p cs body name)
    {above : Profile} (habove : b.forest.profile? b.current.node = some above) (span : Span) :
    name = (body.profile span).symbolIn b.isNamespace above := by
  have himport : (body.kind != .importDoc) = true := by
    have := ho.kind
    rw [bne_iff_ne]
    intro heq
    rw [heq] at this
    cases p <;> exact nomatch this
  have hstruct : ((b.forest.body? b.current.node).map Body.isStruct).getD false =
      above.isStruct := by
    obtain ⟨n, hn, rfl⟩ := Option.map_eq_some_iff.mp habove
    rw [Forest.body?, hn]
    rfl
  rw [ho.name, isMember, hstruct]
  show _ = body.symbol?.filter fun name =>
    !(above.isStruct && body.kind == .declaration && !body.isStruct) &&
      (body.kind != .importDoc || b.isNamespace name)
  rw [himport]
  cases above.isStruct <;> cases body.kind == .declaration <;> cases body.isStruct <;>
    cases body.symbol? <;> rfl

/-- The node of a section that is grafted onto the document is taken up by the scope around it. -/
theorem enrolls_of_grafted {f g k : Forest} (h : Orderly l b)
    (hscope : body.scope? = none ∨ body.scope? = some b.forest.nextScope)
    (hrooted : b.current.rooted = true)
    (hbind : (b.introduce t body).forest.bind? b.forest.nextNode (b.bindingFor name) = .ok f)
    (hg : g.scopes = f.scopes)
    (hvariable : ∀ s, k.scope? s = if body.scope? = some s then
        ((b.nestScope g body.scope?).scope? s).map fun sc =>
          { sc with symbols := sc.symbols ++ body.loopName?.toList.map fun n => (n, b.forest.nextNode) }
      else (b.nestScope g body.scope?).scope? s) (span : Span) :
    b.forest.Enrolls k b.currentScope b.forest.nextNode (body.profile span) name := by
  obtain ⟨sc₀, hsc₀⟩ := h.exists_scope hrooted
  rw [bindingFor, if_pos hrooted] at hbind
  have hbound := Forest.bind?_scope? hbind
  have hsame : ∀ s, g.scope? s = f.scope? s := fun s => by rw [Forest.scope?, hg, Forest.scope?]
  have hown : ∀ s, body.scope? = some s → s = b.forest.nextScope ∧ b.currentScope ≠ s := by
    intro s hs
    rcases hscope with hnone | hnew
    · cases hnone.symm.trans hs
    · obtain rfl := Option.some.inj (hnew.symm.trans hs)
      exact ⟨rfl, Nat.ne_of_lt (Forest.lt_of_scope? hsc₀)⟩
  have hnest : ∀ s, (b.nestScope g body.scope?).scope? s =
      if b.currentScope = s then (f.scope? s).map fun sc =>
        { sc with children := sc.children ++ body.scope?.toList }
      else if body.scope? = some s then (f.scope? s).map fun sc =>
        { sc with parent := some b.currentScope }
      else f.scope? s := by
    intro s
    unfold nestScope
    cases hs : body.scope? with
    | none =>
      dsimp only
      rw [hsame]
      split <;> simp
    | some own =>
      dsimp only
      rw [if_pos hrooted, Forest.pushScope_scope? _ (hown own hs).2, hsame]
      simp
  have hnew : ∀ s, (b.introduce t body).forest.scope? s = _ := introduce_scope? hscope
  refine ⟨fun sc hsc => ?_, fun s hs => ?_, fun s hne hs => ?_, fun sc n hsc hn => ?_⟩
  · have hs : body.scope? ≠ some b.currentScope := fun heq => (hown _ heq).2 rfl
    rw [hvariable, if_neg hs, hnest, if_pos rfl, hbound, if_pos rfl, hnew, if_neg hs, hsc]
    rfl
  · replace hs : body.scope? = some s := hs
    have hne := (hown s hs).2
    refine ⟨(hown s hs).1, ?_⟩
    rw [hvariable, if_pos hs, hnest, if_neg hne, if_pos hs, hbound, if_neg hne, hnew, if_pos hs]
    rfl
  · have hs : body.scope? ≠ some s := hs
    rw [hvariable, if_neg hs, hnest, if_neg (Ne.symm hne), if_neg hs, hbound, if_neg (Ne.symm hne),
      hnew, if_neg hs]
  · have hs : body.scope? ≠ some b.currentScope := fun heq => (hown _ heq).2 rfl
    refine Forest.bind?_fresh hbind ?_ hn
    rw [hnew, if_neg hs, hsc]

/-- The node of a section that is not part of the document is ignored by the scopes. -/
theorem ignores_of_scopes {g : Forest}
    (hscope : body.scope? = none ∨ body.scope? = some b.forest.nextScope)
    (hg : g.scopes = (b.introduce t body).forest.scopes) (span : Span) :
    b.forest.Ignores g b.forest.nextNode (body.profile span) := by
  have hsame : ∀ s, g.scope? s = (b.introduce t body).forest.scope? s :=
    fun s => by rw [Forest.scope?, hg, Forest.scope?]
  refine ⟨fun s hs => ?_, fun s hs => ?_⟩
  · have hs : body.scope? = some s := hs
    refine ⟨?_, by rw [hsame, introduce_scope? hscope, if_pos hs]⟩
    rcases hscope with hnone | hnew
    · cases hnone.symm.trans hs
    · exact Option.some.inj (hs.symm.trans hnew)
  · have hs : body.scope? ≠ some s := hs
    rw [hsame, introduce_scope? hscope, if_neg hs]

/-! ### The beginning of a section -/

theorem current_of_sections {c : Context} {outer : List Context} (h : b.sections = c :: outer) :
    b.current = c := by
  rw [current, h]
  rfl

theorem Body.scope?_of_loopName? {body : Body} {v : String} (h : body.loopName? = some v) :
    body.scope?.isSome = true := by
  cases body <;> first | rfl | exact nomatch h

/-- A node that has no twin is either refused, which is a problem, or grafted. -/
theorem Opened.parent_cases {b₁ : Builder} (ho : b.Opened path t body name b₁ id parent accepted)
    (hfits : b.forest.Fits l b.current.node t.span) : id = b.forest.nextNode ∧
      (parent = some b.current.node ∨ parent = none ∧ b₁.problems.length > b.problems.length) := by
  cases ho with
  | refused problem => exact ⟨rfl, .inr ⟨rfl, by simp⟩⟩
  | twin hmem hq _ hspan => exact absurd hspan (hfits.ne hmem hq)
  | grafted _ _ _ => exact ⟨rfl, .inl rfl⟩

/-- The scopes agree with the tree after a section has been opened and its variable, if it has one,
has been bound. -/
theorem Opened.scopes {b₁ b₂ : Builder} {p : Production} {cs : List Tree}
    (ho : b.Opened path t body name b₁ id parent accepted) (h : Orderly l b)
    (hopening : b.Opening p cs body name) (hfits : b.forest.Fits l b.current.node t.span)
    (hreports : ∃ errors problems, b₂ = b₁.withReports errors problems)
    (hn : b₂.Named body.loopName? b') (hvariable : ∀ v, body.loopName? = some v → v ≠ "") :
    b'.forest.Scoped b.isNamespace b.document b.scope := by
  obtain ⟨errors, problems, rfl⟩ := hreports
  have hsprout := ho.sprout hopening.parts
  have hcurrent : (b₁.withReports errors problems).current =
      ⟨path, id, body.scope?, accepted && b.current.rooted⟩ := current_of_sections ho.sections
  have hl := h.steady.linked
  have hd := h.steady.document_lt
  have hne : parent ≠ some b.forest.nextNode := fun heq =>
    Nat.ne_of_lt h.steady.current.2 (ho.parent_eq heq).symm
  -- outside of the document nothing is bound
  have hloose : (accepted && b.current.rooted) = false → b' = b₁.withReports errors problems := by
    intro hfalse
    cases hn with
    | nothing => rfl
    | refused _ hrooted _ _ | bound _ hrooted _ _ =>
      rw [hcurrent] at hrooted
      exact absurd (hfalse.symm.trans hrooted) Bool.false_ne_true
  have hown : (b₁.withReports errors problems).forest.scopeOf? b.forest.nextNode = body.scope? := by
    show b₁.forest.scopeOf? _ = _
    rw [hsprout.scopeOf?, if_pos rfl]
    rfl
  cases ho with
  | refused problem =>
    rw [hloose rfl]
    exact h.scopes.ignore hl hd hsprout (fun _ hp => (Option.some_ne_none _ hp.symm).elim) hne
      (ignores_of_scopes hopening.scope rfl t.span)
  | twin hmem hq _ hspan => exact absurd hspan (hfits.ne hmem hq)
  | @grafted f g hbind hg hgraft =>
    cases hrooted : b.current.rooted with
    | false =>
      have hbinding : b.bindingFor name = none := by
        rw [bindingFor, hrooted, if_neg Bool.false_ne_true]
      have hnest : b.nestScope g body.scope? = g := by
        unfold nestScope
        rw [hrooted]
        split <;> rfl
      rw [hbinding] at hbind
      rw [hloose (by rw [hrooted]; rfl)]
      refine h.scopes.ignore hl hd hsprout (fun p hp o ho => ?_) hne
        (ignores_of_scopes (t := t) hopening.scope ?_ t.span)
      · obtain rfl := Option.some.inj hp
        have := h.rooted.current.mpr ⟨o, ho⟩
        rw [hrooted] at this
        cases this
      · show (b.nestScope g body.scope?).scopes = _
        rw [hnest, hg, ← Except.ok.inj hbind]
    | true =>
      obtain ⟨o, hintree, hos⟩ := h.around hrooted
      obtain ⟨above, habove⟩ := b.forest.exists_profile? h.steady.current.2
      have henrolls := enrolls_of_grafted (k := b'.forest) h hopening.scope hrooted hbind hg
        (fun s => ?_) t.span
      · rw [hopening.symbolIn habove t.span] at henrolls
        have hforest : b.forest.Sprout b'.forest (body.profile t.span) (some b.current.node) :=
          hsprout.alike hn.alike
        exact h.scopes.enroll hl hd hforest (Nat.ne_of_lt h.steady.current.2) hintree hos habove
          henrolls
      · cases hn with
        | nothing hnone =>
          have hloop : body.loopName? = none := by
            rcases hnone with hnone | hfalse | hnone
            · exact hnone
            · rw [hcurrent] at hfalse
              rw [Bool.true_and, hrooted] at hfalse
              cases hfalse
            · rw [hcurrent, hown] at hnone
              refine Option.eq_none_iff_forall_ne_some.mpr fun v hv => ?_
              have := Body.scope?_of_loopName? hv
              rw [hnone] at this
              cases this
          rw [hloop]
          show (b.nestScope g body.scope?).scope? s = _
          split <;> simp
        | @refused own v problem hv _ hs hdefine =>
          exfalso
          rw [hcurrent] at hs hdefine
          rw [hown] at hs
          have hne : b.currentScope ≠ own := by
            obtain ⟨sc, hsc⟩ := h.exists_scope hrooted
            rcases hopening.scope with hnone | hnew
            · cases hnone.symm.trans hs
            · obtain rfl := Option.some.inj (hnew.symm.trans hs)
              exact Nat.ne_of_lt (Forest.lt_of_scope? hsc)
          have hempty : (b.nestScope g body.scope?).scope? own =
              some { node := some b.forest.nextNode, parent := some b.currentScope } := by
            rw [bindingFor, if_pos hrooted] at hbind
            have hg' : g.scope? own = f.scope? own := by rw [Forest.scope?, hg, Forest.scope?]
            unfold nestScope
            rw [hs]
            dsimp only
            rw [if_pos hrooted, Forest.pushScope_scope? _ hne, if_neg hne, if_pos rfl, hg',
              Forest.bind?_scope? hbind, if_neg hne, introduce_scope? hopening.scope, if_pos hs]
            rfl
          have := Forest.define_empty b.forest.nextNode (hvariable v hv) hempty rfl
          cases (this.symm.trans hdefine : Except.ok _ = Except.error problem)
        | @bound own v g' hv _ hs hdefine =>
          rw [hcurrent] at hs hdefine
          rw [hown] at hs
          rw [(Forest.define_ok hdefine).2.2, hv, hs]
          dsimp only
          rw [Forest.scope?_modifyScope]
          simp only [Option.some.injEq]
          rfl

theorem enter_section_entered {p : Production} {kind : Kind} (hp : p.sectionKind? = some kind)
    (path : Tree.Path) (e : Option Extent) (cs : List Tree) (h : Orderly l b)
    (hfits : b.forest.Fits l b.current.node (Tree.node p e cs).span)
    (hvariable : p = .scatter → (Tree.node p none cs).childText 0 ≠ "") :
    Entered l b (b.enter path (.node p e cs)) (.node p e cs) b.current.node ∧
      (b.enter path (.node p e cs)).frames = b.frames ∧
      ∃ c, (b.enter path (.node p e cs)).sections = c :: b.sections ∧ c.path = path ∧
        c.node = b.forest.nextNode := by
  obtain ⟨body, name, hopening, errors, henter⟩ := b.enter_section hp path e cs
  obtain ⟨id, parent, accepted, ho⟩ :=
    openNew_opened h.steady path (.node p e cs) hopening.parts name
  have hrooted := (enter_section_advances hp path e cs h.rooted).rooted
  have hkind : (Tree.node p e cs).spot? = some (body.kind, (Tree.node p e cs).span) := by
    have hnode : p.nodeKind? = some body.kind := by
      rw [← hopening.kind]
      cases p <;> first | rfl | exact nomatch hp
    exact congrArg (Option.map fun k => (k, (Tree.node p e cs).span)) hnode
  rw [henter] at hrooted ⊢
  generalize b.openNew path (.node p e cs) body name = b₁ at ho hrooted ⊢
  have hn := bindVariable_named (b₁.withReports (b.syntaxErrors ++ errors) b₁.problems)
    body.loopName?
  generalize (b₁.withReports (b.syntaxErrors ++ errors) b₁.problems).bindVariable body.loopName? =
    b' at hn hrooted ⊢
  obtain ⟨rfl, hparent⟩ := ho.parent_cases hfits
  obtain ⟨hdocument, hscope, hkeywords, hframes⟩ := ho.document
  obtain ⟨hdocument', hscope', hkeywords', hsections', hframes'⟩ := hn.fields
  have hsprout : b.forest.Sprout b'.forest (body.profile (Tree.node p e cs).span) parent :=
    (ho.sprout hopening.parts).alike hn.alike
  have hscoped := ho.scopes h hopening hfits ⟨_, _, rfl⟩ hn fun v hv => by
    obtain ⟨hscatter, rfl⟩ := hopening.loopVariable v hv
    exact hvariable hscatter
  have hsections : b'.sections = _ :: b.sections := hsections'.trans ho.sections
  refine ⟨⟨?_, ⟨_, parent, hsprout, hkind, ?_⟩, hdocument'.trans hdocument, hscope'.trans hscope,
    hkeywords'.trans hkeywords⟩, hframes'.trans hframes, _, hsections, rfl, rfl⟩
  · refine h.sprout hrooted hsprout (fun p' hp' => ?_) hscoped ?_ (hdocument'.trans hdocument)
      (hscope'.trans hscope) (hkeywords'.trans hkeywords) (.inr ⟨_, hsections, fun hc => ?_⟩)
    · rw [ho.parent_eq hp']
      exact ⟨h.steady.current.2, hfits⟩
    · intro heq
      have := hopening.kind
      rw [show body.kind = .document from heq] at this
      cases p <;> exact nomatch this
    · -- the new section is part of the document, and so is the one around it
      rw [Bool.and_eq_true] at hc
      obtain ⟨o, ho', hos⟩ := h.around hc.2
      have hgrafted : parent = some b.current.node := by
        cases ho with
        | refused => exact nomatch hc.1
        | twin hmem hq _ hspan => exact absurd hspan (hfits.ne hmem hq)
        | grafted => rfl
      have hne : parent ≠ some b.forest.nextNode := by
        rw [hgrafted]
        exact fun heq => Nat.ne_of_lt h.steady.current.2 (Option.some.inj heq)
      have hnew : b'.forest.scopeOf? b.forest.nextNode = body.scope? := by
        rw [hsprout.scopeOf?, if_pos rfl]
        rfl
      refine ⟨_, (hsprout.inTree_iff h.steady.linked hne).mpr
        (.inr ⟨rfl, _, o, hgrafted, ho', rfl⟩), ?_⟩
      rw [List.findSome?_cons]
      cases hs : body.scope? with
      | some s =>
        rw [show (body.profile (Tree.node p e cs).span).scope = some s from hs, Option.isSome_some,
          if_pos rfl, hnew, hs]
        rfl
      | none =>
        rw [show (body.profile (Tree.node p e cs).span).scope = none from hs, Option.isSome_none,
          if_neg Bool.false_ne_true,
          hsprout.scopeOf?_of_lt (ho'.lt h.steady.linked h.steady.document_lt).2]
        exact hos
  · refine hparent.imp_right fun ⟨hnone, hlonger⟩ => ⟨hnone, fun heq => ?_⟩
    have hgrows := hn.problems
    rw [heq] at hgrows
    exact Nat.not_lt_of_le hgrows.length_le hlonger

end Sections
/-! ## Imports and metadata -/

theorem Body.kind_of_accepts_import {body : Body} (h : body.accepts .importDoc = true) :
    body.kind = .document := by
  cases body with
  | document d => rfl
  | block k items => cases k <;> exact nomatch h
  | _ => exact nomatch h

/-- Only the document itself takes in imports. -/
theorem Orderly.current_of_import (h : Orderly l b) {above : Body} {span : Span}
    (habove : b.forest.profile? b.current.node = some (above.profile span))
    (haccepts : above.accepts .importDoc = true) : b.sections = [] := by
  cases hsections : b.sections with
  | nil => rfl
  | cons c outer =>
    rw [current_of_sections hsections] at habove
    have hlt := (h.steady.sections c (hsections ▸ List.mem_cons_self)).1
    exact absurd (Body.kind_of_accepts_import haccepts) (h.single _ _ hlt habove)

/-- The scopes agree with the tree after an import has been offered to the current section. -/
theorem Leafed.scopes_import {t : Tree} {body : ImportBody} {parent : Option NodeId}
    (h : Orderly l b) (hl : b.Leafed t (.importDoc body)
      (if b.isNamespace body.namespaceName && b.current.rooted then
        some (b.scope, body.namespaceName) else none) b' parent)
    (hfits : b.forest.Fits l b.current.node t.span) :
    b'.forest.Scoped b.isNamespace b.document b.scope := by
  have hlinked := h.steady.linked
  have hd := h.steady.document_lt
  have hsprout := hl.sprout rfl
  have hne : parent ≠ some b.forest.nextNode := fun heq =>
    Nat.ne_of_lt h.steady.current.2 (hl.parent_eq heq).symm
  cases hl with
  | refused problem =>
    exact h.scopes.ignore hlinked hd hsprout (fun p hp => nomatch hp) hne
      ⟨fun s hs => (nomatch hs), fun s _ => rfl⟩
  | twin hmem hq _ hspan => exact absurd hspan (hfits.ne hmem hq)
  | @grafted f g above span habove haccepts hbind hg hgraft =>
    have hsections := h.current_of_import habove haccepts
    have hrooted : b.current.rooted = true := by
      rw [current, hsections]
      rfl
    have hscope : b.currentScope = b.scope := by
      rw [currentScope, hsections]
      rfl
    obtain ⟨o, hintree, hos⟩ := h.around hrooted
    rw [hscope] at hos
    -- a name that is not valid is not bound
    have hname : (if b.isNamespace body.namespaceName && b.current.rooted then
        some (b.scope, body.namespaceName) else none) =
        (((Body.importDoc body).profile t.span).symbolIn b.isNamespace
          (above.profile span)).map (b.scope, ·) := by
      have hsymbol : ((Body.importDoc body).profile t.span).symbolIn b.isNamespace
          (above.profile span) = (some body.namespaceName).filter fun name =>
            !((above.profile span).isStruct && false && true) && (false || b.isNamespace name) :=
        rfl
      rw [hsymbol, hrooted]
      cases hvalid : b.isNamespace body.namespaceName <;> simp [Option.filter, hvalid]
    rw [hname] at hbind
    have hbound := Forest.bind?_scope? hbind
    have hsame : ∀ s, g.scope? s = f.scope? s := fun s => by
      rw [Forest.scope?, hg, Forest.scope?]
    refine h.scopes.enroll hlinked hd hgraft (Nat.ne_of_lt h.steady.current.2) hintree hos habove
      ⟨fun sc hsc => ?_, fun s hs => (nomatch hs), fun s hs _ => ?_, fun sc n hsc hn => ?_⟩
    · rw [hsame, hbound, if_pos rfl]
      show Option.map _ (b.forest.scope? b.scope) = _
      rw [hsc]
      exact congrArg some (by simp [Body.profile, Body.scope?])
    · rw [hsame, hbound, if_neg (Ne.symm hs)]
      rfl
    · exact Forest.bind?_fresh hbind hsc hn

theorem Leafed.scopes_unbound {t : Tree} {body : Body} {parent : Option NodeId}
    (hl : b.Leafed t body none b' parent) : b'.forest.scopes = b.forest.scopes := by
  cases hl with
  | refused | twin => rfl
  | grafted _ _ hbind hscopes _ =>
    rw [hscopes, ← Except.ok.inj hbind]
    rfl

/-- What a node that no section is opened for adds. -/
theorem Leafed.entered {t : Tree} {body : Body} {binding : Option (ScopeId × String)}
    {parent : Option NodeId} (hl : b.Leafed t body binding b' parent) (h : Orderly l b)
    (hparts : body.parts = []) (hfits : b.forest.Fits l b.current.node t.span)
    (hspot : t.spot? = some (body.kind, t.span)) (hkind : body.kind ≠ .document)
    (hbinding : binding ≠ none → b.current.rooted = true)
    (hscoped : b'.forest.Scoped b.isNamespace b.document b.scope) :
    Entered l b b' t b.current.node ∧ b'.sections = b.sections ∧ b'.frames = b.frames := by
  obtain ⟨hdocument, hscope, hkeywords, hsections, hframes⟩ := hl.fields
  have hsprout := hl.sprout hparts
  refine ⟨⟨?_, ⟨_, parent, hsprout, hspot, ?_⟩, hdocument, hscope, hkeywords⟩, hsections, hframes⟩
  · refine h.sprout (hl.advances h.rooted hparts hbinding).rooted hsprout (fun p hp => ?_) hscoped
      hkind hdocument hscope hkeywords (.inl hsections)
    rw [hl.parent_eq hp]
    exact ⟨h.steady.current.2, hfits⟩
  · cases hl with
    | refused problem => exact .inr ⟨rfl, by simp⟩
    | twin hmem hq _ hspan => exact absurd hspan (hfits.ne hmem hq)
    | grafted => exact .inl rfl

/-- An import is offered to the current section after reports about it. -/
theorem addImportLeaf_entered {t : Tree} (h : Orderly l b) (errors : List SyntaxError)
    (problems : List DocumentProblem) (body : ImportBody)
    (hfits : b.forest.Fits l b.current.node t.span) (hspot : t.spot? = some (.importDoc, t.span))
    {b₁ : Builder} (hb₁ : b₁ = ((b.withReports errors (b.problems ++ problems)).addNode t
      (.importDoc body)).attachLeaf b.forest.nextNode
        (if b.isNamespace body.namespaceName && b.current.rooted then
          some (b.scope, body.namespaceName) else none)) :
    Entered l b b₁ t b.current.node ∧ b₁.sections = b.sections ∧ b₁.frames = b.frames := by
  have h' := h.quiet (.withReports b errors problems)
  obtain ⟨parent, hl⟩ := attachLeaf_leafed h'.steady t (.importDoc body) rfl
    (if b.isNamespace body.namespaceName && b.current.rooted then
      some (b.scope, body.namespaceName) else none)
  have hrooted : (if b.isNamespace body.namespaceName && b.current.rooted then
      some (b.scope, body.namespaceName) else none) ≠ none → b.current.rooted = true := by
    intro hne
    split at hne
    · next hvalid => exact (Bool.and_eq_true _ _ ▸ hvalid).2
    · exact absurd rfl hne
  have hscoped := Leafed.scopes_import h' hl hfits
  have hentered := hl.entered h' rfl hfits hspot (by exact nofun) hrooted hscoped
  have hproblems := hl.problems
  rw [hb₁]
  exact ⟨hentered.1.of_reports hproblems, hentered.2.1, hentered.2.2⟩

/-- An import or an entry of metadata is offered to the current section, unless it is left out with
an error. -/
theorem enter_leaf_entered {p : Production} (hp : p.isLeaf = true) (path : Tree.Path)
    (e : Option Extent) (cs : List Tree) (h : Orderly l b)
    (hfits : b.forest.Fits l b.current.node (Tree.node p e cs).span)
    (hnodes : p = .importDoc → (Tree.node p e cs).nodes ≠ []) :
    (Entered l b (b.enter path (.node p e cs)) (.node p e cs) b.current.node ∧
      (b.enter path (.node p e cs)).sections = b.sections ∧
      (b.enter path (.node p e cs)).frames = b.frames) ∨
    (Quiet b (b.enter path (.node p e cs)) ∧
      (b.enter path (.node p e cs)).syntaxErrors ≠ b.syntaxErrors) := by
  cases p <;> simp only [Production.isLeaf, Bool.false_eq_true] at hp
  case importDoc =>
    rw [show b.enter path (.node .importDoc e cs) = b.addImport (.node .importDoc e cs) from rfl]
    rcases b.addImport_eq (.node .importDoc e cs) with
      ⟨hnone, -⟩ | ⟨error, heq⟩ | ⟨errors, problems, body, heq⟩
    · exact absurd hnone (hnodes rfl)
    · refine .inr ⟨?_, ?_⟩
      · rw [heq]
        exact .withErrors b _
      · rw [heq]
        simp [withReports]
    · left
      exact addImportLeaf_entered h (b.syntaxErrors ++ errors) problems body hfits rfl heq
  case metaEntry =>
    left
    rw [show b.enter path (.node .metaEntry e cs) = b.addMetaEntry (.node .metaEntry e cs) from rfl]
    obtain ⟨key, value, heq⟩ := b.addMetaEntry_eq (.node .metaEntry e cs)
    obtain ⟨parent, hl⟩ := attachLeaf_leafed h.steady (.node .metaEntry e cs)
      (.entry { key, value }) rfl none
    rw [heq]
    refine hl.entered h rfl hfits rfl (by intro h; cases h) (fun hne => absurd rfl hne) ?_
    have hne : parent ≠ some b.forest.nextNode := fun heq =>
      Nat.ne_of_lt h.steady.current.2 (hl.parent_eq heq).symm
    refine h.scopes.plain h.steady.linked h.steady.document_lt (hl.sprout rfl) hne
      hl.scopes_unbound rfl rfl

/-! ## Expressions -/

/-- An expression that fits keeps a builder in order. -/
theorem Begun.orderly {path : Tree.Path} {t : Tree} {parent : Option NodeId}
    (hb : Begun b b' path t parent) (h : Orderly l b) (hfits : b.forest.Fits l b.host t.span) :
    Orderly l b' := by
  have hne : parent ≠ some b.forest.nextNode := fun heq =>
    Nat.ne_of_lt h.steady.host.2 (hb.parent_eq heq).symm
  refine h.sprout (hb.advances h.rooted).rooted hb.sprout (fun p hp => ?_) ?_ (by exact nofun)
    hb.document hb.scope hb.keywords (.inl hb.sections)
  · rw [hb.parent_eq hp]
    exact ⟨h.steady.host.2, hfits⟩
  · exact h.scopes.plain h.steady.linked h.steady.document_lt hb.sprout hne hb.scopes rfl rfl

/-- An expression is offered to the one around it, or else to the current section, which must not be
the document itself. -/
theorem beginExpr_entered (h : Orderly l b) (path : Tree.Path) {t : Tree}
    (hspot : t.spot? = some (.expression, t.span)) (hfits : b.forest.Fits l b.host t.span)
    (hhost : b.frames = [] → b.sections ≠ []) :
    Entered l b (b.beginExpr path t) t b.host ∧
      (b.beginExpr path t).sections = b.sections ∧
      (b.beginExpr path t).frames.map Frame.place =
        (path, b.forest.nextNode) :: b.frames.map Frame.place := by
  obtain ⟨parent, hb⟩ := beginExpr_begun h.steady path t
  refine ⟨⟨hb.orderly h hfits, ⟨_, parent, hb.sprout, hspot, ?_⟩, hb.document, hb.scope,
    hb.keywords⟩, hb.sections, hb.frames⟩
  cases hb.hosted with
  | refused hproblems => exact .inr ⟨rfl, hproblems⟩
  | twin hmem hq _ hspan => exact absurd hspan (hfits.ne hmem hq)
  | alone hnone hkind =>
    exfalso
    obtain ⟨c, outer, hsections⟩ := List.exists_cons_of_ne_nil (hhost hnone)
    rw [current_of_sections hsections] at hkind
    obtain ⟨n, hn, hkind⟩ := Option.map_eq_some_iff.mp hkind
    exact h.single _ _ (h.steady.sections c (hsections ▸ List.mem_cons_self)).1
      (Forest.profile?_of_node? _ hn) hkind
  | grafted => exact .inl rfl

end Builder
end Wdl
