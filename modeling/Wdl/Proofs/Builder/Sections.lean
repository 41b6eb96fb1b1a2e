import Wdl.Proofs.Builder.Errors
import Wdl.Proofs.Document.Links

/-!
Opening and closing sections.

All productions with a section begin in the same way, `enter_section`: a node without parts is
added, with a scope if it has one, and a section is opened for it; only the variable of a scatter is
bound after that.  `openSection_cases` says what opening a section can do: the node is refused, or
it is bound and grafted onto the section around it.
-/

namespace Wdl
namespace Builder

variable (b : Builder)

/-- Adds the node of a new section, with its scope if it has one. -/
def introduce (t : Tree) (body : Body) : Builder :=
  match body.scope? with
  | none => b.addNode t body
  | some _ =>
    { b with
      forest := (b.addNode t body).forest.addScope { node := some b.forest.nextNode } }

/-- Opens the section of a new node. -/
def openNew (path : Tree.Path) (t : Tree) (body : Body) (name : Option String) : Builder :=
  (b.introduce t body).openSection path b.forest.nextNode name body.scope?

theorem openNew_errors (path : Tree.Path) (t : Tree) (body : Body) (name : Option String) :
    (b.openNew path t body name).syntaxErrors = b.syntaxErrors := by
  rw [openNew, openSection_errors]
  unfold introduce
  split <;> rfl

/-- Binds the variable of a scatter that has just been opened. -/
def bindVariable (loopName? : Option String) : Builder :=
  match loopName? with
  | none => b
  | some name =>
    let c := b.current
    if c.rooted then
      match (b.forest.body? c.node).bind Body.scope? with
      | some own =>
        match b.forest.define own name c.node with
        | .ok forest => { b with forest }
        | .error p => b.report p c.node
      | none => b
    else b

/-- Whether a declaration would be a member of a struct. -/
def isMember (body : Body) : Bool :=
  body.kind == .declaration && !body.isStruct &&
    ((b.forest.body? b.current.node).map Body.isStruct).getD false

/-- What a production with a section begins with: a node without parts, and the name under which it
is to be bound. -/
structure Opening (p : Production) (cs : List Tree) (body : Body) (name : Option String) :
    Prop where
  kind : p.sectionKind? = some body.kind
  parts : body.parts = []
  scope : body.scope? = none ∨ body.scope? = some b.forest.nextScope
  name : name = if b.isMember body then none else body.symbol?
  loopVariable : ∀ v, body.loopName? = some v → p = .scatter ∧ v = (Tree.node p none cs).childText 0

/-- What is neither a declaration nor a scatter is bound under its own name. -/
theorem Opening.plain {p : Production} (cs : List Tree) {body : Body}
    (hkind : p.sectionKind? = some body.kind) (hparts : body.parts = [])
    (hscope : body.scope? = none ∨ body.scope? = some b.forest.nextScope)
    (hmember : (body.kind == .declaration && !body.isStruct) = false)
    (hvariable : body.loopName? = none) : b.Opening p cs body body.symbol? where
  kind := hkind
  parts := hparts
  scope := hscope
  name := by rw [isMember, hmember, Bool.false_and, if_neg Bool.false_ne_true]
  loopVariable v hv := nomatch hvariable.symm.trans hv

/-- What a call is made with. -/
def callBody (t : Tree) : CallBody where
  target := match (t.childrenOf .callTarget).getLast? with
    | some c => ".".intercalate (c.children.filterMap Tree.tokenText?)
    | none => ""
  nickname := ((t.childrenOf .callAlias).getLast?.map (·.childText 0)).getD ""
  afters := (t.childrenOf .callAfter).map (·.childText 0)

/-- All sections begin in the same way. -/
theorem enter_section {p : Production} {kind : Kind} (hp : p.sectionKind? = some kind)
    (path : Tree.Path) (e : Option Extent) (cs : List Tree) :
    ∃ body name, b.Opening p cs body name ∧ ∃ errors,
      b.enter path (.node p e cs) =
        ((b.openNew path (.node p e cs) body name).withReports (b.syntaxErrors ++ errors)
          (b.openNew path (.node p e cs) body name).problems).bindVariable body.loopName? := by
  have hkeep : ∀ body name, ∃ errors, b.openNew path (.node p e cs) body name =
      (b.openNew path (.node p e cs) body name).withReports (b.syntaxErrors ++ errors)
        (b.openNew path (.node p e cs) body name).problems := by
    intro body name
    refine ⟨[], ?_⟩
    rw [List.append_nil, ← b.openNew_errors path (.node p e cs) body name]
    rfl
  have hcheck : ∀ body name t keyword, ∃ errors,
      (b.openNew path (.node p e cs) body name).checkKeyword t keyword =
        (b.openNew path (.node p e cs) body name).withReports (b.syntaxErrors ++ errors)
          (b.openNew path (.node p e cs) body name).problems := by
    intro body name t keyword
    rw [← b.openNew_errors path (.node p e cs) body name]
    exact checkKeyword_eq _ t keyword
  cases p <;> simp only [Production.sectionKind?, reduceCtorEq] at hp
  case struct =>
    let name := (Tree.node .struct e cs).childText 0
    refine ⟨.struct { name }, _, .plain b cs rfl rfl (.inl rfl) rfl rfl, ?_⟩
    obtain ⟨errors, h⟩ := hcheck (.struct { name }) (some name) (.node .struct e cs) name
    exact ⟨errors, h⟩
  case workflow =>
    let name := (Tree.node .workflow e cs).childText 0
    let x : Executable :=
      { name
        scope := b.forest.nextScope
        rawElements := (Tree.node .workflow e cs).nodes.map (·.source b.source) }
    refine ⟨.workflow x {}, _, .plain b cs rfl rfl (.inr rfl) rfl rfl, ?_⟩
    obtain ⟨errors, h⟩ := hcheck (.workflow x {}) (some name) (.node .workflow e cs) name
    exact ⟨errors, h⟩
  case task =>
    let name := (Tree.node .task e cs).childText 0
    let x : Executable :=
      { name
        scope := b.forest.nextScope
        rawElements := (Tree.node .task e cs).nodes.map (·.source b.source) }
    refine ⟨.task x {}, _, .plain b cs rfl rfl (.inr rfl) rfl rfl, ?_⟩
    obtain ⟨errors, h⟩ := hcheck (.task x {}) (some name) (.node .task e cs) name
    exact ⟨errors, h⟩
  case inputBlock | outputBlock | metaSection | parameterMetaSection | runtimeSection | command =>
    refine ⟨.block _ [], _, .plain b cs rfl rfl (.inl rfl) rfl rfl, ?_⟩
    obtain ⟨errors, h⟩ := hkeep (.block _ []) none
    exact ⟨errors, h⟩
  case runtimeEntry | callInput =>
    let key := (Tree.node .callInput e cs).childText 0
    let entry : EntryBody := { key, value := ((cs[1]?).map (·.source b.source)).getD key }
    refine ⟨.entry entry, _, .plain b cs rfl rfl (.inl rfl) rfl rfl, ?_⟩
    obtain ⟨errors, h⟩ := hkeep (.entry entry) none
    exact ⟨errors, h⟩
  case call =>
    let body := callBody (.node .call e cs)
    refine ⟨.call body, _, .plain b cs rfl rfl (.inl rfl) rfl rfl, ?_⟩
    cases hnickname : body.nickname.isEmpty with
    | true =>
      obtain ⟨errors, h⟩ := hkeep (.call body) (some _)
      exact ⟨errors, (if_pos hnickname).trans h⟩
    | false =>
      obtain ⟨errors, h⟩ := hcheck (.call body) (some _) (.node .call e cs) body.nickname
      exact ⟨errors, (if_neg (Bool.eq_false_iff.mp hnickname)).trans h⟩
  case scatter =>
    let name := (Tree.node .scatter e cs).childText 0
    refine ⟨.region { loopVariable := some name, scope := b.forest.nextScope }, none,
      ⟨rfl, rfl, .inr rfl, ?_, ?_⟩, ?_⟩
    · exact (ite_self _).symm
    · rintro v hv
      exact ⟨rfl, (Option.some.inj hv).symm⟩
    · obtain ⟨errors, h⟩ := hcheck
        (.region { loopVariable := some name, scope := b.forest.nextScope }) none (.node .scatter e cs) name
      exact ⟨errors, congrArg (bindVariable · (some name)) h⟩
  case conditional =>
    refine ⟨.region { loopVariable := none, scope := b.forest.nextScope }, _,
      .plain b cs rfl rfl (.inr rfl) rfl rfl, ?_⟩
    obtain ⟨errors, h⟩ := hkeep (.region { loopVariable := none, scope := b.forest.nextScope }) none
    exact ⟨errors, h⟩
  case decl =>
    let type := Text.squeeze (((cs[0]?).map (·.source b.source)).getD "")
    let name := (Tree.node .decl e cs).childText 1
    let inStruct := ((b.forest.body? b.current.node).map Body.isStruct).getD false
    refine ⟨.declaration { name, type }, if inStruct then none else some name,
      ⟨rfl, rfl, .inl rfl, rfl, fun v hv => (Option.some_ne_none v hv.symm).elim⟩, ?_⟩
    rw [show b.enter path (.node .decl e cs) = b.openDeclaration path (.node .decl e cs) from rfl]
    unfold openDeclaration
    dsimp only [Tree.children]
    split
    · next token _ =>
      obtain ⟨errors, h⟩ := hcheck (.declaration { name, type })
        (if inStruct then none else some name) token name
      exact ⟨errors, h⟩
    · obtain ⟨errors, h⟩ := hkeep (.declaration { name, type }) (if inStruct then none else some name)
      exact ⟨errors, h⟩

/-! ## The node of a section -/

/-- The node of a part of the parse tree before it is attached. -/
def nodeOf (t : Tree) (body : Body) : Node :=
  ⟨body, t.span, some (t.position b.origin), none⟩

theorem introduce_forest (t : Tree) (body : Body) :
    (b.forest.addNode (b.nodeOf t body)).Alike (b.introduce t body).forest := by
  unfold introduce
  split
  · exact .refl _
  · exact .of_node? rfl fun _ => rfl

theorem introduce_node? (t : Tree) (body : Body) :
    (b.introduce t body).forest.node? b.forest.nextNode = some (b.nodeOf t body) := by
  have hself := b.forest.node?_addNode_self (b.nodeOf t body)
  unfold introduce
  split <;> exact hself

theorem introduce_sections (t : Tree) (body : Body) :
    (b.introduce t body).sections = b.sections := by
  unfold introduce
  split <;> rfl

theorem introduce_eq (t : Tree) (body : Body) :
    b.introduce t body = { b with forest := (b.introduce t body).forest } := by
  unfold introduce
  split <;> rfl

theorem introduce_current (t : Tree) (body : Body) : (b.introduce t body).current = b.current := by
  rw [introduce_eq]
  rfl

theorem introduce_currentScope (t : Tree) (body : Body) :
    (b.introduce t body).currentScope = b.currentScope := by
  rw [introduce_eq]
  rfl

/-- The name and scope that a node is bound with, if the section around it is part of the
document. -/
def bindingFor (name : Option String) : Option (ScopeId × String) :=
  if b.current.rooted then name.map (b.currentScope, ·) else none

/-- The scope of a new section goes into the one around it. -/
def nestScope (g : Forest) (scope : Option ScopeId) : Forest :=
  match scope with
  | some s => if b.current.rooted then g.pushScope b.currentScope s else g
  | none => g

end Builder
end Wdl
