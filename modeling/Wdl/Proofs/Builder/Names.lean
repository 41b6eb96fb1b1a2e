import Wdl.Proofs.Builder.Agreement
import Wdl.Proofs.Builder.Holdings
import Wdl.Proofs.Builder.Texts
import Wdl.Proofs.Grammar.Titles

/-!
The names in scopes.

Each production that names something checks the name itself, and what it makes keeps the name for
good.  So after a walk without errors every name that can be looked up is an identifier and no
keyword, `symbols_wellNamed`, but for one case that nothing checks: a call without an alias is bound
under the last segment of its target, whatever that is.
-/

namespace Wdl

/-! ## The names of calls -/

namespace Text

theorem splitChars_eq (p : Char → Bool) (cs : List Char) : splitChars p cs = cs.splitOnP p := by
  induction cs with
  | nil => rfl
  | cons c cs ih =>
    rw [List.splitOnP_cons_eq_if_modifyHead, ← ih, splitChars]
    cases h : splitChars p cs with
    | nil =>
      rw [ih] at h
      exact absurd h (List.splitOnP_ne_nil p cs)
    | cons piece rest => rfl

/-- Pieces without separators are found again between the separators. -/
theorem splitOn_intercalate {ws : List String} (hne : ws ≠ []) (h : ∀ w ∈ ws, '.' ∉ w.toList) :
    splitOn '.' (".".intercalate ws) = ws := by
  have hpieces : ∀ cs ∈ ws.map String.toList, '.' ∉ cs := List.forall_mem_map.mpr h
  rw [splitOn, String.toList_intercalate, splitChars_eq, ← List.splitOn_eq_splitOnP,
    show ".".toList = ['.'] from rfl, List.splitOn_intercalate '.' hpieces (by simpa using hne),
    List.map_map]
  exact (List.map_congr_left fun w _ => String.ofList_toList).trans (List.map_id ws)

end Text

namespace Builder

theorem tokenText?_of_isName {t : Tree} (h : t.IsName) :
    ∃ text, t.tokenText? = some text ∧ isIdentifier text = true := by
  obtain ⟨k, rfl, hk⟩ := h
  exact ⟨k.text, rfl, hk⟩

/-- The name of a production is an identifier. -/
theorem isIdentifier_childText {p : Production} {e : Option Extent} {cs : List Tree} {i : Nat}
    (h : Tree.HasTitle p cs) (hi : p.titleAt? = some i) :
    isIdentifier ((Tree.node p e cs).childText i) = true := by
  obtain ⟨t, ht, hname⟩ := h.1 i hi
  obtain ⟨text, htext, hidentifier⟩ := tokenText?_of_isName hname
  rw [Tree.childText, Tree.children, ht, Option.bind_some, htext]
  exact hidentifier

/-- The last segment of a target is an identifier. -/
theorem isIdentifier_lastSegment {e : Option Extent} {cs : List Tree}
    (h : Tree.HasTitle .callTarget cs) :
    isIdentifier (((Text.splitOn '.' (".".intercalate
      ((Tree.node .callTarget e cs).children.filterMap Tree.tokenText?))).getLast?).getD "") =
        true := by
  have hall : ∀ w ∈ cs.filterMap Tree.tokenText?, isIdentifier w = true := by
    intro w hw
    obtain ⟨t, ht, htext⟩ := List.mem_filterMap.mp hw
    obtain ⟨text, htext', hidentifier⟩ := tokenText?_of_isName (h.2.1 rfl t ht)
    rwa [← Option.some.inj (htext'.symm.trans htext)]
  have hne : cs.filterMap Tree.tokenText? ≠ [] := by
    obtain ⟨t, ht, hname⟩ := h.1 0 rfl
    obtain ⟨text, htext, -⟩ := tokenText?_of_isName hname
    exact List.ne_nil_of_mem (List.mem_filterMap.mpr ⟨t, List.mem_of_getElem? ht, htext⟩)
  rw [Tree.children, Text.splitOn_intercalate hne fun w hw => dot_not_mem (hall w hw),
    List.getLast?_eq_some_getLast hne]
  exact hall _ (List.getLast_mem hne)

/-- The last child of a production that there is one of is of that production. -/
theorem getLast?_childrenOf {q : Production} {e : Option Extent} {cs : List Tree} {p : Production}
    {c : Tree} (h : ((Tree.node q e cs).childrenOf p).getLast? = some c) :
    c ∈ cs ∧ ∃ e' cs', c = .node p e' cs' := by
  obtain ⟨hmem, hisA⟩ := List.mem_filter.mp (List.mem_of_getLast? h)
  refine ⟨hmem, ?_⟩
  cases c with
  | token k => cases hisA
  | node p' e' cs' =>
    obtain rfl := Option.some.inj (eq_of_beq hisA)
    exact ⟨e', cs', rfl⟩

/-- The name of a call is an identifier, be it the alias or the last segment of the target. -/
theorem isIdentifier_callName {e : Option Extent} {cs : List Tree}
    (h : (Tree.node .call e cs).Titled) :
    isIdentifier (callBody (.node .call e cs)).name = true := by
  obtain ⟨⟨-, -, htarget⟩, hcs⟩ := h
  rw [Tree.titledList_iff] at hcs
  unfold CallBody.name
  split
  · obtain ⟨c, hc, hisA⟩ := htarget rfl
    have hmem : c ∈ (Tree.node .call e cs).childrenOf .callTarget :=
      List.mem_filter.mpr ⟨hc, hisA⟩
    have hlast := List.getLast?_eq_some_getLast (List.ne_nil_of_mem hmem)
    obtain ⟨htree, e', cs', heq⟩ := getLast?_childrenOf hlast
    have htitled := hcs _ htree
    rw [heq] at hlast htitled
    unfold callBody
    dsimp only
    rw [hlast]
    exact isIdentifier_lastSegment htitled.1
  · next hnickname =>
    unfold callBody at hnickname ⊢
    dsimp only at hnickname ⊢
    cases hlast : ((Tree.node .call e cs).childrenOf .callAlias).getLast? with
    | none =>
      rw [hlast] at hnickname
      exact absurd rfl hnickname
    | some c =>
      obtain ⟨htree, e', cs', rfl⟩ := getLast?_childrenOf hlast
      exact isIdentifier_childText (hcs _ htree).1 rfl

end Builder

/-! ## The names of nodes -/

/-- The names that a node can be bound under are identifiers and no keywords.  Only the name of a
call is a keyword if there is no alias, and an import is not bound unless its name is valid. -/
def Body.WellNamed (keywords : List String) : Body → Prop
  | .importDoc _ => True
  | .call c => Builder.isIdentifier c.name = true ∧ (c.name ∈ keywords → c.nickname = "")
  | body => ∀ name, body.symbol? = some name ∨ body.loopName? = some name →
    Builder.isIdentifier name = true ∧ name ∉ keywords

namespace Body

variable {keywords : List String} {body : Body}

theorem wellNamed_made : body.made.WellNamed keywords ↔ body.WellNamed keywords := by
  cases body <;> exact Iff.rfl

/-- It is enough that the names are identifiers and no keywords. -/
theorem wellNamed_of_forall (h : ∀ name ∈ body.symbol?.toList ++ body.loopName?.toList,
    Builder.isIdentifier name = true ∧ name ∉ keywords) : body.WellNamed keywords := by
  have hnames : ∀ name, body.symbol? = some name ∨ body.loopName? = some name →
      Builder.isIdentifier name = true ∧ name ∉ keywords := fun name hname =>
    h name (List.mem_append.mpr (hname.imp Option.mem_toList.mpr Option.mem_toList.mpr))
  cases body with
  | importDoc i => trivial
  | call c =>
    obtain ⟨hidentifier, hkeyword⟩ := hnames c.name (.inl rfl)
    exact ⟨hidentifier, fun hmem => absurd hmem hkeyword⟩
  | _ => exact hnames

theorem wellNamed_of_nameless (h : body.symbol?.toList ++ body.loopName?.toList = []) :
    body.WellNamed keywords := by
  refine wellNamed_of_forall ?_
  rw [h]
  exact List.forall_mem_nil _

end Body

namespace Builder

variable {b b' b'' : Builder}

/-! ## Steps -/

/-- No node is added, and nothing that any was made with is changed. -/
structure Inherits (b b' : Builder) : Prop where
  keywords : b'.keywords = b.keywords
  made? : ∀ id, b'.forest.made? id = b.forest.made? id

/-- One node is added. -/
structure Adds (b b' : Builder) (body : Body) : Prop where
  keywords : b'.keywords = b.keywords
  made? : ∀ id, b'.forest.made? id =
    if id = b.forest.nextNode then some body.made else b.forest.made? id

/-- A node is added, and if that is no error, what it can be bound under is in order. -/
def Names (b b' : Builder) : Prop :=
  ∃ body, Adds b b' body ∧ (b'.syntaxErrors = b.syntaxErrors → body.WellNamed b.keywords)

namespace Inherits

theorem of_quiet (h : Quiet b b') : Inherits b b' := ⟨h.keywords, h.alike.made?⟩

theorem of_forest (hkeywords : b'.keywords = b.keywords) (hforest : b'.forest = b.forest) :
    Inherits b b' :=
  ⟨hkeywords, fun id => by rw [hforest]⟩

end Inherits

theorem Adds.inherits {body : Body} (h : Adds b b' body) (hk : Inherits b' b'') :
    Adds b b'' body where
  keywords := hk.keywords.trans h.keywords
  made? id := (hk.made? id).trans (h.made? id)

variable (b)

theorem addNode_adds (t : Tree) (body : Body) : Adds b (b.addNode t body) body :=
  ⟨rfl, b.forest.made?_addNode (b.nodeOf t body)⟩

theorem checkKeyword_inherits (t : Tree) (name : String) : Inherits b (b.checkKeyword t name) :=
  .of_quiet (checkKeyword_still b t name).toQuiet

theorem openSection_inherits (path : Tree.Path) (id : NodeId) (name : Option String)
    (scope : Option ScopeId) : Inherits b (b.openSection path id name scope) := by
  unfold openSection
  dsimp only
  split
  · next g attached hattach =>
    refine ⟨rfl, fun j => Eq.trans ?_ (Forest.attach_made? hattach j)⟩
    dsimp only
    split
    · split <;> rfl
    · rfl
  · exact .of_forest rfl rfl

theorem openNew_adds (path : Tree.Path) (t : Tree) (body : Body) (name : Option String) :
    Adds b (b.openNew path t body name) body := by
  have hintroduce : Adds b (b.introduce t body) body := by
    refine ⟨by rw [introduce_eq], fun id => ?_⟩
    exact ((b.introduce_forest t body).made? id).trans
      (b.forest.made?_addNode (b.nodeOf t body) id)
  exact hintroduce.inherits (openSection_inherits ..)

theorem attachLeaf_inherits (id : NodeId) (binding : Option (ScopeId × String)) :
    Inherits b (b.attachLeaf id binding) := by
  unfold attachLeaf
  split
  · next g attached hattach => exact ⟨rfl, Forest.attach_made? hattach⟩
  · exact .of_forest rfl rfl

theorem bindVariable_inherits (loopName? : Option String) : Inherits b (b.bindVariable loopName?) :=
  have hnamed := b.bindVariable_named loopName?
  ⟨hnamed.fields.2.2.1, hnamed.alike.made?⟩

theorem bindVariable_errors (loopName? : Option String) :
    (b.bindVariable loopName?).syntaxErrors = b.syntaxErrors := by
  have hnamed := b.bindVariable_named loopName?
  generalize b.bindVariable loopName? = b' at hnamed ⊢
  cases hnamed <;> rfl

theorem beginExpr_adds (path : Tree.Path) (t : Tree) :
    Adds b (b.beginExpr path t) (.expression {}) := by
  have hadds := b.addNode_adds t (.expression {})
  cases hframes : b.frames with
  | nil =>
    rw [b.beginExpr_outside hframes path t]
    dsimp only
    split
    · exact ⟨hadds.keywords, hadds.made?⟩
    · obtain ⟨hkeywords, hmade⟩ := Builder.attachLeaf_inherits
        { b.addNode t (.expression {}) with lastExpression := some b.forest.nextNode }
        b.forest.nextNode none
      exact ⟨hkeywords, fun id => (hmade id).trans (hadds.made? id)⟩
  | cons frame outer =>
    rw [b.beginExpr_inside hframes path t]
    refine ⟨rfl, fun id => Eq.trans ?_ (hadds.made? id)⟩
    dsimp only [graft]
    split
    · next g attached hattach => exact Forest.attach_made? hattach id
    · rfl

theorem closeSection_inherits (path : Tree.Path) (t : Tree) (kind : Kind) :
    Inherits b (b.closeSection path t kind) := by
  unfold closeSection
  dsimp only
  split
  · exact .of_forest rfl rfl
  · split <;> exact .of_forest rfl rfl

theorem endExpr_inherits (path : Tree.Path) (t : Tree) : Inherits b (b.endExpr path t) := by
  unfold endExpr
  split
  · exact .of_forest rfl rfl
  · split <;> exact .of_forest rfl rfl

/-- Opens the section of a new node the name of which is checked. -/
def openChecked (path : Tree.Path) (t : Tree) (body : Body) (name : Option String)
    (place : Tree) (keyword : String) : Builder :=
  ((b.openNew path t body name).checkKeyword place keyword).bindVariable body.loopName?

variable {b} {path : Tree.Path} {t place : Tree} {body : Body} {name : Option String}
  {keyword : String}

theorem openChecked_adds : Adds b (b.openChecked path t body name place keyword) body :=
  ((b.openNew_adds path t body name).inherits (checkKeyword_inherits _ _ _)).inherits
    (bindVariable_inherits _ _)

/-- A name that passes the check is no keyword. -/
theorem not_keyword_of_openChecked
    (h : (b.openChecked path t body name place keyword).syntaxErrors = b.syntaxErrors) :
    keyword ∉ b.keywords := by
  intro hmem
  rw [← (b.openNew_adds path t body name).keywords, ← List.contains_iff_mem] at hmem
  rw [openChecked, bindVariable_errors, checkKeyword, if_pos hmem,
    ← b.openNew_errors path t body name] at h
  exact Builder.syntaxErrorAt_ne _ _ _ h

/-- A node with one name, which is checked. -/
theorem openChecked_names (path : Tree.Path) (t : Tree) (body : Body) (name : Option String)
    (place : Tree) {keyword : String} (hidentifier : isIdentifier keyword = true)
    (hone : body.symbol?.toList ++ body.loopName?.toList = [keyword]) :
    Names b (b.openChecked path t body name place keyword) := by
  refine ⟨body, openChecked_adds, fun h => Body.wellNamed_of_forall ?_⟩
  rw [hone]
  exact List.forall_mem_singleton.mpr ⟨hidentifier, not_keyword_of_openChecked h⟩

/-! ## Events -/

theorem openCall_names (path : Tree.Path) {e : Option Extent} {cs : List Tree}
    (htitled : (Tree.node .call e cs).Titled) :
    Names b (b.enter path (.node .call e cs)) := by
  have hname := isIdentifier_callName htitled
  let body := callBody (.node .call e cs)
  cases hnickname : body.nickname.isEmpty with
  | true =>
    have hopen : b.enter path (.node .call e cs) =
        b.openNew path (.node .call e cs) (.call body) (some body.name) := if_pos hnickname
    rw [hopen]
    refine ⟨_, b.openNew_adds .., fun _ => ⟨hname, fun _ => ?_⟩⟩
    simpa using hnickname
  | false =>
    have hopen : b.enter path (.node .call e cs) =
        b.openChecked path (.node .call e cs) (.call body) (some body.name)
          (.node .call e cs) body.nickname := if_neg (Bool.eq_false_iff.mp hnickname)
    have hchecked : body.name = body.nickname := if_neg (Bool.eq_false_iff.mp hnickname)
    rw [hopen]
    exact openChecked_names path _ _ _ _ (hchecked ▸ hname) (congrArg ([·]) hchecked)

theorem openDeclaration_names (path : Tree.Path) {e : Option Extent} {cs : List Tree}
    (htitled : (Tree.node .decl e cs).Titled) :
    Names b (b.enter path (.node .decl e cs)) := by
  obtain ⟨token, htoken, -⟩ := htitled.1.1 1 rfl
  let name := (Tree.node .decl e cs).childText 1
  let type := Text.squeeze (((cs[0]?).map (·.source b.source)).getD "")
  let inStruct := ((b.forest.body? b.current.node).map Body.isStruct).getD false
  have hopen : b.enter path (.node .decl e cs) =
      b.openChecked path (.node .decl e cs) (.declaration { name, type })
        (if inStruct then none else some name) token name := by
    show b.openDeclaration path (.node .decl e cs) = _
    unfold openDeclaration
    dsimp only [Tree.children]
    rw [htoken]
    rfl
  rw [hopen]
  exact openChecked_names _ _ _ _ _ (isIdentifier_childText htitled.1 rfl) rfl

/-- A production with a section adds a node, which is well named unless there is an error. -/
theorem enter_section_names {p : Production} {kind : Kind} (hp : p.sectionKind? = some kind)
    (path : Tree.Path) {e : Option Extent} {cs : List Tree} (htitled : (Tree.node p e cs).Titled) :
    Names b (b.enter path (.node p e cs)) := by
  have htitle := fun {i} (hi : p.titleAt? = some i) =>
    isIdentifier_childText (e := e) htitled.1 hi
  let name := (Tree.node p e cs).childText 0
  let rawElements := (Tree.node p e cs).nodes.map (·.source b.source)
  cases p <;> simp only [Production.sectionKind?, reduceCtorEq] at hp
  case struct =>
    exact openChecked_names path _ (.struct { name }) (some name) (.node .struct e cs)
      (htitle rfl) rfl
  case workflow =>
    exact openChecked_names path _ (.workflow { name, scope := b.forest.nextScope, rawElements } {})
      (some name) (.node .workflow e cs) (htitle rfl) rfl
  case task =>
    exact openChecked_names path _ (.task { name, scope := b.forest.nextScope, rawElements } {})
      (some name) (.node .task e cs) (htitle rfl) rfl
  case inputBlock | outputBlock | metaSection | parameterMetaSection | runtimeSection | command =>
    exact ⟨_, b.openNew_adds path _ (.block _ []) none, fun _ =>
      Body.wellNamed_of_nameless rfl⟩
  case runtimeEntry | callInput =>
    exact ⟨_, b.openNew_adds path _ (.entry _) none, fun _ =>
      Body.wellNamed_of_nameless rfl⟩
  case call => exact openCall_names path htitled
  case scatter =>
    exact openChecked_names path _
      (.region { loopVariable := some name, scope := b.forest.nextScope }) none
      (.node .scatter e cs) (htitle rfl) rfl
  case conditional =>
    exact ⟨_, b.openNew_adds path _
      (.region { loopVariable := none, scope := b.forest.nextScope }) none, fun _ =>
        Body.wellNamed_of_nameless rfl⟩
  case decl => exact openDeclaration_names path htitled

theorem addImport_names (t : Tree) : Inherits b (b.addImport t) ∨ Names b (b.addImport t) := by
  rcases b.addImport_eq t with ⟨-, heq⟩ | ⟨error, heq⟩ | ⟨errors, problems, body, heq⟩
  · rw [heq]
    exact .inl (.of_forest rfl rfl)
  · rw [heq]
    exact .inl (.of_forest rfl rfl)
  · rw [heq]
    obtain ⟨hkeywords, hmade⟩ := Builder.addNode_adds
      (b.withReports (b.syntaxErrors ++ errors) (b.problems ++ problems)) t (.importDoc body)
    have hadds : Adds b _ (.importDoc body) := ⟨hkeywords, hmade⟩
    exact .inr ⟨_, hadds.inherits (attachLeaf_inherits _ _ _), fun _ => trivial⟩

theorem addMetaEntry_names (t : Tree) : Names b (b.addMetaEntry t) := by
  obtain ⟨key, value, heq⟩ := b.addMetaEntry_eq t
  rw [heq]
  exact ⟨_, (b.addNode_adds t _).inherits (attachLeaf_inherits _ _ _), fun _ =>
    Body.wellNamed_of_nameless rfl⟩

theorem enter_names (path : Tree.Path) {t : Tree} (htitled : t.Titled) :
    Inherits b (b.enter path t) ∨ Names b (b.enter path t) := by
  cases t with
  | token k => exact .inl (.of_forest rfl rfl)
  | node p e cs =>
    cases hsection : p.sectionKind? with
    | some kind => exact .inr (enter_section_names hsection path htitled)
    | none =>
      cases hexpr : p.isExpression with
      | true =>
        rw [enter_expression hexpr]
        exact .inr ⟨_, b.beginExpr_adds path _, fun _ =>
          Body.wellNamed_of_nameless rfl⟩
      | false =>
        cases hleaf : p.isLeaf with
        | true =>
          cases p <;> simp only [Production.isLeaf, Bool.false_eq_true] at hleaf
          case importDoc => exact addImport_names (.node .importDoc e cs)
          case metaEntry => exact .inr (addMetaEntry_names (.node .metaEntry e cs))
        | false => exact .inl (.of_quiet (enter_quiet b hsection hleaf hexpr path e cs))

theorem exit_inherits (path : Tree.Path) (t : Tree) : Inherits b (b.exit path t) := by
  cases t with
  | token k => exact .of_forest rfl rfl
  | node p e cs =>
    cases hsection : p.sectionKind? with
    | some kind =>
      rw [exit_section hsection]
      exact b.closeSection_inherits path _ kind
    | none =>
      cases hexpr : p.isExpression with
      | true =>
        rw [exit_expression hexpr]
        exact b.endExpr_inherits path _
      | false => exact .of_quiet (exit_quiet b hsection hexpr path e cs)

/-! ## Walks -/

/-- What the nodes from `base` on can be bound under is in order. -/
structure WellNamed (base : NodeId) (keywords : List String) (b : Builder) : Prop where
  language : b.keywords = keywords
  nodes : ∀ id body, base ≤ id → b.forest.made? id = some body → body.WellNamed keywords

namespace WellNamed

variable {base : NodeId} {keywords : List String}

theorem inherits (h : WellNamed base keywords b) (hk : Inherits b b') :
    WellNamed base keywords b' where
  language := hk.keywords.trans h.language
  nodes id body hid hbody := h.nodes id body hid ((hk.made? id).symm.trans hbody)

theorem names (h : WellNamed base keywords b) (hn : Names b b')
    (hclean : b'.syntaxErrors = b.syntaxErrors) : WellNamed base keywords b' := by
  obtain ⟨new, hadds, hnew⟩ := hn
  refine ⟨hadds.keywords.trans h.language, fun id body hid hbody => ?_⟩
  rw [hadds.made?] at hbody
  split at hbody
  · rw [← Option.some.inj hbody, Body.wellNamed_made, ← h.language]
    exact hnew hclean
  · exact h.nodes id body hid hbody

theorem enter (h : WellNamed base keywords b) (path : Tree.Path) {t : Tree} (htitled : t.Titled)
    (hclean : (b.enter path t).syntaxErrors = b.syntaxErrors) :
    WellNamed base keywords (b.enter path t) :=
  (enter_names path htitled).elim h.inherits fun hn => h.names hn hclean

end WellNamed

mutual

/-- A walk over a titled tree that records no error leaves only names that are in order. -/
theorem walk_wellNamed {base : NodeId} {keywords : List String} {b : Builder}
    (h : WellNamed base keywords b) (path : Tree.Path) (t : Tree) (htitled : t.Titled)
    (hclean : (walk path t b).syntaxErrors = b.syntaxErrors) :
    WellNamed base keywords (walk path t b) := by
  cases t with
  | token k => exact h.inherits (.of_quiet (visitToken_quiet b k))
  | node p e cs =>
    -- errors are never taken back, so none is recorded by any of the three parts
    have hbegin := b.enter_grows path (.node p e cs)
    have hinner := walkList_errors path 0 cs (b.enter path (.node p e cs))
    have hend := exit_grows (walkList path 0 cs (b.enter path (.node p e cs))) path (.node p e cs)
    have hentered := h.enter path htitled (hbegin.eq_left (hinner.trans hend) hclean)
    have hrest := hbegin.eq_right (hinner.trans hend) hclean
    exact (walkList_wellNamed hentered path 0 cs htitled.2 (hinner.eq_left hend hrest)).inherits
      (exit_inherits path _)

theorem walkList_wellNamed {base : NodeId} {keywords : List String} {b : Builder}
    (h : WellNamed base keywords b) (path : Tree.Path) (i : Nat) (cs : List Tree)
    (htitled : Tree.TitledList cs)
    (hclean : (walkList path i cs b).syntaxErrors = b.syntaxErrors) :
    WellNamed base keywords (walkList path i cs b) := by
  cases cs with
  | nil => exact h
  | cons c cs =>
    have hfirst := walk_errors (i :: path) c b
    have hrest := walkList_errors path (i + 1) cs (walk (i :: path) c b)
    exact walkList_wellNamed
      (walk_wellNamed h (i :: path) c htitled.1 (hfirst.eq_left hrest hclean)) path (i + 1) cs
      htitled.2 (hfirst.eq_right hrest hclean)

end

theorem start_wellNamed (f : Forest) (path : String) (stop : Int) (origin : Origin)
    (source : List Char) (keywords : List String) (errors : List SyntaxError) :
    WellNamed f.nextNode keywords (start f path stop origin source keywords errors) where
  language := rfl
  nodes id body hid hbody := by
    rw [Forest.made?] at hbody
    simp only [start, Forest.node?_addScoped] at hbody
    split at hbody
    · rw [← Option.some.inj hbody]
      exact Body.wellNamed_of_nameless rfl
    · rw [(Forest.node?_eq_none_iff f).mpr hid] at hbody
      cases hbody

end Builder

/-! ## The names in scopes -/

/-- What can be looked up in the scope `s₀` and those inside it has an identifier for a name, which
is a keyword just if it is that of a call without an alias, the target of which ends in one. -/
def Forest.WellNamed (keywords : List String) (s₀ : ScopeId) (f : Forest) : Prop :=
  ∀ s sc, f.Nested s₀ s → f.scope? s = some sc → ∀ x ∈ sc.symbols,
    Builder.isIdentifier x.1 = true ∧ (x.1 ∈ keywords ↔
      ∃ c, f.body? x.2 = some (.call c) ∧ c.nickname = "" ∧ c.name ∈ keywords)

/-- A node that is well named is bound under names that are in order. -/
theorem Body.WellNamed.binds {keywords : List String} {body : Body} (h : body.WellNamed keywords)
    {name : String}
    (hname : (body.symbol? = some name ∧ (body.kind = .importDoc →
      Builder.isIdentifier name = true ∧ name ∉ keywords)) ∨ body.loopName? = some name) :
    Builder.isIdentifier name = true ∧
      (name ∈ keywords ↔ ∃ c, body = .call c ∧ c.nickname = "" ∧ c.name ∈ keywords) := by
  -- only a call has a name that can be a keyword
  have hother : (∀ c, body ≠ .call c) → Builder.isIdentifier name = true ∧ name ∉ keywords →
      Builder.isIdentifier name = true ∧
        (name ∈ keywords ↔ ∃ c, body = .call c ∧ c.nickname = "" ∧ c.name ∈ keywords) := by
    rintro hcall ⟨hidentifier, hkeyword⟩
    refine ⟨hidentifier, fun hmem => absurd hmem hkeyword, ?_⟩
    rintro ⟨c, rfl, -⟩
    exact absurd rfl (hcall c)
  cases body with
  | importDoc i =>
    rcases hname with ⟨-, hvalid⟩ | hloop
    · exact hother (fun _ => Body.noConfusion) (hvalid rfl)
    · cases hloop
  | call c =>
    rcases hname with ⟨hsymbol, -⟩ | hloop
    · obtain rfl := Option.some.inj hsymbol
      refine ⟨h.1, fun hmem => ⟨c, rfl, h.2 hmem, hmem⟩, ?_⟩
      rintro ⟨c', heq, -, hmem⟩
      obtain rfl := Body.call.inj heq
      exact hmem
    · cases hloop
  | _ => exact hother (fun _ => Body.noConfusion) (h name (hname.imp_left And.left))

namespace Builder

variable {l : Layout} {b : Builder} {keywords : List String}

/-- Scopes that agree with the tree of a document bind only what its nodes are named. -/
theorem Orderly.wellNamed (h : Orderly l b) (hn : WellNamed b.document keywords b) :
    b.forest.WellNamed keywords b.scope := by
  have hlinked := h.steady.linked
  have hagrees := h.scopes.agrees hlinked h.rooted.bound
  have hbody : ∀ id q, b.document ≤ id → b.forest.profile? id = some q →
      ∃ n, b.forest.node? id = some n ∧ q = n.profile ∧ n.body.WellNamed keywords := by
    intro id q hid hq
    obtain ⟨n, hnode, rfl⟩ := Option.map_eq_some_iff.mp hq
    refine ⟨n, hnode, rfl, Body.wellNamed_made.mp (hn.nodes id _ hid ?_)⟩
    rw [Forest.made?, hnode]
    rfl
  rintro s sc hs hsc ⟨name, id⟩ hx
  -- a name is bound around its node, or it is the variable of a scatter in the scope of that
  obtain ⟨hle, hcase⟩ : b.document ≤ id ∧ ∃ q, b.forest.profile? id = some q ∧
      ((q.symbol = some name ∧ (q.kind = .importDoc → b.isNamespace name = true)) ∨
        q.loopVariable = some name) := by
    cases ((hagrees.reflects s sc hs hsc).symbols name id).mp hx with
    | @symbol p above q hdirectly _ hq hname =>
      obtain ⟨o, ho, -, hchild⟩ := hdirectly
      have hpart := b.forest.mem_children.mp hchild
      obtain ⟨hsymbol, hvalid⟩ := Option.filter_eq_some_iff.mp hname
      rw [Bool.and_eq_true, Bool.or_eq_true, bne_iff_ne] at hvalid
      exact ⟨Nat.le_trans (ho.le hlinked).1
          (Nat.le_of_lt (hlinked.parent_of_part _ _ (ho.le hlinked).1 hpart).2),
        q, hq, .inl ⟨hsymbol, fun hkind => hvalid.2.resolve_left (· hkind)⟩⟩
    | loop hself hq _ hname => exact ⟨(hself.le hlinked).1, _, hq, .inr hname⟩
  obtain ⟨q, hq, hname⟩ := hcase
  obtain ⟨n, hnode, rfl, hwell⟩ := hbody id q hle hq
  have hvalid : b.isNamespace name = true → isIdentifier name = true ∧ name ∉ keywords := by
    rw [isNamespace, hn.language, Bool.and_eq_true, Bool.not_eq_true', ← Bool.not_eq_true,
      List.contains_iff_mem]
    exact fun h => h
  obtain ⟨hidentifier, hcall⟩ := hwell.binds
    (hname.imp_left fun h => ⟨h.1, fun hkind => hvalid (h.2 hkind)⟩)
  refine ⟨hidentifier, hcall.trans ?_⟩
  rw [Forest.body?, hnode, Option.map_some]
  simp only [Option.some.injEq]

/-- After a walk over a parse tree of a document that ends without errors, only calls without an
alias are bound under keywords. -/
theorem Grown.wellNamed {t : Tree} (ht : Grammar.IsTree .document t) {f : Forest} {path : String}
    {stop : Int} {origin : Origin} {source : List Char} {errors : List SyntaxError}
    {rs : List (Tree.Path × NodeId)} {fs : List Tree.Path}
    (h : Grown l (start f path stop origin source keywords errors)
      (walk [] t (start f path stop origin source keywords errors)) t.preorder rs fs)
    (hclean : (walk [] t (start f path stop origin source keywords errors)).syntaxErrors = []) :
    (walk [] t (start f path stop origin source keywords errors)).forest.WellNamed keywords
      f.nextScope := by
  have hgrows := walk_errors [] t (start f path stop origin source keywords errors)
  obtain rfl : errors = [] := List.prefix_nil.mp (hclean ▸ hgrows)
  have hstart := start_wellNamed f path stop origin source keywords []
  have hwalked := walk_wellNamed hstart [] t ht.titled hclean
  have hdocument : (walk [] t (start f path stop origin source keywords [])).document =
      f.nextNode := h.document
  rw [← hdocument] at hwalked
  have hwell := h.orderly.wellNamed hwalked
  rwa [h.scope] at hwell

/-- What can be looked up in a document without syntax errors has an identifier for a name, and that
is no keyword unless it is the end of the target of a call without an alias.  So it is after a walk
over any parse tree of a document, the productions of which keep apart, and in the document of any
text. -/
theorem symbols_wellNamed (f : Forest) (text uri abspath : String) (limit : Int) :
    (∀ t : Tree, Grammar.IsTree .document t → t.Spread → ∀ (path : String) (stop : Int)
      (origin : Origin) (source : List Char) (keywords : List String) (errors : List SyntaxError),
        (walk [] t (start f path stop origin source keywords errors)).finish.syntaxErrors = [] →
        (walk [] t (start f path stop origin source keywords errors)).finish.forest.WellNamed
          keywords f.nextScope) ∧
    ((ofText f text uri abspath limit).syntaxErrors = [] →
      (ofText f text uri abspath limit).forest.WellNamed Language.keywords f.nextScope) := by
  constructor
  · intro t ht hspread path stop origin source keywords errors hclean
    rw [finish_forest]
    exact (grown_of_isTree ht hspread.laidOut f path stop origin source keywords errors
      fun _ _ => trivial).wellNamed ht (finish_clean hclean)
  · intro hclean
    rcases ofText_cases f text uri abspath limit hclean with heq | ⟨t, hparse, heq, hwalked⟩
    · rw [heq, finish_forest]
      exact (start_orderly .ordered ..).wellNamed (start_wellNamed ..)
    · rw [heq, finish_forest]
      exact (grown_of_parse f hparse).wellNamed (laidOut_of_parse hparse).1 hwalked

section Example

/-! ### A call that is bound under a keyword -/

def versionToken : Token := ⟨.versionKw, "version", ⟨0, 1, 1⟩, ⟨7, 1, 8⟩⟩
def numberToken : Token := ⟨.versionNumber, "1.1", ⟨8, 1, 9⟩, ⟨11, 1, 12⟩⟩
def headToken : Token := ⟨.workflowKw, "workflow", ⟨12, 2, 1⟩, ⟨20, 2, 9⟩⟩
def titleToken : Token := ⟨.name, "w", ⟨21, 2, 10⟩, ⟨22, 2, 11⟩⟩
def openToken : Token := ⟨.lbrace, "\x7b", ⟨23, 2, 12⟩, ⟨24, 2, 13⟩⟩
def callToken : Token := ⟨.callKw, "call", ⟨27, 3, 3⟩, ⟨31, 3, 7⟩⟩
def objectToken : Token := ⟨.name, "object", ⟨32, 3, 8⟩, ⟨38, 3, 14⟩⟩
def closeToken : Token := ⟨.rbrace, "\x7d", ⟨39, 4, 1⟩, ⟨40, 4, 2⟩⟩

def versionTree : Tree :=
  .node .version (some ⟨versionToken.start, numberToken.stop⟩) [.token numberToken]

def objectTarget : Tree :=
  .node .callTarget (some (.ofToken objectToken)) [.token objectToken]

def objectCall : Tree :=
  .node .call (some ⟨callToken.start, objectToken.stop⟩) [objectTarget]

def objectWorkflow : Tree :=
  .node .workflow (some ⟨headToken.start, closeToken.stop⟩) [.token titleToken, objectCall]

/-- The parse tree of `version 1.1`, `workflow w {`, `call object` and `}`, on a line each. -/
def objectDocument : Tree :=
  .node .document (some ⟨versionToken.start, closeToken.stop⟩) [versionTree, objectWorkflow]

theorem objectWorkflow_makes :
    Grammar.Makes (.nonterminal .workflow) (some ⟨headToken.start, closeToken.stop⟩)
      [objectWorkflow] [headToken, titleToken, openToken, callToken, objectToken, closeToken] := by
  have htarget : Grammar.Makes (.nonterminal .callTarget) (some (.ofToken objectToken))
      [objectTarget] [objectToken] :=
    Grammar.makes_node (by decide +kernel) [(_, _, _, _)] rfl
      (List.forall_mem_singleton.mpr (Grammar.makes_token objectToken))
  have hcall : Grammar.Makes (.nonterminal .call) (some ⟨callToken.start, objectToken.stop⟩)
      [objectCall] [callToken, objectToken] := by
    have hrule : (⟨.call, [.terminal .callKw, .nonterminal .callTarget], some .call, false⟩ :
        Rule) ∈ Grammar.rules := by decide +kernel
    refine Grammar.makes_node hrule
      [(.terminal .callKw, some (.ofToken callToken), [], [callToken]),
        (.nonterminal .callTarget, some (.ofToken objectToken), [objectTarget], [objectToken])]
      rfl ?_
    exact List.forall_mem_cons.mpr ⟨Grammar.makes_token callToken,
      List.forall_mem_singleton.mpr htarget⟩
  have helements := Grammar.makes_chain hcall [.workflowElement, .workflowElements]
    (by decide +kernel)
  have hrule : (⟨.workflow, [.terminal .workflowKw, .terminal .name, .terminal .lbrace,
      .nonterminal .workflowElements, .terminal .rbrace], some .workflow, false⟩ : Rule) ∈
        Grammar.rules := by decide +kernel
  refine Grammar.makes_node hrule
    [(.terminal .workflowKw, some (.ofToken headToken), [], [headToken]),
      (.terminal .name, some (.ofToken titleToken), [.token titleToken], [titleToken]),
      (.terminal .lbrace, some (.ofToken openToken), [], [openToken]),
      (.nonterminal .workflowElements, some ⟨callToken.start, objectToken.stop⟩, [objectCall],
        [callToken, objectToken]),
      (.terminal .rbrace, some (.ofToken closeToken), [], [closeToken])] rfl ?_
  simp only [List.forall_mem_cons]
  exact ⟨Grammar.makes_token headToken, Grammar.makes_token titleToken,
    Grammar.makes_token openToken, helements, Grammar.makes_token closeToken,
    List.forall_mem_nil _⟩

theorem versionTree_makes : Grammar.Makes (.nonterminal .version)
    (some ⟨versionToken.start, numberToken.stop⟩) [versionTree] [versionToken, numberToken] := by
  have hrule : (⟨.version, [.terminal .versionKw, .terminal .versionNumber], some .version,
      false⟩ : Rule) ∈ Grammar.rules := by decide +kernel
  refine Grammar.makes_node hrule
    [(.terminal .versionKw, some (.ofToken versionToken), [], [versionToken]),
      (.terminal .versionNumber, some (.ofToken numberToken), [.token numberToken],
        [numberToken])] rfl ?_
  exact List.forall_mem_cons.mpr ⟨Grammar.makes_token versionToken,
    List.forall_mem_singleton.mpr (Grammar.makes_token numberToken)⟩

theorem objectDocument_isTree : Grammar.IsTree .document objectDocument := by
  have helements := Grammar.makes_chain objectWorkflow_makes [.documentElement, .documentElements]
    (by decide +kernel)
  have hrule : (⟨.document, [.nonterminal .version, .nonterminal .documentElements],
      some .document, false⟩ : Rule) ∈ Grammar.rules := by decide +kernel
  obtain ⟨e, hd, hs, -, ht⟩ := Grammar.makes_node hrule
    [(.nonterminal .version, _, _, _), (.nonterminal .documentElements, _, _, _)] rfl
    (List.forall_mem_cons.mpr ⟨versionTree_makes, List.forall_mem_singleton.mpr helements⟩)
  refine ⟨e, _, hd, hs, ht, ?_⟩
  simp only [List.flatMap_cons, List.flatMap_nil, List.append_nil, List.cons_append,
    List.nil_append, List.forall_mem_cons]
  exact ⟨⟨[], by decide +kernel⟩, ⟨[], by decide +kernel⟩, ⟨[], by decide +kernel⟩,
    ⟨[], by decide +kernel⟩, ⟨[], by decide +kernel⟩, ⟨[], by decide +kernel⟩,
    ⟨[], by decide +kernel⟩, ⟨[], by decide +kernel⟩, List.forall_mem_nil _⟩

theorem objectDocument_spread : objectDocument.Spread := by
  unfold Tree.Spread
  decide +kernel

def objectBuilder : Builder :=
  (walk [] objectDocument (start {} "" 40 ⟨"", ""⟩ [] Language.keywords [])).finish

theorem symbols_wellNamed_object :
    (Grammar.IsTree .document objectDocument ∧ objectDocument.Spread ∧
      objectBuilder.syntaxErrors = []) ∧
      objectBuilder.forest.WellNamed Language.keywords 0 := by
  have hclean : objectBuilder.syntaxErrors = [] := by
    rw [← List.isEmpty_iff]
    decide +kernel
  exact ⟨⟨objectDocument_isTree, objectDocument_spread, hclean⟩,
    (symbols_wellNamed {} "" "" "" 0).1 objectDocument objectDocument_isTree objectDocument_spread
      "" 40 ⟨"", ""⟩ [] Language.keywords [] hclean⟩

/-- Nothing is wrong with the document, but the scope of its workflow binds a keyword. -/
theorem objectBuilder_bindsKeyword :
    Grammar.IsTree .document objectDocument ∧ objectBuilder.syntaxErrors.isEmpty = true ∧
      objectBuilder.problems.isEmpty = true ∧ "object" ∈ Language.keywords ∧
      ∃ sc, objectBuilder.forest.Nested 0 1 ∧ objectBuilder.forest.scope? 1 = some sc ∧
        ("object", 2) ∈ sc.symbols := by
  refine ⟨objectDocument_isTree, by decide +kernel, by decide +kernel, by decide, ?_⟩
  have hroot : (objectBuilder.forest.scope? 0).map Scope.children = some [1] := by decide +kernel
  have hinner : (objectBuilder.forest.scope? 1).map Scope.symbols = some [("object", 2)] := by
    decide +kernel
  obtain ⟨outer, houter, hchildren⟩ := Option.map_eq_some_iff.mp hroot
  obtain ⟨sc, hsc, hsymbols⟩ := Option.map_eq_some_iff.mp hinner
  refine ⟨sc, .child .root houter ?_, hsc, ?_⟩
  · rw [hchildren]
    exact List.mem_singleton.mpr rfl
  · rw [hsymbols]
    exact List.mem_singleton.mpr rfl

end Example

end Builder
end Wdl
