import Wdl.Proofs.Builder.Tidy
import Wdl.Proofs.Compile.Leaves
import Wdl.Proofs.Compile.Residue

/-!
Walks restore the open sections and expressions.

`Restores r b b'` says that a walk from `b` to `b'` has closed the sections and expressions that it
has opened, that none of its problems is a mismatch, and that it leaves the residue `r`.  Every
production that opens something opens exactly one thing, whatever the builder objects to, and closes
it; so the walk over a whole tree restores what was open, `walk_restores`.
-/

namespace Wdl
namespace Builder

variable {b b' b'' : Builder}

/-! ## Steps between expressions -/

section Idle

variable (b : Builder)

theorem withReports_idle (errors : List SyntaxError) (problems : List DocumentProblem) :
    Idle b (b.withReports errors problems) :=
  .of_expr? rfl rfl rfl fun _ => rfl

theorem checkKeyword_idle (t : Tree) (name : String) : Idle b (b.checkKeyword t name) := by
  obtain ⟨errors, h⟩ := b.checkKeyword_eq t name
  rw [h]
  exact withReports_idle b _ _

theorem addNode_idle (t : Tree) (body : Body) : Idle b (b.addNode t body) where
  frames := rfl
  lastExpression := rfl
  le := by
    rw [addNode, Forest.nextNode_addNode]
    exact Nat.le_succ _
  expr? _ hid := Forest.expr?_addNode_of_lt _ _ hid

theorem attachLeaf_idle (id : NodeId) (binding : Option (ScopeId × String)) :
    Idle b (b.attachLeaf id binding) := by
  unfold attachLeaf
  split
  · next h => exact .of_expr? rfl rfl (Forest.attach_nextNode h) (Forest.attach_expr? h)
  · exact .of_expr? rfl rfl rfl fun _ => rfl

theorem openNew_idle (path : Tree.Path) (t : Tree) (body : Body) (name : Option String) :
    Idle b (b.openNew path t body name) := by
  have hintroduce : Idle b (b.introduce t body) := by
    unfold introduce
    split
    · exact addNode_idle b t body
    · exact (addNode_idle b t body).trans (.of_expr? rfl rfl rfl fun _ => rfl)
  refine hintroduce.trans ?_
  unfold openNew openSection
  dsimp only
  split
  · next forest attached h =>
    have hnext := Forest.attach_nextNode h
    have hexpr := Forest.attach_expr? h
    split
    · split
      · exact .of_expr? rfl rfl ((Forest.nextNode_pushScope ..).trans hnext) hexpr
      · exact .of_expr? rfl rfl hnext hexpr
    · exact .of_expr? rfl rfl hnext hexpr
  · exact .of_expr? rfl rfl rfl fun _ => rfl

theorem bindVariable_idle (loopName? : Option String) : Idle b (b.bindVariable loopName?) := by
  unfold bindVariable
  split
  · exact .refl b
  · dsimp only
    split
    · split
      · split
        · next h =>
          rw [(Forest.define_ok h).2.2]
          exact .of_expr? rfl rfl (Forest.nextNode_modifyScope ..) fun _ => rfl
        · exact .of_expr? rfl rfl rfl fun _ => rfl
      · exact .refl b
    · exact .refl b

theorem addImport_idle (t : Tree) : Idle b (b.addImport t) := by
  rcases b.addImport_eq t with ⟨-, h⟩ | ⟨error, h⟩ | ⟨errors, problems, body, h⟩
  · rw [h]
    exact .refl b
  · rw [h]
    exact withReports_idle b _ _
  · rw [h]
    exact (withReports_idle b _ _).trans ((addNode_idle _ _ _).trans (attachLeaf_idle _ _ _))

theorem addMetaEntry_idle (t : Tree) : Idle b (b.addMetaEntry t) := by
  obtain ⟨key, value, h⟩ := b.addMetaEntry_eq t
  rw [h]
  exact (addNode_idle b _ _).trans (attachLeaf_idle _ _ _)

theorem setVersion_idle (t : Tree) : Idle b (b.setVersion t) := by
  obtain ⟨errors, h⟩ := b.setVersion_eq t
  rw [h]
  refine .of_expr? rfl rfl (Forest.nextNode_modifyBody ..) fun id =>
    Forest.expr?_modifyBody _ _ (fun n => ?_) id
  obtain ⟨body, span, position, parent⟩ := n
  cases body <;> rfl

theorem addCommandPart_idle (text : String) : Idle b (b.addCommandPart text) := by
  have hlast : (b.addCommandPart text).lastExpression = b.lastExpression := by
    unfold addCommandPart
    split
    · split <;> rfl
    · rfl
  exact .of_expr? (b.addCommandPart_frames text) hlast (b.addCommandPart_nextNode text)
    (b.addCommandPart_expr? text)

theorem visitToken_idle (k : Token) : Idle b (b.visitToken k) := by
  unfold visitToken
  split
  · exact addCommandPart_idle b k.text
  · exact .refl b

/-- A section begins without touching expressions. -/
theorem enter_section_idle {p : Production} {kind : Kind} (hp : p.sectionKind? = some kind)
    (path : Tree.Path) (e : Option Extent) (cs : List Tree) :
    Idle b (b.enter path (.node p e cs)) := by
  obtain ⟨body, name, -, errors, henter⟩ := b.enter_section hp path e cs
  rw [henter]
  refine Idle.trans ?_ (bindVariable_idle _ _)
  exact (openNew_idle b path _ body name).trans (withReports_idle _ _ _)

end Idle

/-- A section that begins is open, whether its node was attached or refused. -/
theorem enter_section_open {p : Production} {kind : Kind} (hp : p.sectionKind? = some kind)
    (b : Builder) (path : Tree.Path) (e : Option Extent) (cs : List Tree) :
    ∃ c, (b.enter path (.node p e cs)).sections = c :: b.sections ∧ c.path = path := by
  obtain ⟨body, name, -, errors, henter⟩ := b.enter_section hp path e cs
  have hbind : ∀ b : Builder, (b.bindVariable body.loopName?).sections = b.sections := by
    intro b
    unfold bindVariable
    split
    · rfl
    · dsimp only
      split
      · split
        · split <;> rfl
        · rfl
      · rfl
  have hopen : ∃ c, (b.openNew path (.node p e cs) body name).sections = c :: b.sections ∧
      c.path = path := by
    unfold openNew openSection
    dsimp only
    split
    · exact ⟨_, congrArg (List.cons _) (b.introduce_sections _ body), rfl⟩
    · exact ⟨_, congrArg (List.cons _) (b.introduce_sections _ body), rfl⟩
  obtain ⟨c, hc, hpath⟩ := hopen
  refine ⟨c, ?_, hpath⟩
  rw [henter, hbind]
  exact hc

/-! ## Walks -/

structure Restores (r : Residue) (b b' : Builder) : Prop where
  sections : b'.sections = b.sections
  tidy : Tidy b b'
  leaves : Leaves r b b'

namespace Restores

variable {r s : Residue}

theorem refl (h : b.Seated) : Restores {} b b :=
  ⟨rfl, .refl b, .refl h⟩

theorem trans (h : Restores r b b') (h' : Restores s b' b'') : Restores (r.append s) b b'' :=
  ⟨h'.sections.trans h.sections, h.tidy.trans h'.tidy, h.leaves.trans h'.leaves⟩

theorem of_idle (h : b.Seated) (hsections : b'.sections = b.sections) (htidy : Tidy b b')
    (hidle : Idle b b') : Restores {} b b' :=
  ⟨hsections, htidy, (Leaves.refl h).idle hidle⟩

end Restores

/-! ## Nodes that open nothing -/

theorem addImport_sections (b : Builder) (t : Tree) : (b.addImport t).sections = b.sections := by
  rcases b.addImport_eq t with ⟨-, h⟩ | ⟨error, h⟩ | ⟨errors, problems, body, h⟩
  · rw [h]
  · rw [h]
    rfl
  · rw [h, attachLeaf_sections]
    rfl

theorem enter_restores {p : Production} (hsection : p.sectionKind? = none)
    (hexpr : p.isExpression = false) (h : b.Seated) (path : Tree.Path) (e : Option Extent)
    (cs : List Tree) :
    Restores (Residue.opened (.node p e cs)) b (b.enter path (.node p e cs)) := by
  have htidy := enter_tidy b path (.node p e cs)
  cases p
  case expr | exprOperand => exact nomatch hexpr
  case struct | workflow | task | inputBlock | outputBlock | metaSection | parameterMetaSection |
      runtimeSection | command | call | decl | runtimeEntry | callInput | scatter | conditional =>
    exact nomatch hsection
  case document => exact .of_idle h rfl htidy (.of_expr? rfl rfl rfl fun _ => rfl)
  case version =>
    have hquiet := setVersion_still b (.node .version e cs)
    exact .of_idle h hquiet.sections htidy (setVersion_idle b _)
  case importDoc =>
    show Restores {} b (b.addImport (.node .importDoc e cs))
    exact .of_idle h (addImport_sections b (.node .importDoc e cs)) htidy (addImport_idle b _)
  case metaEntry =>
    obtain ⟨key, value, heq⟩ := b.addMetaEntry_eq (.node .metaEntry e cs)
    have henter : b.enter path (.node .metaEntry e cs) =
        (b.addNode (.node .metaEntry e cs) (.entry { key, value })).attachLeaf
          b.forest.nextNode none := heq
    rw [henter] at htidy ⊢
    exact .of_idle h (attachLeaf_sections _ _ _) htidy
      ((addNode_idle b _ _).trans (attachLeaf_idle _ _ _))
  case object =>
    have hquiet := beginObject_still b (.node .object e cs)
    refine ⟨hquiet.sections, htidy, ?_⟩
    show Leaves (Residue.opened (.node .object e cs)) b (b.beginObject (.node .object e cs))
    unfold beginObject Residue.opened
    dsimp only [Tree.production?]
    split
    · exact .refl h
    · exact ((Leaves.refl h).idle (checkKeyword_idle b _ _)).emit rfl
  all_goals exact .refl h

theorem endPlaceholder_leaves {r : Residue} (h : Leaves r b b') (hwaiting : r.waiting ≠ [])
    (e : Option Extent) (cs : List Tree) :
    Leaves (r.close (.node .placeholder e cs)) b (b'.endPlaceholder (.node .placeholder e cs)) := by
  obtain ⟨errors, problems, hend⟩ := b'.endPlaceholder_eq (.node .placeholder e cs)
  have hgiven :=
    readOptions_given b' ((Tree.node .placeholder e cs).childrenOf .placeholderOption) {}
  have hidle : Leaves r b (b'.withReports errors (b'.problems ++ problems)) :=
    h.idle (withReports_idle b' _ _)
  rw [hend]
  unfold Residue.close
  dsimp only [Tree.production?]
  rw [← hgiven]
  obtain ⟨id, htarget⟩ := h.exists_target hwaiting
  rw [htarget]
  cases (b'.readOptions ((Tree.node .placeholder e cs).childrenOf .placeholderOption) {}).2 with
  | none => exact hidle
  | some o => exact h.give hwaiting htarget rfl rfl rfl

theorem endObjectEntry_leaves {r : Residue} (h : Leaves r b b') (hwaiting : 1 ≤ r.waiting.length)
    (e : Option Extent) (cs : List Tree) :
    Leaves (r.close (.node .objectEntry e cs)) b
      (b'.endObjectEntry (.node .objectEntry e cs)) := by
  show Leaves (r.closeEntry cs) b (b'.endObjectEntry (.node .objectEntry e cs))
  match cs with
  | [] => exact h
  | .token k :: _ =>
    have hkey : Leaves (r.emit (.literal (.string k.text))) b
        ((b'.checkKeyword (.token k) k.text).emit (.literal (.string k.text))) :=
      (h.idle (checkKeyword_idle b' _ _)).emit rfl
    exact hkey.take hwaiting
  | .node p extent ds :: rest =>
    unfold endObjectEntry Residue.closeEntry
    dsimp only [Tree.children]
    cases literalText? (.node p extent ds) with
    | none => exact h.idle (withReports_idle b' _ _)
    | some key =>
      have hkey : Leaves (r.emit (.literal (.string key))) b
          (b'.emit (.literal (.string key))) := h.emit rfl
      exact hkey.take hwaiting

theorem endMember_leaves {r : Residue} (h : Leaves r b b') (e : Option Extent) (cs : List Tree)
    (hname : ∀ c, cs.head? = some c → isName c = true → r.items ≠ []) :
    Leaves (r.close (.node .member e cs)) b (b'.endMember (.node .member e cs)) := by
  let member := (Tree.node .member e cs).childText 1
  let named := (cs.head?.map isName).getD false
  have hcheck : Idle b' (if member == "left" || member == "right" then b'
      else b'.checkKeyword (.node .member e cs) member) := by
    split
    · exact .refl b'
    · exact checkKeyword_idle b' _ _
  have hnamed : named = true → r.items ≠ [] := by
    intro hnamed
    cases hhead : cs.head? with
    | none =>
      simp only [named, hhead] at hnamed
      exact nomatch hnamed
    | some c =>
      simp only [named, hhead] at hnamed
      exact hname c hhead hnamed
  exact (h.idle hcheck).join hnamed

theorem emitInt_leaves {r : Residue} (h : Leaves r b b') (e : Option Extent) (cs : List Tree) :
    Leaves (r.close (.node .int e cs)) b (b'.emitInt (.node .int e cs)) := by
  unfold emitInt Residue.close
  dsimp only [Tree.production?]
  split
  · next hlarge =>
    rw [Nat.min_eq_right (Nat.le_of_lt hlarge)]
    exact (h.idle (withReports_idle b' _ _)).emit rfl
  · next hsmall =>
    rw [Nat.min_eq_left (Nat.le_of_not_lt hsmall)]
    exact h.emit rfl

/-- What the end of a node makes of the residue of its children. -/
theorem exit_leaves {p : Production} (hsection : p.sectionKind? = none)
    (hexpr : p.isExpression = false) {r : Residue} (h : Leaves r b b') (path : Tree.Path)
    (e : Option Extent) (cs : List Tree) (hdemand : p.demand ≤ r.waiting.length)
    (hcount : (cs.filter (·.isA .expr)).length ≤ r.waiting.length)
    (hname : ∀ c, cs.head? = some c → isName c = true → r.items ≠ []) :
    Leaves (r.close (.node p e cs)) b (b'.exit path (.node p e cs)) := by
  cases p
  case expr | exprOperand => exact nomatch hexpr
  case struct | workflow | task | inputBlock | outputBlock | metaSection | parameterMetaSection |
      runtimeSection | command | call | decl | runtimeEntry | callInput | scatter | conditional =>
    exact nomatch hsection
  case binary | booleanTrue | booleanFalse | null | float | map => exact h.emit rfl
  case array | pair | ifThenElse | apply => exact (h.take hcount).emit rfl
  case int => exact emitInt_leaves h e cs
  case leftName => exact (h.idle (checkKeyword_idle b' _ _)).emit rfl
  case group | unaryPlus | mapEntry => exact h.take hdemand
  case negate | unaryMinus | stringExprPart | index => exact (h.take hdemand).emit rfl
  case stringExprWithPart => exact (h.emit rfl).emit rfl
  case stringPart =>
    show Leaves (r.close (.node .stringPart e cs)) b (b'.emitStringPart (.node .stringPart e cs))
    unfold emitStringPart Residue.close
    dsimp only [Tree.production?]
    split
    · exact h.emit rfl
    · exact h.idle (withReports_idle b' _ _)
  case placeholder =>
    exact endPlaceholder_leaves h (List.length_pos_iff.mp hdemand) e cs
  case objectEntry => exact endObjectEntry_leaves h hdemand e cs
  case object =>
    show Leaves (r.close (.node .object e cs)) b (b'.endObject (.node .object e cs))
    unfold endObject Residue.close
    dsimp only [Tree.production?]
    split
    · exact h.emit rfl
    · exact h.emit rfl
  case member => exact endMember_leaves h e cs hname
  case commandPlaceholder => exact h.idle (addCommandPart_idle b' _)
  all_goals exact h

/-! ## Walks over nodes -/

section Nodes

variable {p : Production} {e : Option Extent} {cs : List Tree} {path : Tree.Path}

/-- A node that opens nothing. -/
theorem restores_flat (hsection : p.sectionKind? = none) (hexpr : p.isExpression = false)
    (hinner : ∀ b : Builder, b.Seated →
      Restores (Tree.residueList cs) b (walkList path 0 cs b))
    (hdemand : p.demand ≤ (Tree.residueList cs).waiting.length) (h : b.Seated) :
    Restores (Tree.node p e cs).residue b (walk path (.node p e cs) b) := by
  have henter := enter_restores hsection hexpr h path e cs
  have hchildren := henter.trans (hinner _ henter.leaves.seated)
  have hexit :=
    exit_quiet (walkList path 0 cs (b.enter path (.node p e cs))) hsection hexpr path e cs
  have htidy :=
    exit_tidy (walkList path 0 cs (b.enter path (.node p e cs))) hsection hexpr path e cs
  have hopened : (Residue.opened (.node p e cs)).waiting = [] := by
    unfold Residue.opened
    split
    · split <;> rfl
    · rfl
  have hwaiting : ((Residue.opened (.node p e cs)).append (Tree.residueList cs)).waiting =
      (Tree.residueList cs).waiting := by
    rw [Residue.append, hopened, List.nil_append]
  rw [walk, Tree.residue]
  refine ⟨hexit.sections.trans hchildren.sections, hchildren.tidy.trans htidy, ?_⟩
  refine exit_leaves hsection hexpr hchildren.leaves path e cs ?_ ?_ ?_
  · rw [hwaiting]
    exact hdemand
  · rw [hwaiting]
    exact Tree.count_le_waiting cs
  · intro c hc hname hnil
    obtain ⟨rest, rfl⟩ : ∃ rest, cs = c :: rest := by
      cases cs with
      | nil => cases hc
      | cons c' rest => exact ⟨rest, by rw [Option.some.inj hc]⟩
    have hitems := (List.append_eq_nil_iff.mp hnil).2
    exact Tree.residue_items_ne_nil hname (List.append_eq_nil_iff.mp hitems).1

/-- A section closes itself. -/
theorem restores_section {kind : Kind} (hp : p.sectionKind? = some kind)
    (hinner : ∀ b : Builder, b.Seated →
      Restores (Tree.residueList cs) b (walkList path 0 cs b)) (h : b.Seated) :
    Restores (Tree.node p e cs).residue b (walk path (.node p e cs) b) := by
  have hidle := (Leaves.refl h).idle (enter_section_idle b hp path e cs)
  obtain ⟨c, hsections, hpath⟩ := enter_section_open hp b path e cs
  have hchildren := hinner (b.enter path (.node p e cs)) hidle.seated
  -- the section that ends is the innermost one
  have hclose : (walkList path 0 cs (b.enter path (.node p e cs))).exit path (.node p e cs) =
      { walkList path 0 cs (b.enter path (.node p e cs)) with sections := b.sections } := by
    rw [exit_section hp, closeSection_open _ kind
      (show _ = [] ++ _ from hchildren.sections.trans hsections) hpath (List.forall_mem_nil _)]
    simp
  have hresidue : (Tree.node p e cs).residue = ({} : Residue).append (Tree.residueList cs) := by
    rw [Tree.residue]
    cases p <;> first | rfl | cases hp
  rw [walk, hresidue, hclose]
  refine ⟨rfl, ?_, ?_⟩
  · obtain ⟨problems, heq, hall⟩ := (enter_tidy b path (.node p e cs)).trans hchildren.tidy
    exact ⟨problems, heq, hall⟩
  · exact (hidle.trans hchildren.leaves).idle (.of_expr? rfl rfl rfl fun _ => rfl)

theorem beginExpr_lastExpression (b : Builder) (path : Tree.Path) (t : Tree) :
    (b.beginExpr path t).lastExpression =
      if b.frames.isEmpty then some b.forest.nextNode else b.lastExpression := by
  unfold beginExpr
  dsimp only [addNode]
  cases b.frames with
  | cons frame outer => rfl
  | nil =>
    dsimp only
    split
    · rfl
    · split <;> rfl

theorem beginExpr_sections (b : Builder) (path : Tree.Path) (t : Tree) :
    (b.beginExpr path t).sections = b.sections := by
  unfold beginExpr
  dsimp only [addNode]
  cases b.frames with
  | cons frame outer => rfl
  | nil =>
    dsimp only
    split
    · rfl
    · split <;> rfl

/-- What a walk over an expression with the items `is` does: it adds a node for it, which waits in
the innermost open expression, and changes none that was there. -/
structure Builds (is : List Item) (b b' : Builder) : Prop where
  sections : b'.sections = b.sections
  tidy : Tidy b b'
  lt : b.forest.nextNode < b'.forest.nextNode
  old : ∀ id < b.forest.nextNode, b'.forest.expr? id = b.forest.expr? id
  frames : b'.frames = b.framesAround
  lastExpression : b'.lastExpression =
    if b.frames.isEmpty then some b.forest.nextNode else b.lastExpression
  built : ∃ x, b'.forest.expr? b.forest.nextNode = some x ∧
    x.placeless = ⟨{ span := ⟨0, 0⟩ }, is⟩

/-- An expression is compiled in a frame of its own, so it does not matter what is open around it.
-/
theorem builds_expression (hexpr : p.isExpression = true)
    (hinner : ∀ b : Builder, b.Seated →
      Restores (Tree.residueList cs) b (walkList path 0 cs b)) (b : Builder) :
    Builds (Tree.residueList cs).items b (walk path (.node p e cs) b) := by
  let t : Tree := .node p e cs
  let begun := b.beginExpr path t
  let inner := walkList path 0 cs begun
  have hbegin : b.enter path t = begun := by
    cases p <;> first | rfl | cases hexpr
  have hend : inner.exit path t = inner.endExpr path t := by
    cases p <;> first | rfl | cases hexpr
  have hframes : begun.frames = ⟨path, b.forest.nextNode, []⟩ :: b.framesAround :=
    b.beginExpr_frames path t
  have hcurrent := (b.beginExpr_compiling path t).current
  have hseated : begun.Seated := by
    intro id hid
    rw [Leaves.focus?_of_frames hframes] at hid
    obtain rfl := Option.some.inj hid
    exact ⟨_, hcurrent⟩
  have hwalk : Restores (Tree.residueList cs) begun inner := hinner begun hseated
  have hnext : begun.forest.nextNode = b.forest.nextNode + 1 := b.beginExpr_nextNode path t
  rw [walk, hbegin, hend]
  cases hwalk.leaves.contributes with
  | outside frames => cases hframes.symm.trans frames
  | @inside frame outer x js ids frames frames' last current current' items waits =>
    obtain ⟨rfl, rfl⟩ := List.cons.inj (hframes.symm.trans frames)
    obtain rfl := Option.some.inj (hcurrent.symm.trans current)
    have hpop : inner.endExpr path t = { inner with frames := b.framesAround } := by
      rw [endExpr, frames']
      simp
    rw [hpop]
    refine ⟨hwalk.sections.trans (b.beginExpr_sections path t), ?_, ?_, fun id hid => ?_, rfl,
      last.trans (b.beginExpr_lastExpression path t), _, current', ?_⟩
    · obtain ⟨problems, heq, hall⟩ := (beginExpr_tidy b path t).trans hwalk.tidy
      exact ⟨problems, heq, hall⟩
    · have hle := hwalk.leaves.le
      rw [hnext] at hle
      exact hle
    · have hfocus : begun.focus? ≠ some id := by
        rw [Leaves.focus?_of_frames hframes]
        intro heq
        exact Nat.ne_of_gt hid (Option.some.inj heq)
      have hold := hwalk.leaves.old id (by rw [hnext]; exact Nat.lt_succ_of_lt hid) hfocus
      refine hold.trans ?_
      rw [beginExpr_expr?]
      exact Forest.expr?_addNode_of_lt _ _ hid
    · rw [Expr.placeless, ← items]
      rfl

/-- An expression waits in the one around it. -/
theorem Builds.leaves {is : List Item} (hb : Builds is b b') (h : b.Seated) :
    Leaves { waiting := [⟨{ span := ⟨0, 0⟩ }, is⟩] } b b' := by
  obtain ⟨x, hx, hplaceless⟩ := hb.built
  refine ⟨Nat.le_of_lt hb.lt, fun id hid _ => hb.old id hid, ?_⟩
  have hframes := hb.frames
  have hlast := hb.lastExpression
  unfold framesAround at hframes
  cases hb' : b.frames with
  | nil =>
    rw [hb'] at hframes hlast
    have hfresh : ∃ id, b'.lastExpression = some id ∧ b.forest.nextNode ≤ id :=
      ⟨_, hlast, Nat.le_refl _⟩
    exact .outside hb' hframes (.inr hfresh) fun _ => hfresh
  | cons frame outer =>
    rw [hb'] at hframes hlast
    obtain ⟨e, he⟩ := h frame.node (Leaves.focus?_of_frames hb')
    refine .inside [] [b.forest.nextNode] hb' hframes hlast he ?_ rfl ?_
    · rw [hb.old _ (Forest.lt_of_expr? _ he), he, List.append_nil]
    · refine ⟨List.forall_mem_singleton.mpr (Nat.le_refl _), List.pairwise_singleton _ _, ?_⟩
      rw [List.map_singleton, hx, Option.map_some, hplaceless]
      rfl

theorem residue_expression (hexpr : p.isExpression = true) : (Tree.node p e cs).residue =
    { waiting := [⟨{ span := ⟨0, 0⟩ }, (Tree.residueList cs).items⟩] } := by
  rw [Tree.residue]
  cases p <;> first | rfl | cases hexpr

theorem restores_expression (hexpr : p.isExpression = true)
    (hinner : ∀ b : Builder, b.Seated →
      Restores (Tree.residueList cs) b (walkList path 0 cs b)) (h : b.Seated) :
    Restores (Tree.node p e cs).residue b (walk path (.node p e cs) b) := by
  have hb := builds_expression (e := e) hexpr hinner b
  rw [residue_expression hexpr]
  exact ⟨hb.sections, hb.tidy, hb.leaves h⟩

end Nodes

/-! ## Walks over trees -/

mutual

/-- A walk over a tree whose constructs find what they take closes what it opens. -/
theorem walk_restores (path : Tree.Path) : (t : Tree) → t.Supplied → ∀ b : Builder, b.Seated →
    Restores t.residue b (walk path t b)
  | .token k, _, b, h =>
    .of_idle h (visitToken_quiet b k).sections (.of_eq (visitToken_problems b k))
      (visitToken_idle b k)
  | .node p e cs, ht, b, h => by
    have hinner := walkList_restores path 0 cs ht.2
    cases hsection : p.sectionKind? with
    | some kind => exact restores_section hsection hinner h
    | none =>
      cases hexpr : p.isExpression with
      | true => exact restores_expression hexpr hinner h
      | false => exact restores_flat hsection hexpr hinner ht.1 h

theorem walkList_restores (path : Tree.Path) (i : Nat) : (cs : List Tree) → Tree.SuppliedList cs →
    ∀ b : Builder, b.Seated → Restores (Tree.residueList cs) b (walkList path i cs b)
  | [], _, _, h => .refl h
  | c :: cs, hcs, b, h => by
    have hfirst := walk_restores (i :: path) c hcs.1 b h
    exact hfirst.trans (walkList_restores path (i + 1) cs hcs.2 _ hfirst.leaves.seated)

end

end Builder
end Wdl
