import Wdl.Proofs.Builder.Quiet
import Wdl.Proofs.Builder.Texts
import Wdl.Proofs.Compile.Correct
import Wdl.Proofs.Compile.Restores
import Wdl.Proofs.Parse.Accepted

/-!
The expressions of a document are balanced.

Outside of expressions a builder leaves the items of all expressions as they are, `Calm`; inside of
them the simulation of compilation says what becomes of them.  So all expressions that a walk over a
document adds are balanced, as long as it records no syntax error.

A tree that the parser hands out is made by the grammar even if the text has errors, so the walk
over it restores the builder.  What is open at the end of a walk over a document is then what was
open at its beginning: nothing, and no section ends in place of another, `walk_balanced`.
-/

namespace Wdl
namespace Builder

/-- No expression is added, none is open that was not, and the items of all are the same. -/
structure Calm (b b' : Builder) : Prop where
  frames : b'.frames = b.frames
  items : ∀ id e, b'.forest.expr? id = some e →
    ∃ old, b.forest.expr? id = some old ∧ old.items = e.items

namespace Calm

variable {b b' b'' : Builder}

theorem of_expr? (hframes : b'.frames = b.frames)
    (h : ∀ id, b'.forest.expr? id = b.forest.expr? id) : Calm b b' :=
  ⟨hframes, fun id e he => ⟨e, (h id).symm.trans he, rfl⟩⟩

theorem refl (b : Builder) : Calm b b := of_expr? rfl fun _ => rfl

theorem trans (h : Calm b b') (h' : Calm b' b'') : Calm b b'' where
  frames := h'.frames.trans h.frames
  items id e he := by
    obtain ⟨mid, hmid, hitems⟩ := h'.items id e he
    obtain ⟨old, hold, hitems'⟩ := h.items id mid hmid
    exact ⟨old, hold, hitems'.trans hitems⟩

theorem withReports (b : Builder) (errors : List SyntaxError) (problems : List DocumentProblem) :
    Calm b (b.withReports errors problems) :=
  of_expr? rfl fun _ => rfl

/-- A node that is no expression is added. -/
theorem addNode (b : Builder) (t : Tree) {body : Body} (h : body.kind ≠ .expression) :
    Calm b (b.addNode t body) where
  frames := rfl
  items id e he := by
    rw [Forest.expr?_eq] at he
    simp only [Builder.addNode, Forest.node?_addNode] at he
    split at he
    · exfalso
      cases body with
      | expression x => exact h rfl
      | _ => simp [Node.expr?] at he
    · rw [← Forest.expr?_eq] at he
      exact ⟨e, he, rfl⟩

end Calm

variable (b : Builder)

theorem attachLeaf_calm (id : NodeId) (binding : Option (ScopeId × String)) :
    Calm b (b.attachLeaf id binding) := by
  unfold attachLeaf
  split
  · next h => exact .of_expr? rfl fun i => Forest.attach_expr? h i
  · exact .of_expr? rfl fun _ => rfl

theorem introduce_calm (t : Tree) {body : Body} (h : body.kind ≠ .expression) :
    Calm b (b.introduce t body) := by
  unfold introduce
  split
  · exact .addNode b t h
  · exact (Calm.addNode b t h).trans (.of_expr? rfl fun _ => rfl)

theorem openSection_calm (path : Tree.Path) (id : NodeId) (name : Option String)
    (scope : Option ScopeId) : Calm b (b.openSection path id name scope) := by
  unfold openSection
  dsimp only
  split
  · next forest attached h =>
    refine .of_expr? rfl fun i => ?_
    rw [← Forest.attach_expr? h i]
    dsimp only
    split
    · split <;> rfl
    · rfl
  · exact .of_expr? rfl fun _ => rfl

theorem bindVariable_calm (loopName? : Option String) : Calm b (b.bindVariable loopName?) := by
  unfold bindVariable
  split
  · exact .refl b
  · dsimp only
    split
    · split
      · split
        · next h =>
          rw [(Forest.define_ok h).2.2]
          exact .of_expr? rfl fun _ => rfl
        · exact .of_expr? rfl fun _ => rfl
      · exact .refl b
    · exact .refl b

theorem enter_section_calm {p : Production} {kind : Kind} (hp : p.sectionKind? = some kind)
    (path : Tree.Path) (e : Option Extent) (cs : List Tree) :
    Calm b (b.enter path (.node p e cs)) := by
  obtain ⟨body, name, hopening, errors, henter⟩ := b.enter_section hp path e cs
  have hkind : body.kind ≠ .expression := by
    intro h
    have := hopening.kind
    rw [h] at this
    cases p <;> exact nomatch this
  rw [henter]
  refine Calm.trans (Calm.trans ?_ (.withReports _ _ _)) (bindVariable_calm _ _)
  exact (introduce_calm b _ hkind).trans (openSection_calm _ _ _ _ _)

theorem exit_section_calm {p : Production} {kind : Kind} (hp : p.sectionKind? = some kind)
    (path : Tree.Path) (e : Option Extent) (cs : List Tree) :
    Calm b (b.exit path (.node p e cs)) := by
  have hclose : Calm b (b.closeSection path (.node p e cs) kind) := by
    unfold closeSection
    dsimp only
    split
    · exact .of_expr? rfl fun _ => rfl
    · split <;> exact .of_expr? rfl fun _ => rfl
  cases p <;> cases hp <;> exact hclose

theorem enter_leaf_calm {p : Production} (hp : p.isLeaf = true) (path : Tree.Path)
    (e : Option Extent) (cs : List Tree) : Calm b (b.enter path (.node p e cs)) := by
  cases p <;> simp only [Production.isLeaf, Bool.false_eq_true] at hp
  case importDoc =>
    show Calm b (b.addImport (.node .importDoc e cs))
    rcases b.addImport_eq (.node .importDoc e cs) with
      ⟨-, h⟩ | ⟨error, h⟩ | ⟨errors, problems, body, h⟩
    · rw [h]
      exact .refl b
    · rw [h]
      exact .withReports b _ _
    · rw [h]
      refine (Calm.withReports b _ _).trans ((Calm.addNode _ _ ?_).trans (attachLeaf_calm _ _ _))
      intro h
      cases h
  case metaEntry =>
    show Calm b (b.addMetaEntry (.node .metaEntry e cs))
    obtain ⟨key, value, h⟩ := b.addMetaEntry_eq (.node .metaEntry e cs)
    rw [h]
    refine (Calm.addNode b _ ?_).trans (attachLeaf_calm _ _ _)
    intro h
    cases h

theorem setVersion_calm (t : Tree) : Calm b (b.setVersion t) := by
  obtain ⟨errors, h⟩ := b.setVersion_eq t
  rw [h]
  refine .of_expr? rfl fun id => Forest.expr?_modifyBody _ _ (fun n => ?_) id
  obtain ⟨body, span, position, parent⟩ := n
  cases body <;> rfl

theorem endPlaceholder_calm (t : Tree) : Calm b (b.endPlaceholder t) := by
  obtain ⟨errors, problems, h⟩ := b.endPlaceholder_eq t
  rw [h]
  refine ⟨rfl, fun id e he => ?_⟩
  dsimp only at he
  split at he
  · rw [giveOptions_expr?] at he
    split at he
    · obtain ⟨old, hold, rfl⟩ := Option.map_eq_some_iff.mp he
      exact ⟨old, hold, rfl⟩
    · exact ⟨e, he, rfl⟩
  · exact ⟨e, he, rfl⟩

theorem addCommandPart_calm (text : String) : Calm b (b.addCommandPart text) :=
  .of_expr? (b.addCommandPart_frames text) (b.addCommandPart_expr? text)

theorem visitToken_calm (k : Token) : Calm b (b.visitToken k) :=
  .of_expr? (b.visitToken_frames k) (b.visitToken_expr? k)

theorem enter_neutral_calm {p : Production} (hp : p.isNeutral = true) (path : Tree.Path)
    (e : Option Extent) (cs : List Tree) : Calm b (b.enter path (.node p e cs)) := by
  cases p <;> simp only [Production.isNeutral, Bool.false_eq_true] at hp
  case document => exact .of_expr? rfl fun _ => rfl
  case version => exact setVersion_calm b _
  all_goals exact .refl b

theorem exit_neutral_calm {p : Production} (hp : p.isNeutral = true) (path : Tree.Path)
    (e : Option Extent) (cs : List Tree) : Calm b (b.exit path (.node p e cs)) := by
  cases p <;> simp only [Production.isNeutral, Bool.false_eq_true] at hp
  case placeholder => exact endPlaceholder_calm b _
  case commandPlaceholder => exact addCommandPart_calm b _
  all_goals exact .refl b

/-! ## Walks -/

/-- No expression is open, and those with a number from `base` on are balanced. -/
structure Settled (base : NodeId) (b : Builder) : Prop where
  frames : b.frames = []
  balanced : ∀ id e, base ≤ id → b.forest.expr? id = some e → e.isBalanced = true

variable {b} {b' : Builder} {base : NodeId} {good : Token → Prop}

theorem Settled.calm (h : Settled base b) (hcalm : Calm b b') : Settled base b' where
  frames := hcalm.frames.trans h.frames
  balanced id e hid he := by
    obtain ⟨old, hold, hitems⟩ := hcalm.items id e he
    have := h.balanced id old hid hold
    rw [Expr.isBalanced_iff] at this ⊢
    rwa [← hitems]

/-- A walk over an expression outside of all others. -/
theorem Settled.expr {t : Tree} (ht : Phrase .expr t) (path : Tree.Path) (h : Settled base b)
    (hclean : (walk path t b).syntaxErrors = b.syntaxErrors) : Settled base (walk path t b) := by
  cases ht with
  | expr hx =>
    obtain ⟨e, -, -, hframes, hkeeps, -⟩ := walk_expr (.inl rfl) hx.sim _ path b hclean
    refine ⟨?_, fun id e' hid he' => ?_⟩
    · rw [hframes, framesAround, h.frames]
    · rcases Nat.lt_or_ge id b.forest.nextNode with hlt | hge
      · rw [hkeeps.old id hlt (Nat.ne_of_lt hlt)] at he'
        exact h.balanced id e' hid he'
      · exact hkeeps.new id e' hge he'

/-- A node is settled if its beginning and its end are calm and its children are settled. -/
theorem Settled.node {p : Production} {e : Option Extent} {cs : List Tree} {path : Tree.Path}
    (h : Settled base b) (henter : Calm b (b.enter path (.node p e cs)))
    (hcs : ∀ b, Settled base b → (walkList path 0 cs b).syntaxErrors = b.syntaxErrors →
      Settled base (walkList path 0 cs b))
    (hexit : ∀ b : Builder, Calm b (b.exit path (.node p e cs)))
    (hclean : (walk path (.node p e cs) b).syntaxErrors = b.syntaxErrors) :
    Settled base (walk path (.node p e cs) b) := by
  have hbegun := enter_clean hclean
  rw [walk] at hclean ⊢
  refine (hcs _ (h.calm henter) ?_).calm (hexit _)
  rw [← hbegun] at hclean
  exact (walkList_errors path 0 cs _).eq_left (exit_grows _ path _) hclean

theorem Settled.list {cs : List Tree}
    (hcs : ∀ c ∈ cs, ∀ (path : Tree.Path) (b : Builder), Settled base b →
      (walk path c b).syntaxErrors = b.syntaxErrors → Settled base (walk path c b))
    (path : Tree.Path) (i : Nat) (h : Settled base b)
    (hclean : (walkList path i cs b).syntaxErrors = b.syntaxErrors) :
    Settled base (walkList path i cs b) := by
  induction cs generalizing i b with
  | nil => exact h
  | cons c cs ih =>
    obtain ⟨hc, hcs⟩ := List.forall_mem_cons.mp hcs
    rw [walkList] at hclean ⊢
    have hfirst := walk_errors (i :: path) c b
    have hrest := walkList_errors path (i + 1) cs (walk (i :: path) c b)
    refine ih hcs (i + 1) (hc (i :: path) b h ?_) (hfirst.eq_right hrest hclean)
    exact hfirst.eq_left hrest hclean

theorem Settled.bare {t : Tree} (ht : Bare t) (path : Tree.Path) (h : Settled base b)
    (hclean : (walk path t b).syntaxErrors = b.syntaxErrors) : Settled base (walk path t b) := by
  induction ht generalizing path b with
  | token k => exact h.calm (visitToken_calm b k)
  | node hp _ ih =>
    exact h.node (enter_neutral_calm b hp path _ _)
      (fun b hb => Settled.list (fun c hc path b => ih c hc path) path 0 hb)
      (fun b => exit_neutral_calm b hp path _ _) hclean

/-- A walk over a part of a document leaves all new expressions balanced. -/
theorem Settled.part {t : Tree} (ht : Part good t) (path : Tree.Path) (h : Settled base b)
    (hclean : (walk path t b).syntaxErrors = b.syntaxErrors) : Settled base (walk path t b) := by
  induction ht generalizing path b with
  | token k => exact h.calm (visitToken_calm b k)
  | expr ht => exact h.expr ht path hclean
  | neutral hp _ ih =>
    exact h.node (enter_neutral_calm b hp path _ _)
      (fun b hb => Settled.list (fun c hc path b => ih c hc path) path 0 hb)
      (fun b => exit_neutral_calm b hp path _ _) hclean
  | leaf hp hcs =>
    refine h.node (enter_leaf_calm b hp path _ _)
      (fun b hb => Settled.list (fun c hc path b hb => hb.bare (hcs c hc) path) path 0 hb)
      (fun b => ?_) hclean
    rw [exit_leaf b hp]
    exact .refl b
  | inSection hp _ _ ih =>
    exact h.node (enter_section_calm b hp path _ _)
      (fun b hb => Settled.list (fun c hc path b => ih c hc path) path 0 hb)
      (fun b => exit_section_calm b hp path _ _) hclean

/-! ## Documents -/

/-- A document has no expressions yet when it is begun. -/
theorem start_expr? (f : Forest) (path : String) (stop : Int) (origin : Origin)
    (source : List Char) (keywords : List String) (errors : List SyntaxError) {id : NodeId}
    (hid : f.nextNode ≤ id) :
    (start f path stop origin source keywords errors).forest.expr? id = none := by
  rw [Forest.expr?_eq]
  simp only [start, Forest.node?_addScoped]
  split
  · rfl
  · rw [(Forest.node?_eq_none_iff f).mpr hid]
    rfl

/-- A builder that has just begun its document is settled. -/
theorem start_settled (f : Forest) (path : String) (stop : Int) (origin : Origin)
    (source : List Char) (keywords : List String) (errors : List SyntaxError) :
    Settled f.nextNode (start f path stop origin source keywords errors) where
  frames := rfl
  balanced id e hid he := by
    rw [start_expr? f path stop origin source keywords errors hid] at he
    cases he

/-- A builder that starts without errors and walks over a part of a document without recording any
leaves all expressions of the document balanced. -/
theorem settled_of_walk {f : Forest} {path : String} {stop : Int} {origin : Origin}
    {source : List Char} {keywords : List String} {errors : List SyntaxError} {t : Tree}
    (ht : errors = [] → Part good t)
    (hclean : (walk [] t (start f path stop origin source keywords errors)).syntaxErrors = []) :
    Settled f.nextNode (walk [] t (start f path stop origin source keywords errors)) := by
  have hgrows := walk_errors [] t (start f path stop origin source keywords errors)
  have hnone : errors = [] := List.prefix_nil.mp (hclean ▸ hgrows)
  refine (start_settled ..).part (ht hnone) [] ?_
  rw [hclean]
  exact hnone.symm

end Builder

/-- An expression whose arity scan succeeds at every level, and whose evaluation therefore never
finds it malformed. -/
def Expr.WellFormed (e : Expr) : Prop :=
  e.isBalanced = true ∧ ∀ inputs env : Bindings,
    Sound (fun _ => True) (e.evaluate (Lookup.ofBindings inputs env))

theorem Expr.wellFormed_of_isBalanced {e : Expr} (h : e.isBalanced = true) : e.WellFormed :=
  ⟨h, fun inputs env => e.evaluate_sound (Lookup.ofBindings_isSound inputs env) h⟩

/-- The tree of a text without errors is a part of a document. -/
theorem part_of_parse {start : Nonterminal} (hstart : start.shape.isPart = true)
    {terminals : List Terminal} {origin : Origin} {limit : Int} {text : List Char} {t : Tree}
    (h : Parse.parse (.ofGrammar start Grammar.rules terminals) origin limit text = ([], some t)) :
    Part Token.Proper t := by
  obtain ⟨e, ks, hderives, hsymbol, hhead, hwithin, -⟩ := Parse.parse_accepts h
  have hshape := hderives.shape Grammar.closed_shape (fun k hk => (hwithin k hk).proper) false
  rw [hsymbol] at hshape
  exact Shape.part_of_isPart hstart hshape t (List.mem_of_head? hhead)

/-- An expression that is accepted has been walked over without errors. -/
theorem Compiled.exists_walk {text : String} {c : Compiled} (h : Compiled.ofText text = .ok c) :
    ∃ t stop, Parse.parse Language.expressions (.ofNames "" "") 1 text.toList = ([], some t) ∧
      (Builder.walk [] t (.start {} "" stop (.ofNames "" "") text.toList Language.keywords
        [])).syntaxErrors = [] ∧
      c.forest = (Builder.walk [] t (.start {} "" stop (.ofNames "" "") text.toList
        Language.keywords [])).forest ∧
      c.forest.expr? c.node = some c.expr := by
  unfold Compiled.ofText at h
  dsimp only at h
  generalize hparse : Parse.parse Language.expressions _ _ _ = result at h
  obtain ⟨errors, tree⟩ := result
  split at h
  · exact nomatch h
  · exact nomatch h
  · next herrors _ hfound =>
    obtain ⟨id, hid, he⟩ := Option.bind_eq_some_iff.mp hfound
    obtain ⟨e, hexpr, heq⟩ := Option.map_eq_some_iff.mp he
    obtain ⟨rfl, rfl⟩ := Prod.mk.inj heq
    obtain rfl := Except.ok.inj h
    replace herrors := Builder.finish_clean herrors
    rw [Builder.finish_standalone] at hid
    cases tree with
    | none => exact nomatch hid
    | some t =>
      dsimp only at herrors hid ⊢
      split at herrors
      · next hempty =>
        obtain rfl := List.isEmpty_iff.mp hempty
        exact ⟨t, _, rfl, herrors, Builder.finish_forest _, hexpr⟩
      · next hsome => exact absurd (List.isEmpty_iff.mpr herrors) hsome
  · exact nomatch h

theorem Compiled.settled_of_ofText {text : String} {c : Compiled}
    (h : Compiled.ofText text = .ok c) :
    c.forest.expr? c.node = some c.expr ∧
      ∀ id e, c.forest.expr? id = some e → e.isBalanced = true := by
  obtain ⟨t, stop, hparse, hclean, hforest, hexpr⟩ := Compiled.exists_walk h
  refine ⟨hexpr, fun id e he => ?_⟩
  rw [hforest] at he
  have hpart : Part Token.Proper t := part_of_parse rfl hparse
  exact (Builder.settled_of_walk (fun _ => hpart) hclean).balanced id e (Nat.zero_le id) he

/-- The text of an expression is read directly, and compiled without errors. -/
def Compiled.isRead (text : String) : Bool :=
  (Parse.readTree .expr text.toList).any fun t =>
    let b := (Builder.walk [] t (.start {} "" ((max text.toList.length 1 : Nat) - 1)
      (.ofNames "" "") text.toList Language.keywords [])).finish
    b.syntaxErrors.isEmpty && b.problems.isEmpty && (b.standalone.bind b.forest.expr?).isSome

theorem Compiled.exists_ofText {text : String} (h : Compiled.isRead text = true) :
    ∃ c, Compiled.ofText text = .ok c := by
  obtain ⟨t, ht, hclean⟩ := (Option.any_eq_true ..).mp h
  have hparse : Parse.parse Language.expressions (.ofNames "" "") 1 text.toList = ([], some t) :=
    Parse.parse_of_readTree (by decide) ht
  simp only [Bool.and_eq_true, List.isEmpty_iff, Option.isSome_iff_exists] at hclean
  obtain ⟨⟨herrors, hproblems⟩, e, he⟩ := hclean
  obtain ⟨id, hid, he⟩ := Option.bind_eq_some_iff.mp he
  unfold Compiled.ofText
  dsimp only
  rw [hparse]
  dsimp only [List.isEmpty_nil]
  rw [if_pos rfl, herrors, hproblems, hid, Option.bind_some, he]
  exact ⟨_, rfl⟩

set_option maxRecDepth 100000 in
theorem Compiled.exists_indexed : ∃ c, Compiled.ofText "[x][0] + 1" = .ok c :=
  Compiled.exists_ofText (by decide +kernel)

/-- All expressions of a document that is parsed without syntax errors are well formed, and so are
those of an expression that is compiled by itself. -/
theorem expressions_wellFormed (f : Forest) (text uri abspath : String) (limit : Int) :
    ((Builder.ofText f text uri abspath limit).syntaxErrors = [] →
      ∀ id e, f.nextNode ≤ id →
        (Builder.ofText f text uri abspath limit).forest.expr? id = some e → e.WellFormed) ∧
    ∀ c, Compiled.ofText text = .ok c →
      c.forest.expr? c.node = some c.expr ∧
        ∀ id e, c.forest.expr? id = some e → e.WellFormed := by
  constructor
  · intro hclean id e hid he
    refine Expr.wellFormed_of_isBalanced ?_
    rcases Builder.ofText_cases f text uri abspath limit hclean with heq | ⟨t, hparse, heq, hwalked⟩
    · rw [heq, Builder.finish_forest] at he
      exact (Builder.start_settled ..).balanced id e hid he
    · rw [heq, Builder.finish_forest] at he
      have hpart : Part Token.Proper t := part_of_parse rfl hparse
      exact (Builder.settled_of_walk (fun _ => hpart) hwalked).balanced id e hid he
  · intro c hc
    obtain ⟨hexpr, hsettled⟩ := Compiled.settled_of_ofText hc
    exact ⟨hexpr, fun id e he => Expr.wellFormed_of_isBalanced (hsettled id e he)⟩

/-- The expression in the command of a task and one with brackets that is compiled by itself. -/
theorem expressions_wellFormed_echo :
    (Builder.ofText {} Builder.echoText "" "" 64).syntaxErrors = [] ∧
      (∃ e, (Builder.ofText {} Builder.echoText "" "" 64).forest.expr? 5 = some e ∧
        e.WellFormed) ∧
      ∃ c, Compiled.ofText "[x][0] + 1" = .ok c ∧ c.expr.WellFormed := by
  have hecho := Builder.ofText_echoText 64
  obtain ⟨hdocument, -⟩ := expressions_wellFormed {} Builder.echoText "" "" 64
  obtain ⟨-, hcompiled⟩ := expressions_wellFormed {} "[x][0] + 1" "" "" 64
  obtain ⟨e, he⟩ := Option.isSome_iff_exists.mp hecho.expression
  obtain ⟨c, hc⟩ := Compiled.exists_indexed
  obtain ⟨hexpr, hall⟩ := hcompiled c hc
  exact ⟨hecho.syntaxErrors, ⟨e, he, hdocument hecho.syntaxErrors 5 e (Nat.zero_le 5) he⟩,
    c, hc, hall c.node c.expr hexpr⟩

/-! ## Documents without mismatches -/

theorem Node.expr?_of_kind {n : Node} (h : n.kind = .expression) : ∃ e, n.expr? = some e := by
  obtain ⟨body, span, position, parent⟩ := n
  cases body with
  | expression x => exact ⟨_, rfl⟩
  | region r =>
    have hne : (Body.region r).kind ≠ .expression := by
      rw [Body.kind]
      split <;> (intro h; cases h)
    exact absurd h hne
  | _ => cases h

namespace Builder

/-- Frames hold expressions. -/
def Framed (b : Builder) : Prop :=
  ∀ frame ∈ b.frames, b.forest.kind? frame.node = some .expression

instance (b : Builder) : Decidable b.Framed :=
  inferInstanceAs (Decidable (∀ frame ∈ b.frames, b.forest.kind? frame.node = some .expression))

theorem Framed.seated {b : Builder} (h : b.Framed) : b.Seated := by
  intro id hid
  obtain ⟨frame, hhead, rfl⟩ := Option.map_eq_some_iff.mp hid
  obtain ⟨n, hn, hkind⟩ := Option.map_eq_some_iff.mp (h frame (List.mem_of_head? hhead))
  obtain ⟨x, hx⟩ := Node.expr?_of_kind hkind
  rw [Forest.expr?_eq, hn, Option.bind_some, hx]
  exact ⟨_, rfl⟩

section Example

/-- A builder with an open expression. -/
def openBuilder : Builder := emptyBuilder.beginExpr [7] sumTree

end Example

end Builder

end Wdl
