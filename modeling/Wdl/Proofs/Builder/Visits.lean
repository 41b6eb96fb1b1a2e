import Wdl.Proofs.Builder.Errors
import Wdl.Proofs.Builder.Tidy

/-!
The visits of a walk.

A walk comes to the productions of a tree one after another, in the order in which they begin, and
each time the builder is in some state.  `visits` lists the productions with these states, so that a
statement about one part of a document can name the builder that the walk had come to there.
`walk_keeps` is what the list is for: a property of builders that the beginning and the end of every
visit keep is kept by the walk.  Reports are never taken back, so those that have been made when a
visit ends are there at the end of the walk, `reports_of_visit`.
-/

namespace Wdl
namespace Builder

/-- A production that a walk has come to, and the builder before it begins. -/
structure Visit where
  path : Tree.Path
  tree : Tree
  before : Builder

namespace Visit

/-- The node that the production adds, if it adds one. -/
def node (v : Visit) : NodeId := v.before.forest.nextNode

/-- The builder when the production has begun. -/
def begun (v : Visit) : Builder := v.before.enter v.path v.tree

/-- The builder when the children of the production have been walked over. -/
def done (v : Visit) : Builder := walkList v.path 0 v.tree.children v.begun

/-- The builder when the production has ended. -/
def after (v : Visit) : Builder := walk v.path v.tree v.before

end Visit

mutual

/-- The productions of a tree as a walk comes to them. -/
def visits (path : Tree.Path) : Tree → Builder → List Visit
  | .token _, _ => []
  | .node p e cs, b =>
    ⟨path, .node p e cs, b⟩ :: visitsList path 0 cs (b.enter path (.node p e cs))

def visitsList (path : Tree.Path) (i : Nat) : List Tree → Builder → List Visit
  | [], _ => []
  | c :: cs, b => visits (i :: path) c b ++ visitsList path (i + 1) cs (walk (i :: path) c b)

end

mutual

/-- A walk comes to each production once, in order. -/
theorem map_visits (path : Tree.Path) : (t : Tree) → (b : Builder) →
    (visits path t b).map (fun v => (v.path, v.tree)) = t.preorderAt path
  | .token _, _ => rfl
  | .node p e cs, b => by
    rw [visits, List.map_cons, map_visitsList path 0 cs]
    rfl

theorem map_visitsList (path : Tree.Path) (i : Nat) : (cs : List Tree) → (b : Builder) →
    (visitsList path i cs b).map (fun v => (v.path, v.tree)) = Tree.preorderList path i cs
  | [], _ => rfl
  | c :: cs, b => by
    rw [visitsList, List.map_append, map_visits (i :: path) c b, map_visitsList path (i + 1) cs]
    rfl

end

variable {path : Tree.Path} {t : Tree} {b : Builder} {v : Visit}

theorem mem_preorder_of_visit (hv : v ∈ visits path t b) : (v.path, v.tree) ∈ t.preorderAt path := by
  rw [← map_visits path t b]
  exact List.mem_map_of_mem hv

theorem visitsList_append (path : Tree.Path) (i : Nat) (cs ds : List Tree) (b : Builder) :
    visitsList path i (cs ++ ds) b =
      visitsList path i cs b ++ visitsList path (i + cs.length) ds (walkList path i cs b) := by
  induction cs generalizing i b with
  | nil => rfl
  | cons c cs ih =>
    rw [List.cons_append, visitsList, visitsList, ih, walkList, List.append_assoc,
      List.length_cons, Nat.add_right_comm, ← Nat.add_assoc]

mutual

/-- A production ends after its children have been walked over. -/
theorem Visit.after_eq {path : Tree.Path} {b : Builder} : {t : Tree} → v ∈ visits path t b →
    v.after = v.done.exit v.path v.tree
  | .token _, hv => absurd hv List.not_mem_nil
  | .node p e cs, hv => by
    rw [visits] at hv
    rcases List.mem_cons.mp hv with rfl | hv
    · rfl
    · exact Visit.after_eq_of_list hv

theorem Visit.after_eq_of_list {path : Tree.Path} {i : Nat} {b : Builder} : {cs : List Tree} →
    v ∈ visitsList path i cs b → v.after = v.done.exit v.path v.tree
  | [], hv => absurd hv List.not_mem_nil
  | c :: cs, hv => by
    rw [visitsList] at hv
    rcases List.mem_append.mp hv with hv | hv
    · exact Visit.after_eq hv
    · exact Visit.after_eq_of_list hv

end

mutual

/-- The visits of a part of a walk are visits of the whole. -/
theorem visits_subset {path : Tree.Path} {b : Builder} : {t : Tree} → v ∈ visits path t b →
    visits v.path v.tree v.before ⊆ visits path t b
  | .token _, hv => absurd hv List.not_mem_nil
  | .node _ _ _, hv => by
    rcases List.mem_cons.mp hv with rfl | hv
    · exact List.Subset.refl _
    · exact List.subset_cons_of_subset _ (visitsList_subset hv)

theorem visitsList_subset {path : Tree.Path} {i : Nat} {b : Builder} : {cs : List Tree} →
    v ∈ visitsList path i cs b → visits v.path v.tree v.before ⊆ visitsList path i cs b
  | [], hv => absurd hv List.not_mem_nil
  | _ :: _, hv => by
    rcases List.mem_append.mp hv with hv | hv
    · exact List.subset_append_of_subset_left _ (visits_subset hv)
    · exact List.subset_append_of_subset_right _ (visitsList_subset hv)

end

/-- A visit comes before those of what lies below it. -/
theorem visits_eq {p : Production} (hv : v.tree.isA p = true) :
    visits v.path v.tree v.before = v :: visitsList v.path 0 v.tree.children v.begun := by
  obtain ⟨path, tree, before⟩ := v
  cases tree with
  | token k => cases hv
  | node q e cs => rfl

theorem Visit.after_eq_done {p : Production} (v : Visit) (hv : v.tree.isA p = true) :
    v.after = v.done.exit v.path v.tree := by
  obtain ⟨path, tree, before⟩ := v
  cases tree with
  | token k => cases hv
  | node q e cs => rfl

/-! ## The parts of a production -/

/-- The trees of a row as a walk comes to them, tokens among them. -/
def rowVisits (path : Tree.Path) (i : Nat) : List Tree → Builder → List Visit
  | [], _ => []
  | c :: cs, b => ⟨i :: path, c, b⟩ :: rowVisits path (i + 1) cs (walk (i :: path) c b)

/-- The children of a production that are of a given production. -/
def Visit.parts (v : Visit) (p : Production) : List Visit :=
  (rowVisits v.path 0 v.tree.children v.begun).filter (·.tree.isA p)

theorem map_tree_rowVisits (path : Tree.Path) (i : Nat) (cs : List Tree) (b : Builder) :
    (rowVisits path i cs b).map Visit.tree = cs := by
  induction cs generalizing i b with
  | nil => rfl
  | cons c cs ih => rw [rowVisits, List.map_cons, ih]

theorem rowVisits_append (path : Tree.Path) (i : Nat) (cs ds : List Tree) (b : Builder) :
    rowVisits path i (cs ++ ds) b =
      rowVisits path i cs b ++ rowVisits path (i + cs.length) ds (walkList path i cs b) := by
  induction cs generalizing i b with
  | nil => rfl
  | cons c cs ih =>
    rw [List.cons_append, rowVisits, rowVisits, ih, walkList, List.length_cons,
      Nat.add_right_comm, ← Nat.add_assoc]
    rfl

theorem tree_mem_of_rowVisits {i : Nat} {cs : List Tree} (hv : v ∈ rowVisits path i cs b) :
    v.tree ∈ cs := by
  rw [← map_tree_rowVisits path i cs b]
  exact List.mem_map_of_mem hv

theorem rowVisits_filter {q : Production} {value : Bool} {i : Nat} {cs : List Tree}
    (hcs : ∀ c ∈ cs, c.isA q = value) :
    (rowVisits path i cs b).filter (·.tree.isA q) = if value then rowVisits path i cs b else [] := by
  cases value with
  | true =>
    exact List.filter_eq_self.mpr fun u hu => hcs u.tree (tree_mem_of_rowVisits hu)
  | false =>
    refine List.filter_eq_nil_iff.mpr fun u hu => ?_
    rw [hcs u.tree (tree_mem_of_rowVisits hu)]
    exact Bool.false_ne_true

/-- The parts of a production that stand in a row among its children. -/
theorem parts_eq_row {p q : Production} {e : Option Extent} {front mid back : List Tree}
    (hfront : ∀ c ∈ front, c.isA q = false) (hmid : ∀ c ∈ mid, c.isA q = true)
    (hback : ∀ c ∈ back, c.isA q = false) :
    Visit.parts ⟨path, .node p e (front ++ (mid ++ back)), b⟩ q =
      rowVisits path front.length mid
        (walkList path 0 front (b.enter path (.node p e (front ++ (mid ++ back))))) := by
  show (rowVisits path 0 (front ++ (mid ++ back)) _).filter _ = _
  rw [rowVisits_append, rowVisits_append, List.filter_append, List.filter_append,
    rowVisits_filter hfront, rowVisits_filter hmid, rowVisits_filter hback, Nat.zero_add]
  exact List.append_nil _

theorem childrenOf_eq_row {p q : Production} {e : Option Extent} {front mid back : List Tree}
    (hfront : ∀ c ∈ front, c.isA q = false) (hmid : ∀ c ∈ mid, c.isA q = true)
    (hback : ∀ c ∈ back, c.isA q = false) :
    (Tree.node p e (front ++ (mid ++ back))).childrenOf q = mid := by
  have hnone {cs : List Tree} (h : ∀ c ∈ cs, c.isA q = false) : cs.filter (·.isA q) = [] :=
    List.filter_eq_nil_iff.mpr fun c hc => by rw [h c hc]; exact Bool.false_ne_true
  rw [Tree.childrenOf, Tree.children, List.filter_append, List.filter_append, hnone hfront,
    hnone hback, List.filter_eq_self.mpr hmid, List.append_nil, List.nil_append]

theorem visits_subset_row {i : Nat} {cs : List Tree} (hv : v ∈ rowVisits path i cs b) :
    visits v.path v.tree v.before ⊆ visitsList path i cs b := by
  induction cs generalizing i b with
  | nil => exact absurd hv List.not_mem_nil
  | cons c cs ih =>
    rw [visitsList]
    rcases List.mem_cons.mp hv with rfl | hv
    · exact List.subset_append_left _ _
    · exact List.subset_append_of_subset_right _ (ih hv)

theorem mem_visitsList_of_parts {p : Production} {w : Visit} (hw : w ∈ v.parts p) :
    w ∈ visitsList v.path 0 v.tree.children v.begun := by
  obtain ⟨hrow, hp⟩ := List.mem_filter.mp hw
  refine visits_subset_row hrow ?_
  rw [visits_eq hp]
  exact List.mem_cons_self

/-- The parts of a production that a walk comes to are productions that it comes to. -/
theorem parts_subset (hv : v ∈ visits path t b) (p : Production) :
    v.parts p ⊆ visits path t b := by
  intro w hw
  refine visits_subset hv ?_
  obtain ⟨inner, tree, before⟩ := v
  cases tree with
  | token k => exact absurd hw List.not_mem_nil
  | node q e cs => exact List.mem_cons_of_mem _ (mem_visitsList_of_parts hw)

/-! ## What a walk keeps -/

mutual

/-- A walk keeps what its tokens and the beginning and the end of each of its visits keep. -/
theorem walk_keeps {I : Builder → Prop} (htoken : ∀ k b, I b → I (b.visitToken k))
    (path : Tree.Path) : (t : Tree) → (b : Builder) →
    (∀ v ∈ visits path t b, (I v.before → I v.begun) ∧ (I v.done → I v.after)) → I b →
      I (walk path t b)
  | .token k, b, _, h => htoken k b h
  | .node p e cs, b, hvisits, h => by
    rw [visits, List.forall_mem_cons] at hvisits
    obtain ⟨⟨henter, hexit⟩, hvisits⟩ := hvisits
    exact hexit (walkList_keeps htoken path 0 cs _ hvisits (henter h))

theorem walkList_keeps {I : Builder → Prop} (htoken : ∀ k b, I b → I (b.visitToken k))
    (path : Tree.Path) (i : Nat) : (cs : List Tree) → (b : Builder) →
    (∀ v ∈ visitsList path i cs b, (I v.before → I v.begun) ∧ (I v.done → I v.after)) → I b →
      I (walkList path i cs b)
  | [], _, _, h => h
  | c :: cs, b, hvisits, h => by
    rw [visitsList, List.forall_mem_append] at hvisits
    have hfirst := walk_keeps htoken (i :: path) c b hvisits.1 h
    exact walkList_keeps htoken path (i + 1) cs _ hvisits.2 hfirst

end

/-! ## Reports -/

/-- The reports of the first builder stand at the beginning of those of the second. -/
structure Reports (b b' : Builder) : Prop where
  errors : b.syntaxErrors <+: b'.syntaxErrors
  problems : b.problems <+: b'.problems

namespace Reports

variable {b b' b'' : Builder}

theorem refl (b : Builder) : Reports b b :=
  ⟨List.prefix_refl _, List.prefix_refl _⟩

theorem trans (h : Reports b b') (h' : Reports b' b'') : Reports b b'' :=
  ⟨h.errors.trans h'.errors, h.problems.trans h'.problems⟩

end Reports

theorem Tidy.reports {b b' : Builder} (h : Tidy b b') : b.problems <+: b'.problems := by
  obtain ⟨problems, h, -⟩ := h
  exact ⟨problems, h.symm⟩

theorem enter_reports (b : Builder) (path : Tree.Path) (t : Tree) :
    Reports b (b.enter path t) :=
  ⟨b.enter_grows path t, (enter_tidy b path t).reports⟩

/-- The end of a section or an expression leaves the forest alone. -/
theorem exit_forest {p : Production} (h : p.sectionKind?.isSome ∨ p.isExpression = true)
    (b : Builder) (path : Tree.Path) (e : Option Extent) (cs : List Tree) :
    (b.exit path (.node p e cs)).forest = b.forest ∧
      b.problems <+: (b.exit path (.node p e cs)).problems := by
  rcases h with hsection | hexpr
  · obtain ⟨kind, hkind⟩ := Option.isSome_iff_exists.mp hsection
    rw [exit_section hkind]
    rcases b.closeSection_unwinds path (.node p e cs) kind with
      ⟨-, h⟩ | ⟨inner, c, outer, -, -, -, h⟩ <;> rw [h] <;>
      exact ⟨rfl, List.prefix_append _ _⟩
  · have hexit : b.exit path (.node p e cs) = b.endExpr path (.node p e cs) := by
      cases p <;> first | rfl | cases hexpr
    obtain ⟨frames, problems, -, h⟩ := b.endExpr_eq_shrink path (.node p e cs)
    rw [hexit, h]
    exact ⟨rfl, List.prefix_append _ _⟩

/-- The end of a production adds no node, and leaves all nodes what they were made as and where they
hang. -/
theorem exit_alike (b : Builder) (path : Tree.Path) (t : Tree) :
    b.forest.Alike (b.exit path t).forest := by
  cases t with
  | token k => exact .refl _
  | node p e cs =>
    by_cases h : p.sectionKind?.isSome ∨ p.isExpression = true
    · rw [(exit_forest h b path e cs).1]
      exact .refl _
    · rw [not_or, Bool.not_eq_true, Option.isSome_eq_false_iff, Option.isNone_iff_eq_none,
        Bool.not_eq_true] at h
      exact (exit_quiet b h.1 h.2 path e cs).alike

theorem exit_reports (b : Builder) (path : Tree.Path) (t : Tree) : Reports b (b.exit path t) := by
  refine ⟨b.exit_grows path t, ?_⟩
  cases t with
  | token k => exact List.prefix_refl _
  | node p e cs =>
    by_cases h : p.sectionKind?.isSome ∨ p.isExpression = true
    · exact (exit_forest h b path e cs).2
    · rw [not_or, Bool.not_eq_true, Option.isSome_eq_false_iff, Option.isNone_iff_eq_none,
        Bool.not_eq_true] at h
      exact (exit_quiet b h.1 h.2 path e cs).problems

theorem visitToken_reports (b : Builder) (k : Token) : Reports b (b.visitToken k) :=
  ⟨Grows.of_eq (b.visitToken_errors k), (visitToken_quiet b k).problems⟩

mutual

/-- A walk takes no report back. -/
theorem walk_reports (path : Tree.Path) : (t : Tree) → (b : Builder) → Reports b (walk path t b)
  | .token k, b => visitToken_reports b k
  | .node _ _ cs, b =>
    (enter_reports b path _).trans ((walkList_reports path 0 cs _).trans (exit_reports _ path _))

theorem walkList_reports (path : Tree.Path) (i : Nat) : (cs : List Tree) → (b : Builder) →
    Reports b (walkList path i cs b)
  | [], b => .refl b
  | c :: cs, b => (walk_reports (i :: path) c b).trans (walkList_reports path (i + 1) cs _)

end

mutual

/-- What has been reported when a visit ends is reported in the end. -/
theorem reports_of_visit {path : Tree.Path} {b : Builder} : {t : Tree} → v ∈ visits path t b →
    Reports v.after (walk path t b)
  | .token _, hv => absurd hv List.not_mem_nil
  | .node _ _ _, hv => by
    rcases List.mem_cons.mp hv with rfl | hv
    · exact .refl _
    · exact (reports_of_visitList hv).trans (exit_reports _ path _)

theorem reports_of_visitList {path : Tree.Path} {i : Nat} {b : Builder} : {cs : List Tree} →
    v ∈ visitsList path i cs b → Reports v.after (walkList path i cs b)
  | [], hv => absurd hv List.not_mem_nil
  | c :: cs, hv => by
    rw [walkList]
    rcases List.mem_append.mp hv with hv | hv
    · exact (reports_of_visit hv).trans (walkList_reports path _ cs _)
    · exact reports_of_visitList hv

end

/-! ## The text of the document -/

/-- The text of the document and where it begins are the same. -/
structure Fixed (b b' : Builder) : Prop where
  origin : b'.origin = b.origin
  source : b'.source = b.source

namespace Fixed

variable {b b' b'' : Builder}

theorem refl (b : Builder) : Fixed b b := ⟨rfl, rfl⟩

theorem trans (h : Fixed b b') (h' : Fixed b' b'') : Fixed b b'' :=
  ⟨h'.origin.trans h.origin, h'.source.trans h.source⟩

theorem foldl {α : Type} {g : Builder → α → Builder} (h : ∀ b a, Fixed b (g b a)) (as : List α)
    (b : Builder) : Fixed b (as.foldl g b) := by
  induction as generalizing b with
  | nil => exact .refl b
  | cons a as ih => exact (h b a).trans (ih (g b a))

end Fixed

section Fixed

variable (b : Builder)

theorem openNew_fixed (path : Tree.Path) (t : Tree) (body : Body) (name : Option String) :
    Fixed b (b.openNew path t body name) := by
  have hintroduce : Fixed b (b.introduce t body) := by
    unfold introduce
    split <;> exact ⟨rfl, rfl⟩
  refine hintroduce.trans ?_
  unfold openNew openSection
  dsimp only
  split <;> exact ⟨rfl, rfl⟩

theorem bindVariable_fixed (loopName? : Option String) :
    Fixed b (b.bindVariable loopName?) := by
  unfold bindVariable
  split
  · exact .refl b
  · dsimp only
    split
    · split
      · split <;> exact ⟨rfl, rfl⟩
      · exact .refl b
    · exact .refl b

theorem attachLeaf_fixed (id : NodeId) (binding : Option (ScopeId × String)) :
    Fixed b (b.attachLeaf id binding) := by
  unfold attachLeaf
  split <;> exact ⟨rfl, rfl⟩

theorem beginExpr_fixed (path : Tree.Path) (t : Tree) : Fixed b (b.beginExpr path t) := by
  unfold beginExpr
  dsimp only [addNode]
  cases b.frames with
  | cons frame outer => exact ⟨rfl, rfl⟩
  | nil =>
    dsimp only
    split
    · exact ⟨rfl, rfl⟩
    · split <;> exact ⟨rfl, rfl⟩

theorem checkKeyword_fixed (t : Tree) (name : String) : Fixed b (b.checkKeyword t name) := by
  obtain ⟨errors, h⟩ := b.checkKeyword_eq t name
  rw [h]
  exact ⟨rfl, rfl⟩

theorem emit_fixed (i : Item) : Fixed b (b.emit i) := by
  unfold emit
  split <;> exact ⟨rfl, rfl⟩

theorem emitPending_fixed (n : Nat) : Fixed b (b.emitPending n) := by
  unfold emitPending
  split
  · dsimp only
    refine Fixed.trans ?_ (.foldl (fun b id => ?_) _ _)
    · exact ⟨rfl, rfl⟩
    · split
      · exact emit_fixed b _
      · exact .refl b
  · exact .refl b

/-- The beginning of a production leaves the text of the document alone. -/
theorem enter_fixed (path : Tree.Path) (t : Tree) : Fixed b (b.enter path t) := by
  cases t with
  | token k => exact .refl b
  | node p e cs =>
    cases hsection : p.sectionKind? with
    | some kind =>
      obtain ⟨body, name, -, errors, henter⟩ := b.enter_section hsection path e cs
      rw [henter]
      refine (openNew_fixed b path (.node p e cs) body name).trans
        (Fixed.trans ?_ (bindVariable_fixed _ _))
      exact ⟨rfl, rfl⟩
    | none =>
      cases p
      case importDoc =>
        show Fixed b (b.addImport (.node .importDoc e cs))
        rcases b.addImport_eq (.node .importDoc e cs) with
          ⟨-, h⟩ | ⟨error, h⟩ | ⟨errors, problems, body, h⟩ <;> rw [h]
        · exact .refl b
        · exact ⟨rfl, rfl⟩
        · refine Fixed.trans ?_ (attachLeaf_fixed _ _ _)
          exact ⟨rfl, rfl⟩
      case metaEntry =>
        show Fixed b (b.addMetaEntry (.node .metaEntry e cs))
        obtain ⟨key, value, h⟩ := b.addMetaEntry_eq (.node .metaEntry e cs)
        rw [h]
        refine Fixed.trans ?_ (attachLeaf_fixed _ _ _)
        exact ⟨rfl, rfl⟩
      case version =>
        show Fixed b (b.setVersion (.node .version e cs))
        obtain ⟨errors, h⟩ := b.setVersion_eq (.node .version e cs)
        rw [h]
        exact ⟨rfl, rfl⟩
      case expr | exprOperand => exact beginExpr_fixed b path _
      case object =>
        show Fixed b (b.beginObject (.node .object e cs))
        unfold beginObject
        dsimp only
        split
        · exact .refl b
        · exact (checkKeyword_fixed b _ _).trans (emit_fixed _ _)
      all_goals first
        | exact ⟨rfl, rfl⟩
        | cases hsection

theorem visitToken_fixed (k : Token) : Fixed b (b.visitToken k) := by
  unfold visitToken
  split
  · rw [addCommandPart_eq]
    exact ⟨rfl, rfl⟩
  · exact .refl b

theorem endPlaceholder_fixed (t : Tree) : Fixed b (b.endPlaceholder t) := by
  obtain ⟨errors, problems, h⟩ := b.endPlaceholder_eq t
  rw [h]
  exact ⟨rfl, rfl⟩

theorem endObjectEntry_fixed (t : Tree) : Fixed b (b.endObjectEntry t) := by
  unfold endObjectEntry
  split
  · exact ((checkKeyword_fixed b _ _).trans (emit_fixed _ _)).trans (emitPending_fixed _ 1)
  · split
    · exact (emit_fixed b _).trans (emitPending_fixed _ 1)
    · exact ⟨rfl, rfl⟩
  · exact .refl b

theorem endMember_fixed (t : Tree) : Fixed b (b.endMember t) := by
  have hcheck : Fixed b (if t.childText 1 == "left" || t.childText 1 == "right" then b
      else b.checkKeyword t (t.childText 1)) := by
    split
    · exact .refl b
    · exact checkKeyword_fixed b t _
  unfold endMember
  dsimp only
  generalize (if t.childText 1 == "left" || t.childText 1 == "right" then b
    else b.checkKeyword t (t.childText 1)) = b' at hcheck ⊢
  refine hcheck.trans ?_
  split
  · exact ⟨rfl, rfl⟩
  · exact (emit_fixed _ _).trans (emit_fixed _ _)

/-- The end of a production leaves the text of the document alone. -/
theorem exit_fixed (path : Tree.Path) (t : Tree) : Fixed b (b.exit path t) := by
  cases t with
  | token k => exact .refl b
  | node p e cs =>
    cases hsection : p.sectionKind? with
    | some kind =>
      rw [exit_section hsection]
      rcases b.closeSection_unwinds path (.node p e cs) kind with
        ⟨-, h⟩ | ⟨inner, c, outer, -, -, -, h⟩ <;> rw [h] <;> exact ⟨rfl, rfl⟩
    | none =>
      cases p
      case struct | workflow | task | inputBlock | outputBlock | metaSection |
          parameterMetaSection | runtimeSection | command | call | decl | runtimeEntry | callInput |
          scatter | conditional =>
        cases hsection
      case expr | exprOperand =>
        show Fixed b (b.endExpr path _)
        obtain ⟨frames, problems, -, h⟩ := b.endExpr_eq_shrink path (.node _ e cs)
        rw [h]
        exact ⟨rfl, rfl⟩
      case binary | booleanTrue | booleanFalse | null | float | map => exact emit_fixed b _
      case array | pair | ifThenElse | apply => exact (emitPending_fixed b _).trans (emit_fixed _ _)
      case int =>
        show Fixed b (b.emitInt _)
        unfold emitInt
        dsimp only
        split
        · refine Fixed.trans ?_ (emit_fixed _ _)
          exact ⟨rfl, rfl⟩
        · exact emit_fixed b _
      case leftName => exact (checkKeyword_fixed b _ _).trans (emit_fixed _ _)
      case group | unaryPlus | mapEntry => exact emitPending_fixed b 1
      case negate | unaryMinus | stringExprPart | index =>
        exact (emitPending_fixed b 1).trans (emit_fixed _ _)
      case stringExprWithPart => exact (emit_fixed b _).trans (emit_fixed _ _)
      case stringPart =>
        show Fixed b (b.emitStringPart _)
        unfold emitStringPart
        dsimp only
        split
        · exact emit_fixed b _
        · exact ⟨rfl, rfl⟩
      case placeholder => exact endPlaceholder_fixed b _
      case objectEntry => exact endObjectEntry_fixed b _
      case object =>
        show Fixed b (b.endObject _)
        unfold endObject
        dsimp only
        split <;> exact emit_fixed b _
      case member => exact endMember_fixed b _
      case commandPlaceholder =>
        show Fixed b (b.addCommandPart _)
        rw [addCommandPart_eq]
        exact ⟨rfl, rfl⟩
      all_goals exact .refl b

end Fixed

mutual

/-- A walk leaves the text of the document alone. -/
theorem walk_fixed (path : Tree.Path) : (t : Tree) → (b : Builder) → Fixed b (walk path t b)
  | .token k, b => visitToken_fixed b k
  | .node _ _ cs, b =>
    (enter_fixed b path _).trans ((walkList_fixed path 0 cs _).trans (exit_fixed _ path _))

theorem walkList_fixed (path : Tree.Path) (i : Nat) : (cs : List Tree) → (b : Builder) →
    Fixed b (walkList path i cs b)
  | [], b => .refl b
  | c :: cs, b => (walk_fixed (i :: path) c b).trans (walkList_fixed path (i + 1) cs _)

end

mutual

theorem fixed_of_visit {path : Tree.Path} {b : Builder} : {t : Tree} → v ∈ visits path t b →
    Fixed b v.before
  | .token _, hv => absurd hv List.not_mem_nil
  | .node _ _ _, hv => by
    rcases List.mem_cons.mp hv with rfl | hv
    · exact .refl _
    · exact (enter_fixed b path _).trans (fixed_of_visitList hv)

theorem fixed_of_visitList {path : Tree.Path} {i : Nat} {b : Builder} : {cs : List Tree} →
    v ∈ visitsList path i cs b → Fixed b v.before
  | [], hv => absurd hv List.not_mem_nil
  | c :: cs, hv => by
    rcases List.mem_append.mp hv with hv | hv
    · exact fixed_of_visit hv
    · exact (walk_fixed (i :: path) c b).trans (fixed_of_visitList hv)

end

theorem Visit.done_fixed (v : Visit) : Fixed v.before v.done :=
  (enter_fixed v.before v.path v.tree).trans (walkList_fixed v.path 0 v.tree.children _)

end Builder
end Wdl
