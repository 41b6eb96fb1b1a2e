import Wdl.Builder.Events

/-!
What the steps of a builder are made of.

A step may record errors and problems, which changes nothing else, add a node or change one, and
attach it.  The two ways to attach are those of `openSection`, which leaves a section open, and
`attachLeaf`, which does not.
-/

namespace Wdl
namespace Builder

variable (b : Builder)

/-! ## Reports -/

/-- A builder with other errors and problems. -/
def withReports (errors : List SyntaxError) (problems : List DocumentProblem) : Builder :=
  { b with syntaxErrors := errors, problems }

theorem withReports_nil : b.withReports (b.syntaxErrors ++ []) b.problems = b := by
  rw [List.append_nil]
  rfl

/-- What is reported of the elements of a list, one after the other. -/
theorem foldl_reportAt_eq {α : Type} (problem : α → Problem) (place : α → Tree) (as : List α) :
    as.foldl (fun b a => b.reportAt (problem a) (some ((place a).position b.origin))) b =
      b.withReports b.syntaxErrors
        (b.problems ++ as.map fun a => ⟨problem a, none, some ((place a).position b.origin)⟩) := by
  induction as generalizing b with
  | nil => simp [withReports]
  | cons a as ih =>
    rw [List.foldl_cons, ih, List.map_cons]
    simp [withReports, reportAt]

theorem checkKeyword_eq (t : Tree) (name : String) :
    ∃ errors, b.checkKeyword t name = b.withReports (b.syntaxErrors ++ errors) b.problems := by
  unfold checkKeyword
  split
  · exact ⟨_, rfl⟩
  · exact ⟨[], b.withReports_nil.symm⟩

/-! ## Imports and metadata -/

/-- Attaches a node to the current section. -/
def attachLeaf (id : NodeId) (binding : Option (ScopeId × String)) : Builder :=
  match b.forest.attach b.current.node id binding with
  | .ok (forest, _) => { b with forest }
  | .error p => b.report p id

theorem attachLeaf_sections (id : NodeId) (binding : Option (ScopeId × String)) :
    (b.attachLeaf id binding).sections = b.sections := by
  unfold attachLeaf
  split <;> rfl

/-- Whether an import can be bound under its name. -/
def isNamespace (name : String) : Bool :=
  isIdentifier name && !b.keywords.contains name

theorem addMetaEntry_eq (t : Tree) : ∃ key value, b.addMetaEntry t =
    (b.addNode t (.entry { key, value })).attachLeaf b.forest.nextNode none :=
  ⟨_, _, rfl⟩

/-- What is recorded of an alias for a struct that has one. -/
def secondAlias (x : Tree × String) : DocumentProblem :=
  ⟨.redefinition ("multiple aliases for struct " ++ x.2), none, some (x.1.position b.origin)⟩

/-- An import whose address is legible keeps one alias for each struct and records the others, and
it is attached and bound if its name can be. -/
theorem addImport_legible {t literal : Tree} {rest : List Tree} {uri : String}
    (hnodes : t.nodes = literal :: rest) (huri : literalText? literal = some uri) :
    ∃ errors, ∃ body : ImportBody,
      body.structAliases = (structAliases (t.childrenOf .importAlias)).1 ∧
      b.addImport t =
        ((b.withReports (b.syntaxErrors ++ errors)
            (b.problems ++ (structAliases (t.childrenOf .importAlias)).2.map b.secondAlias)).addNode
              t (.importDoc body)).attachLeaf
          b.forest.nextNode
          (if b.isNamespace body.namespaceName && b.current.rooted then
            some (b.scope, body.namespaceName) else none) := by
  unfold addImport
  rw [hnodes]
  dsimp only
  rw [huri]
  dsimp only
  generalize ((t.childrenOf .importAs).getLast?.map (·.childText 0)).getD "" = nickname
  obtain ⟨aliases, again⟩ := structAliases (t.childrenOf .importAlias)
  let body : ImportBody := { uri, nickname, structAliases := aliases }
  have hvalid : ∃ errors, (if b.isNamespace body.namespaceName then b
      else b.syntaxErrorAt t "invalid or missing import namespace") =
        b.withReports (b.syntaxErrors ++ errors) b.problems := by
    split
    · exact ⟨[], b.withReports_nil.symm⟩
    · exact ⟨_, rfl⟩
  obtain ⟨errors, hvalid⟩ := hvalid
  have hagain := (b.withReports (b.syntaxErrors ++ errors) b.problems).foldl_reportAt_eq
    (fun x : Tree × String => .redefinition ("multiple aliases for struct " ++ x.2)) Prod.fst again
  refine ⟨errors, body, rfl, ?_⟩
  unfold isNamespace at hvalid
  dsimp only
  rw [hvalid, hagain]
  rfl

/-- An import is left out, which is an error unless its name is missing altogether, or is attached
and bound if its name can be. -/
theorem addImport_eq (t : Tree) :
    (t.nodes = [] ∧ b.addImport t = b) ∨
    (∃ error, b.addImport t = b.withReports (b.syntaxErrors ++ [error]) b.problems) ∨
    ∃ errors problems body, b.addImport t =
      ((b.withReports (b.syntaxErrors ++ errors) (b.problems ++ problems)).addNode t
          (.importDoc body)).attachLeaf
        b.forest.nextNode
        (if b.isNamespace body.namespaceName && b.current.rooted then
          some (b.scope, body.namespaceName) else none) := by
  cases hnodes : t.nodes with
  | nil =>
    refine .inl ⟨rfl, ?_⟩
    unfold addImport
    rw [hnodes]
  | cons literal rest =>
    right
    cases huri : literalText? literal with
    | none =>
      have hbad : b.addImport t = b.badEscape literal := by
        unfold addImport
        rw [hnodes]
        dsimp only
        rw [huri]
      exact .inl ⟨_, hbad⟩
    | some uri =>
      obtain ⟨errors, body, -, h⟩ := b.addImport_legible hnodes huri
      exact .inr ⟨errors, _, body, h⟩

/-! ## Expressions -/

/-- The forest after one node is attached to another, if it can be. -/
def graft (f : Forest) (parent child : NodeId) : Forest :=
  match f.attach parent child none with
  | .ok (forest, _) => forest
  | .error _ => f

theorem beginExpr_inside {frame : Frame} {outer : List Frame} (h : b.frames = frame :: outer)
    (path : Tree.Path) (t : Tree) : b.beginExpr path t =
      { b.addNode t (.expression {}) with
        forest := graft (b.addNode t (.expression {})).forest frame.node b.forest.nextNode
        frames := ⟨path, b.forest.nextNode, []⟩ ::
          { frame with pending := frame.pending ++ [b.forest.nextNode] } :: outer } := by
  unfold beginExpr
  dsimp only [addNode]
  rw [h]
  rfl

theorem beginExpr_outside (h : b.frames = []) (path : Tree.Path) (t : Tree) :
    b.beginExpr path t =
      let b₁ : Builder :=
        { b.addNode t (.expression {}) with lastExpression := some b.forest.nextNode }
      { (if b₁.currentKind == Kind.document then
          { b₁ with standalone := some b.forest.nextNode }
        else b₁.attachLeaf b.forest.nextNode none : Builder) with
        frames := [⟨path, b.forest.nextNode, []⟩] } := by
  unfold beginExpr attachLeaf
  dsimp only [addNode, current]
  rw [h]
  dsimp only
  split
  · rfl
  · generalize Forest.attach _ _ _ _ = result
    cases result <;> rfl

/-! ## Versions -/

/-- Notes the version of a document. -/
def noteVersion (f : Forest) (id : NodeId) (version : String) : Forest :=
  f.modifyBody id fun
    | .document d => .document { d with version }
    | body => body

/-- The version is noted, and is an error unless it is known. -/
theorem setVersion_eq (t : Tree) : ∃ errors, b.setVersion t =
    ({ b with forest := noteVersion b.forest b.document t.tokenText } : Builder).withReports
      (b.syntaxErrors ++ errors) b.problems := by
  unfold setVersion
  dsimp only
  split
  · refine ⟨[], ?_⟩
    rw [List.append_nil]
    rfl
  · exact ⟨_, rfl⟩

/-! ## Options of placeholders -/

theorem readOptions_eq (ts : List Tree) (o : OptionList) : ∃ errors,
    (b.readOptions ts o).1 = b.withReports (b.syntaxErrors ++ errors) b.problems := by
  induction ts generalizing b o with
  | nil => exact ⟨[], b.withReports_nil.symm⟩
  | cons t ts ih =>
    unfold readOptions
    dsimp only
    split
    · obtain ⟨errors, h⟩ :=
        ih (b.syntaxErrorAt t ("unknown placeholder option " ++ t.childText 0)) o
      exact ⟨_, h.trans (congrArg (b.withReports · b.problems) (List.append_assoc ..))⟩
    · split
      · exact ih b _
      · split
        · split
          · exact ih b _
          · cases (Tree.children _).head? with
            | none => exact ⟨[], b.withReports_nil.symm⟩
            | some c => exact ⟨_, rfl⟩
        · exact ih b o

/-- Gives options to an expression. -/
def giveOptions (f : Forest) (id : NodeId) (options : List (String × Value)) : Forest :=
  f.modifyBody id fun
    | .expression e => .expression { e with options := Assoc.update e.options options }
    | body => body

/-- The end of a placeholder gives its options to its expression. -/
theorem endPlaceholder_eq (t : Tree) : ∃ errors problems, b.endPlaceholder t =
    { b.withReports errors (b.problems ++ problems) with
      forest :=
        match b.placeholderTarget, (b.readOptions (t.childrenOf .placeholderOption) {}).2 with
        | some id, some o => giveOptions b.forest id o.options
        | _, _ => b.forest } := by
  obtain ⟨errors, hread⟩ := b.readOptions_eq (t.childrenOf .placeholderOption) {}
  unfold endPlaceholder
  generalize b.readOptions (t.childrenOf .placeholderOption) {} = result at hread ⊢
  obtain ⟨b₁, o?⟩ := result
  dsimp only at hread ⊢
  subst hread
  cases o? with
  | none =>
    refine ⟨b.syntaxErrors ++ errors, [], ?_⟩
    rw [List.append_nil]
    cases b.placeholderTarget <;> rfl
  | some o =>
    dsimp only
    cases b.placeholderTarget with
    | none =>
      exact ⟨_, _, foldl_reportAt_eq (b.withReports (b.syntaxErrors ++ errors) b.problems)
        (fun x => .redefinition ("repeated placeholder option " ++ x.2)) Prod.fst o.repeated⟩
    | some id =>
      exact ⟨_, _, foldl_reportAt_eq { b.withReports (b.syntaxErrors ++ errors) b.problems
          with forest := giveOptions b.forest id o.options }
        (fun x => .redefinition ("repeated placeholder option " ++ x.2)) Prod.fst o.repeated⟩

/-! ## Commands -/

/-- Adds a part to the command of a task. -/
def extendCommand (f : Forest) (id : NodeId) (part : String) : Forest :=
  f.modifyBody id fun
    | .task x t => .task x { t with command := t.command ++ [part] }
    | body => body

/-- The task whose command is open and part of the document. -/
def commandTask? : Option NodeId :=
  if b.currentKind == .block .command && b.current.rooted then
    (b.sections.find? fun c => b.forest.kind? c.node == some .task).map Context.node
  else none

theorem addCommandPart_eq (part : String) : b.addCommandPart part =
    { b with
      forest :=
        match b.commandTask? with
        | some id => extendCommand b.forest id part
        | none => b.forest } := by
  unfold addCommandPart commandTask?
  split
  · cases b.sections.find? fun c => b.forest.kind? c.node == some .task <;> rfl
  · rfl

/-! ## The end -/

/-- What is recorded of a section that is still open at the end. -/
def unfinished (c : Context) : DocumentProblem :=
  ⟨.mismatchContext ((b.forest.kind? c.node).getD .document) none, none, b.forest.position? c.node⟩

theorem foldl_unfinished (cs : List Context) :
    cs.foldl
      (fun b c =>
        b.reportAt (.mismatchContext ((b.forest.kind? c.node).getD .document) none)
          (b.forest.position? c.node)) b =
      b.withReports b.syntaxErrors (b.problems ++ cs.map b.unfinished) := by
  induction cs generalizing b with
  | nil =>
    rw [List.map_nil, List.append_nil]
    rfl
  | cons c cs ih =>
    refine (ih _).trans (congrArg (b.withReports b.syntaxErrors) ?_)
    exact List.append_assoc b.problems [b.unfinished c] _

/-- The end of a walk closes all sections, each of which is a problem, and records errors. -/
theorem finish_eq : ∃ errors, b.finish =
    { b.withReports ((b.syntaxErrors ++ errors).mergeSort errorLe)
        (b.problems ++ b.sections.map b.unfinished) with
      sections := [] } := by
  generalize hb : b.withReports b.syntaxErrors (b.problems ++ b.sections.map b.unfinished) = b'
  have hversion : ∀ c : Bool, ∃ errors,
      (if c then b'.syntaxError "missing version statement" (b.origin.point 1 1) else b') =
        b'.withReports (b.syntaxErrors ++ errors) b'.problems := by
    rw [← hb]
    intro c
    split
    · exact ⟨_, rfl⟩
    · exact ⟨[], by rw [List.append_nil]; rfl⟩
  unfold finish
  dsimp only
  rw [foldl_unfinished, hb]
  rw [← hb] at hversion ⊢
  exact (hversion _).elim fun errors h => ⟨errors, congrArg
    (fun b : Builder =>
      { b with sections := [], syntaxErrors := b.syntaxErrors.mergeSort errorLe }) h⟩

variable {b} in
/-- A builder that has recorded no error at its end has recorded none before. -/
theorem finish_clean (h : b.finish.syntaxErrors = []) : b.syntaxErrors = [] := by
  obtain ⟨errors, hfinish⟩ := b.finish_eq
  rw [hfinish] at h
  have hperm := List.mergeSort_perm (b.syntaxErrors ++ errors) errorLe
  rw [show (b.syntaxErrors ++ errors).mergeSort errorLe = [] from h] at hperm
  exact (List.append_eq_nil_iff.mp hperm.nil_eq.symm).1

theorem finish_forest : b.finish.forest = b.forest := by
  obtain ⟨errors, hfinish⟩ := b.finish_eq
  rw [hfinish]
  rfl

theorem finish_standalone : b.finish.standalone = b.standalone := by
  obtain ⟨errors, hfinish⟩ := b.finish_eq
  rw [hfinish]
  rfl

end Builder
end Wdl
