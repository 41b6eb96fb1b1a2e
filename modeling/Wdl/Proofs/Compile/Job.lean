import Wdl.Proofs.Builder.Errors
import Wdl.Proofs.Document.Forest
import Wdl.Proofs.Expr.Balance

/-!
The expression that is being compiled.

A `Job` is what a builder knows of the innermost expression that is open: the items so far, and the
nested expressions that wait for the construct around them.  `Walked j b b' js ids es` says what
part of a walk did for the job `j`: it put in the items `js`, and left the expressions `es` waiting,
under the numbers `ids`.  Everything else is as before, and all expressions that are new are
balanced.

The lemmas here are about the steps that compilation is made of: putting in an item, putting in what
waits, and beginning and ending an expression.
-/

namespace Wdl

structure Job where
  path : Tree.Path
  node : NodeId
  outer : List Frame
  info : ExprInfo
  items : List Item
  pending : List NodeId

namespace Job

/-- The job with more items and more expressions that wait. -/
def add (j : Job) (js : List Item) (ids : List NodeId) : Job :=
  { j with items := j.items ++ js, pending := j.pending ++ ids }

theorem add_nil (j : Job) : j.add [] [] = j := by
  simp [add]

theorem add_add (j : Job) (is js : List Item) (ids ids' : List NodeId) :
    (j.add is ids).add js ids' = j.add (is ++ js) (ids ++ ids') := by
  simp [add, List.append_assoc]

end Job

namespace Builder

/-- The builder works on a job. -/
structure Compiling (b : Builder) (j : Job) : Prop where
  current : b.forest.expr? j.node = some ⟨j.info, j.items⟩
  frames : b.frames = ⟨j.path, j.node, j.pending⟩ :: j.outer

/-- All expressions but one are as they were, and those that are new are balanced. -/
structure Keeps (node : NodeId) (b b' : Builder) : Prop where
  le : b.forest.nextNode ≤ b'.forest.nextNode
  old : ∀ id < b.forest.nextNode, id ≠ node → b'.forest.expr? id = b.forest.expr? id
  new : ∀ id e, b.forest.nextNode ≤ id → b'.forest.expr? id = some e → e.isBalanced = true

namespace Keeps

variable {node : NodeId} {b b' b'' : Builder}

theorem of_expr? (hnext : b'.forest.nextNode = b.forest.nextNode)
    (h : ∀ id, id ≠ node → b'.forest.expr? id = b.forest.expr? id) : Keeps node b b' where
  le := Nat.le_of_eq hnext.symm
  old id _ hne := h id hne
  new id e hle he := by
    have hlt := Forest.lt_of_expr? _ he
    rw [hnext] at hlt
    exact absurd hlt (Nat.not_lt.mpr hle)

theorem refl (node : NodeId) (b : Builder) : Keeps node b b :=
  of_expr? rfl fun _ _ => rfl

theorem trans (hnode : node < b.forest.nextNode) (h : Keeps node b b') (h' : Keeps node b' b'') :
    Keeps node b b'' where
  le := Nat.le_trans h.le h'.le
  old id hid hne := (h'.old id (Nat.lt_of_lt_of_le hid h.le) hne).trans (h.old id hid hne)
  new id e hle he := by
    by_cases hid : id < b'.forest.nextNode
    · rw [h'.old id hid (Nat.ne_of_gt (Nat.lt_of_lt_of_le hnode hle))] at he
      exact h.new id e hle he
    · exact h'.new id e (Nat.le_of_not_lt hid) he

end Keeps

/-- What a part of a walk does for a job. -/
structure Walked (j : Job) (b b' : Builder) (js : List Item) (ids : List NodeId) (es : List Expr) :
    Prop where
  compiling : b'.Compiling (j.add js ids)
  keeps : Keeps j.node b b'
  fresh : ∀ id ∈ ids, b.forest.nextNode ≤ id
  waits : ids.map b'.forest.expr? = es.map some
  standalone : b'.standalone = b.standalone

/-! ## Items -/

theorem modifyItems_expr? (b : Builder) (id : NodeId) (g : List Item → List Item) (i : NodeId) :
    (b.modifyItems id g).forest.expr? i =
      if id = i then (b.forest.expr? i).map fun e => { e with items := g e.items }
      else b.forest.expr? i := by
  unfold modifyItems
  split
  · next h =>
    rw [Forest.expr?_eq, Forest.expr?_eq, Forest.node?_modifyBody, if_pos h]
    cases b.forest.node? i with
    | none => rfl
    | some n =>
      obtain ⟨body, span, position, parent⟩ := n
      cases body <;> rfl
  · next h => exact Forest.expr?_modifyBody_of_ne _ h

namespace Compiling

variable {b : Builder} {j : Job}

theorem node_lt (h : b.Compiling j) : j.node < b.forest.nextNode :=
  Forest.lt_of_expr? _ h.current

theorem emit_eq (h : b.Compiling j) (i : Item) :
    b.emit i = b.modifyItems j.node fun items => items ++ [i] := by
  rw [Builder.emit, h.frames]

theorem modifyItems (h : b.Compiling j) (g : List Item → List Item) :
    (b.modifyItems j.node g).Compiling { j with items := g j.items } where
  current := by rw [modifyItems_expr?, if_pos rfl, h.current]; rfl
  frames := h.frames

end Compiling

namespace Walked

variable {j : Job} {b b₁ b₂ : Builder} {is js : List Item} {ids ids' : List NodeId}
variable {es es' : List Expr}

theorem refl (h : b.Compiling j) : Walked j b b [] [] [] where
  compiling := by rw [j.add_nil]; exact h
  keeps := .refl _ _
  fresh := List.forall_mem_nil _
  waits := rfl
  standalone := rfl

/-- The numbers of what waits are those of other expressions than the current one. -/
theorem ne_of_mem (hb : b.Compiling j) (h : Walked j b b₁ is ids es) {id : NodeId}
    (hid : id ∈ ids) : id ≠ j.node :=
  Nat.ne_of_gt (Nat.lt_of_lt_of_le hb.node_lt (h.fresh id hid))

theorem expr?_of_mem (h : Walked j b b₁ is ids es) {id : NodeId} (hid : id ∈ ids) :
    ∃ e, b₁.forest.expr? id = some e := by
  have hmem : b₁.forest.expr? id ∈ es.map some := by
    rw [← h.waits]
    exact List.mem_map_of_mem hid
  obtain ⟨e, -, he⟩ := List.mem_map.mp hmem
  exact ⟨e, he.symm⟩

/-- What waits stays as it is while other expressions change. -/
theorem waits_of_keeps (hb : b.Compiling j) (h : Walked j b b₁ is ids es)
    (hk : Keeps j.node b₁ b₂) : ids.map b₂.forest.expr? = es.map some := by
  rw [← h.waits]
  refine List.map_congr_left fun id hid => ?_
  obtain ⟨e, he⟩ := h.expr?_of_mem hid
  exact hk.old id (Forest.lt_of_expr? _ he) (h.ne_of_mem hb hid)

theorem trans (hb : b.Compiling j) (h : Walked j b b₁ is ids es)
    (h' : Walked (j.add is ids) b₁ b₂ js ids' es') :
    Walked j b b₂ (is ++ js) (ids ++ ids') (es ++ es') where
  compiling := by rw [← Job.add_add]; exact h'.compiling
  keeps := h.keeps.trans hb.node_lt h'.keeps
  fresh id hid := by
    rcases List.mem_append.mp hid with hid | hid
    · exact h.fresh id hid
    · exact Nat.le_trans h.keeps.le (h'.fresh id hid)
  waits := by
    rw [List.map_append, List.map_append, h.waits_of_keeps hb h'.keeps, h'.waits]
  standalone := h'.standalone.trans h.standalone

theorem congr (h : Walked j b b₁ is ids es) (hnext : b₂.forest.nextNode = b₁.forest.nextNode)
    (hexpr : ∀ id, b₂.forest.expr? id = b₁.forest.expr? id) (hframes : b₂.frames = b₁.frames)
    (hstandalone : b₂.standalone = b₁.standalone) : Walked j b b₂ is ids es where
  compiling := ⟨(hexpr _).trans h.compiling.current, hframes.trans h.compiling.frames⟩
  keeps :=
    { le := by rw [hnext]; exact h.keeps.le
      old := fun id hid hne => (hexpr id).trans (h.keeps.old id hid hne)
      new := fun id e hid he => h.keeps.new id e hid ((hexpr id).symm.trans he) }
  fresh := h.fresh
  waits := by rw [← h.waits]; exact List.map_congr_left fun id _ => hexpr id
  standalone := hstandalone.trans h.standalone

theorem modifyItems (hb : b.Compiling j) (h : Walked j b b₁ is ids es)
    {g : List Item → List Item} (hg : g (j.items ++ is) = j.items ++ js) :
    Walked j b (b₁.modifyItems j.node g) js ids es := by
  have hk : Keeps j.node b₁ (b₁.modifyItems j.node g) :=
    .of_expr? (Forest.nextNode_modifyBody ..) fun id hne => by
      rw [modifyItems_expr?, if_neg (Ne.symm hne)]
  refine ⟨?_, h.keeps.trans hb.node_lt hk, h.fresh, h.waits_of_keeps hb hk, h.standalone⟩
  have := h.compiling.modifyItems g
  rw [show (j.add is ids).items = j.items ++ is from rfl, hg] at this
  exact this

theorem emit (hb : b.Compiling j) (h : Walked j b b₁ is ids es) (i : Item) :
    Walked j b (b₁.emit i) (is ++ [i]) ids es := by
  rw [h.compiling.emit_eq]
  exact h.modifyItems hb (List.append_assoc ..)

/-- Expressions that wait no longer are put in one after another. -/
theorem emitAll (hb : b.Compiling j) (ids : List NodeId) (es : List Expr)
    (h : Walked j b b₁ is [] []) (hne : ∀ id ∈ ids, id ≠ j.node)
    (hes : ids.map b₁.forest.expr? = es.map some) :
    Walked j b
      (ids.foldl
        (fun b id =>
          match b.forest.expr? id with
          | some e => b.emit e.toItem
          | none => b)
        b₁)
      (is ++ es.map Expr.toItem) [] [] := by
  induction ids generalizing b₁ is es with
  | nil =>
    obtain rfl : es = [] := by simpa using hes.symm
    rw [List.map_nil, List.append_nil]
    exact h
  | cons id ids ih =>
    obtain ⟨e, es, rfl⟩ : ∃ e es', es = e :: es' := by
      cases es with
      | nil => cases hes
      | cons e es => exact ⟨e, es, rfl⟩
    rw [List.map_cons, List.map_cons, List.cons.injEq] at hes
    obtain ⟨hid, hrest⟩ := List.forall_mem_cons.mp hne
    rw [List.foldl_cons, hes.1]
    have hids : ids.map (b₁.emit e.toItem).forest.expr? = es.map some := by
      rw [← hes.2]
      refine List.map_congr_left fun i hi => ?_
      rw [h.compiling.emit_eq, modifyItems_expr?, if_neg]
      exact Ne.symm (hrest i hi)
    have := ih es (h.emit hb e.toItem) hrest hids
    rwa [List.append_assoc] at this

theorem emitPending (hb : b.Compiling j) (h : Walked j b b₁ is ids es) {n : Nat}
    (hn : es.length = n) : Walked j b (b₁.emitPending n) (is ++ es.map Expr.toItem) [] [] := by
  obtain rfl : ids.length = n := by
    have hlength := congrArg List.length h.waits
    rw [List.length_map, List.length_map] at hlength
    exact hlength.trans hn
  have hframes : b₁.frames = ⟨j.path, j.node, j.pending ++ ids⟩ :: j.outer := h.compiling.frames
  rw [Builder.emitPending, hframes]
  dsimp only
  have hkept : (j.pending ++ ids).length - ids.length = j.pending.length := by simp
  rw [hkept, List.take_left, List.drop_left]
  refine emitAll hb ids es ⟨⟨?_, ?_⟩, ?_, List.forall_mem_nil _, rfl, h.standalone⟩ ?_ h.waits
  · exact h.compiling.current
  · simp [Job.add]
  · exact ⟨h.keeps.le, h.keeps.old, h.keeps.new⟩
  · exact fun id hid => h.ne_of_mem hb hid

end Walked

/-! ## Tokens -/

theorem addCommandPart_frames (b : Builder) (text : String) :
    (b.addCommandPart text).frames = b.frames := by
  unfold addCommandPart
  split
  · split <;> rfl
  · rfl

theorem addCommandPart_standalone (b : Builder) (text : String) :
    (b.addCommandPart text).standalone = b.standalone := by
  unfold addCommandPart
  split
  · split <;> rfl
  · rfl

theorem addCommandPart_nextNode (b : Builder) (text : String) :
    (b.addCommandPart text).forest.nextNode = b.forest.nextNode := by
  unfold addCommandPart
  split
  · split
    · exact Forest.nextNode_modifyBody ..
    · rfl
  · rfl

theorem addCommandPart_expr? (b : Builder) (text : String) (id : NodeId) :
    (b.addCommandPart text).forest.expr? id = b.forest.expr? id := by
  unfold addCommandPart
  split
  · split
    · refine Forest.expr?_modifyBody _ _ (fun n => ?_) id
      obtain ⟨body, span, position, parent⟩ := n
      cases body <;> rfl
    · rfl
  · rfl

theorem visitToken_frames (b : Builder) (k : Token) : (b.visitToken k).frames = b.frames := by
  unfold visitToken
  split
  · exact b.addCommandPart_frames k.text
  · rfl

theorem visitToken_standalone (b : Builder) (k : Token) :
    (b.visitToken k).standalone = b.standalone := by
  unfold visitToken
  split
  · exact b.addCommandPart_standalone k.text
  · rfl

theorem visitToken_nextNode (b : Builder) (k : Token) :
    (b.visitToken k).forest.nextNode = b.forest.nextNode := by
  unfold visitToken
  split
  · exact b.addCommandPart_nextNode k.text
  · rfl

theorem visitToken_expr? (b : Builder) (k : Token) (id : NodeId) :
    (b.visitToken k).forest.expr? id = b.forest.expr? id := by
  unfold visitToken
  split
  · exact b.addCommandPart_expr? k.text id
  · rfl

/-! ## Expressions -/

/-- The open expressions around one that is begun: it waits in the innermost of them. -/
def framesAround (b : Builder) : List Frame :=
  match b.frames with
  | frame :: outer => { frame with pending := frame.pending ++ [b.forest.nextNode] } :: outer
  | [] => []

theorem beginExpr_frames (b : Builder) (path : Tree.Path) (t : Tree) :
    (b.beginExpr path t).frames = ⟨path, b.forest.nextNode, []⟩ :: b.framesAround := by
  unfold beginExpr framesAround
  dsimp only [addNode]
  cases b.frames with
  | cons frame outer => rfl
  | nil =>
    dsimp only
    split
    · rfl
    · split <;> rfl

/-- An expression outside of all others stands alone, unless it is in a section. -/
theorem beginExpr_standalone (b : Builder) (path : Tree.Path) (t : Tree) :
    (b.beginExpr path t).standalone =
      if b.frames.isEmpty && (b.addNode t (.expression {})).currentKind == .document then
        some b.forest.nextNode
      else b.standalone := by
  unfold beginExpr
  dsimp only [addNode]
  cases b.frames with
  | cons frame outer => rfl
  | nil =>
    dsimp only
    split
    · next h => exact (if_pos h).symm
    · next h =>
      refine Eq.trans ?_ (if_neg h).symm
      split <;> rfl

/-- What beginning an expression does to the forest: a node is added, and perhaps attached. -/
theorem beginExpr_forest (b : Builder) (path : Tree.Path) (t : Tree) :
    (b.beginExpr path t).forest = (b.addNode t (.expression {})).forest ∨
      ∃ parent id, (b.addNode t (.expression {})).forest.attach parent b.forest.nextNode =
        .ok ((b.beginExpr path t).forest, id) := by
  unfold beginExpr
  dsimp only [addNode]
  cases b.frames with
  | cons frame outer =>
    dsimp only
    split
    · next forest id h => exact .inr ⟨_, id, h⟩
    · exact .inl rfl
  | nil =>
    dsimp only
    split
    · exact .inl rfl
    · split
      · next forest id h => exact .inr ⟨_, id, h⟩
      · exact .inl rfl

theorem beginExpr_expr? (b : Builder) (path : Tree.Path) (t : Tree) (id : NodeId) :
    (b.beginExpr path t).forest.expr? id =
      (b.addNode t (.expression {})).forest.expr? id := by
  rcases b.beginExpr_forest path t with h | ⟨parent, i, h⟩
  · rw [h]
  · exact Forest.attach_expr? h id

theorem beginExpr_nextNode (b : Builder) (path : Tree.Path) (t : Tree) :
    (b.beginExpr path t).forest.nextNode = b.forest.nextNode + 1 := by
  have hadd : (b.addNode t (.expression {})).forest.nextNode = b.forest.nextNode + 1 :=
    Forest.nextNode_addNode _ _
  rcases b.beginExpr_forest path t with h | ⟨parent, i, h⟩
  · rw [h, hadd]
  · rw [Forest.attach_nextNode h, hadd]

/-- The job of an expression that has just been begun. -/
def jobOf (b : Builder) (path : Tree.Path) (t : Tree) : Job where
  path := path
  node := b.forest.nextNode
  outer := b.framesAround
  info := ⟨t.span, some (t.position b.origin), [], some b.forest.nextNode⟩
  items := []
  pending := []

theorem beginExpr_compiling (b : Builder) (path : Tree.Path) (t : Tree) :
    (b.beginExpr path t).Compiling (b.jobOf path t) where
  current := by
    rw [beginExpr_expr?, Forest.expr?_eq]
    unfold addNode
    rw [show (b.jobOf path t).node = b.forest.nextNode from rfl, Forest.node?_addNode_self]
    rfl
  frames := b.beginExpr_frames path t

theorem endExpr_eq {b : Builder} {j : Job} (h : b.Compiling j) (t : Tree) :
    b.endExpr j.path t = { b with frames := j.outer } := by
  rw [endExpr, h.frames]
  simp

end Builder
end Wdl
