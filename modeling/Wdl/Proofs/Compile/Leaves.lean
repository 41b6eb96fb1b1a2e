import Wdl.Proofs.Compile.Placeholders
import Wdl.Proofs.Compile.Residue

/-!
What a walk changes in the expressions of a builder.

`Leaves r b b'` says that `b'` comes from `b` by a walk that leaves the residue `r`: the innermost
open expression has more items at its end and more nested expressions that wait, as `r` has them,
and all other expressions that were there are as before.  Where no expression is open only the last
expression outside of all others is kept track of, since the options of a placeholder are given to
it.

The steps of compilation each have a lemma that adds them to a walk.
-/

namespace Wdl

open Builder

/-! ## Expressions that wait -/

/-- Expressions that were added from `base` on, under different numbers, up to their places. -/
structure Forest.Waits (f : Forest) (base : NodeId) (ids : List NodeId) (es : List Expr) : Prop where
  fresh : ∀ id ∈ ids, base ≤ id
  nodup : ids.Nodup
  found : ids.map (fun id => (f.expr? id).map Expr.placeless) = es.map some

namespace Forest.Waits

variable {f g : Forest} {base mid : NodeId} {ids ids' : List NodeId} {es es' : List Expr}

theorem nil (f : Forest) (base : NodeId) : f.Waits base [] [] :=
  ⟨List.forall_mem_nil _, List.nodup_nil, rfl⟩

theorem length (h : f.Waits base ids es) : ids.length = es.length := by
  have := congrArg List.length h.found
  rwa [List.length_map, List.length_map] at this

theorem exists_expr? (h : f.Waits base ids es) {id : NodeId} (hid : id ∈ ids) :
    ∃ e, f.expr? id = some e := by
  have hmem : (f.expr? id).map Expr.placeless ∈ es.map some := by
    rw [← h.found]
    exact List.mem_map_of_mem hid
  obtain ⟨e, -, he⟩ := List.mem_map.mp hmem
  obtain ⟨e', he', -⟩ := Option.map_eq_some_iff.mp he.symm
  exact ⟨e', he'⟩

theorem lt (h : f.Waits base ids es) {id : NodeId} (hid : id ∈ ids) : id < f.nextNode := by
  obtain ⟨e, he⟩ := h.exists_expr? hid
  exact Forest.lt_of_expr? _ he

/-- What waits still waits where the expressions are the same. -/
theorem congr (h : f.Waits base ids es)
    (hexpr : ∀ id, base ≤ id → id < f.nextNode → g.expr? id = f.expr? id) :
    g.Waits base ids es where
  fresh := h.fresh
  nodup := h.nodup
  found := by
    rw [← h.found]
    refine List.map_congr_left fun id hid => ?_
    rw [hexpr id (h.fresh id hid) (h.lt hid)]

/-- What has been added later waits after what waited before. -/
theorem append (h : f.Waits base ids es) (h' : f.Waits mid ids' es') (hle : base ≤ mid)
    (hlt : ∀ id ∈ ids, id < mid) : f.Waits base (ids ++ ids') (es ++ es') where
  fresh := by
    intro id hid
    rcases List.mem_append.mp hid with hid | hid
    · exact h.fresh id hid
    · exact Nat.le_trans hle (h'.fresh id hid)
  nodup := by
    refine List.nodup_append.mpr ⟨h.nodup, h'.nodup, ?_⟩
    intro a ha b hb
    exact Nat.ne_of_lt (Nat.lt_of_lt_of_le (hlt a ha) (h'.fresh b hb))
  found := by rw [List.map_append, List.map_append, h.found, h'.found]

theorem take (h : f.Waits base ids es) (n : Nat) : f.Waits base (ids.take n) (es.take n) where
  fresh id hid := h.fresh id (List.mem_of_mem_take hid)
  nodup := h.nodup.sublist (List.take_sublist n ids)
  found := by rw [List.map_take, h.found, List.map_take]

theorem drop (h : f.Waits base ids es) (n : Nat) : f.Waits base (ids.drop n) (es.drop n) where
  fresh id hid := h.fresh id (List.mem_of_mem_drop hid)
  nodup := h.nodup.sublist (List.drop_sublist n ids)
  found := by rw [List.map_drop, h.found, List.map_drop]

/-- The expressions that wait, with their places. -/
theorem exprs (h : f.Waits base ids es) :
    ∃ es' : List Expr, ids.map f.expr? = es'.map some ∧ es'.map Expr.placeless = es := by
  obtain ⟨-, -, hfound⟩ := h
  induction ids generalizing es with
  | nil =>
    obtain rfl : es = [] := by simpa using hfound.symm
    exact ⟨[], rfl, rfl⟩
  | cons id ids ih =>
    cases es with
    | nil => exact nomatch hfound
    | cons e es =>
      rw [List.map_cons, List.map_cons, List.cons.injEq] at hfound
      obtain ⟨e', he', rfl⟩ := Option.map_eq_some_iff.mp hfound.1
      obtain ⟨es', hes', rfl⟩ := ih hfound.2
      exact ⟨e' :: es', by rw [List.map_cons, List.map_cons, he', hes'], rfl⟩

/-- A change to the expression that waits last. -/
theorem modifyLast (h : f.Waits base ids es) {id : NodeId} {e : Expr}
    (hid : ids.getLast? = some id) (he : es.getLast? = some e) {change : Expr → Expr}
    (hchange : ∀ e, (change e).placeless = change e.placeless)
    (hself : g.expr? id = (f.expr? id).map change)
    (hother : ∀ i, i ≠ id → g.expr? i = f.expr? i) :
    g.Waits base ids (es.dropLast ++ [change e]) := by
  obtain ⟨front, rfl⟩ := List.getLast?_eq_some_iff.mp hid
  obtain ⟨others, rfl⟩ := List.getLast?_eq_some_iff.mp he
  have hfound := h.found
  have hlength : front.length = others.length := by
    have := h.length
    simpa using this
  rw [List.map_append, List.map_append] at hfound
  obtain ⟨hfront, hlast⟩ := List.append_inj hfound (by simpa using hlength)
  refine ⟨h.fresh, h.nodup, ?_⟩
  rw [List.dropLast_concat, List.map_append, List.map_append]
  congr 1
  · rw [← hfront]
    refine List.map_congr_left fun i hi => ?_
    have hne : i ≠ id := by
      intro heq
      have hnodup := (List.nodup_append.mp h.nodup).2.2
      exact hnodup i hi id List.mem_cons_self heq
    rw [hother i hne]
  · obtain ⟨e', he', heq⟩ := Option.map_eq_some_iff.mp (List.cons.inj hlast).1
    rw [List.map_singleton, List.map_singleton, hself, he', Option.map_some, Option.map_some,
      hchange, heq]

end Forest.Waits

namespace Builder

/-! ## Changes to one expression -/

/-- Nothing but the items of the expression `node` changes, as `g` says. -/
structure Rewrites (node : NodeId) (g : List Item → List Item) (b b' : Builder) : Prop where
  frames : b'.frames = b.frames
  lastExpression : b'.lastExpression = b.lastExpression
  nextNode : b'.forest.nextNode = b.forest.nextNode
  self : b'.forest.expr? node = (b.forest.expr? node).map fun e => { e with items := g e.items }
  other : ∀ id, id ≠ node → b'.forest.expr? id = b.forest.expr? id

theorem modifyItems_rewrites (b : Builder) (node : NodeId) (g : List Item → List Item) :
    Rewrites node g b (b.modifyItems node g) where
  frames := rfl
  lastExpression := rfl
  nextNode := Forest.nextNode_modifyBody ..
  self := by rw [modifyItems_expr?, if_pos rfl]
  other id hid := by rw [modifyItems_expr?, if_neg (Ne.symm hid)]

theorem emit_rewrites {b : Builder} {frame : Frame} {outer : List Frame}
    (hframes : b.frames = frame :: outer) (i : Item) :
    Rewrites frame.node (· ++ [i]) b (b.emit i) := by
  rw [emit, hframes]
  exact modifyItems_rewrites b frame.node _

theorem emit_of_nil {b : Builder} (hframes : b.frames = []) (i : Item) : b.emit i = b := by
  rw [emit, hframes]

/-- The expressions that are put in are not changed on the way. -/
theorem emitAll_rewrites {b : Builder} {frame : Frame} {outer : List Frame}
    (hframes : b.frames = frame :: outer) (ids : List NodeId) (es : List Expr)
    (hne : ∀ id ∈ ids, id ≠ frame.node) (hes : ids.map b.forest.expr? = es.map some) :
    Rewrites frame.node (· ++ es.map Expr.toItem) b
      (ids.foldl
        (fun b id =>
          match b.forest.expr? id with
          | some e => b.emit e.toItem
          | none => b)
        b) := by
  induction ids generalizing b es with
  | nil =>
    obtain rfl : es = [] := by simpa using hes.symm
    refine ⟨rfl, rfl, rfl, ?_, fun _ _ => rfl⟩
    simp
  | cons id ids ih =>
    obtain ⟨e, es, rfl⟩ : ∃ e es', es = e :: es' := by
      cases es with
      | nil => exact nomatch hes
      | cons e es => exact ⟨e, es, rfl⟩
    rw [List.map_cons, List.map_cons, List.cons.injEq] at hes
    obtain ⟨hid, hrest⟩ := List.forall_mem_cons.mp hne
    have hone := emit_rewrites hframes e.toItem
    have hids : ids.map (b.emit e.toItem).forest.expr? = es.map some := by
      rw [← hes.2]
      exact List.map_congr_left fun i hi => hone.other i (hrest i hi)
    have hmore := ih (hone.frames.trans hframes) es hrest hids
    rw [List.foldl_cons, hes.1]
    refine ⟨hmore.frames.trans hone.frames, hmore.lastExpression.trans hone.lastExpression,
      hmore.nextNode.trans hone.nextNode, ?_, fun i hi => (hmore.other i hi).trans (hone.other i hi)⟩
    rw [hmore.self, hone.self, Option.map_map]
    congr 1
    funext x
    simp

/-! ## Walks -/

/-- The node of the innermost open expression. -/
def focus? (b : Builder) : Option NodeId :=
  b.frames.head?.map Frame.node

/-- The innermost open expression, if there is one, is a node of the forest. -/
def Seated (b : Builder) : Prop :=
  ∀ id, b.focus? = some id → ∃ e, b.forest.expr? id = some e

/-- What a walk adds to the innermost open expression, or outside of all expressions, that the last
expression is one that it has added, if it leaves any. -/
inductive Contributes (r : Residue) (b b' : Builder) : Prop
  | outside (frames : b.frames = []) (frames' : b'.frames = [])
      (last : b'.lastExpression = b.lastExpression ∨
        ∃ id, b'.lastExpression = some id ∧ b.forest.nextNode ≤ id)
      (latest : r.waiting ≠ [] → ∃ id, b'.lastExpression = some id ∧ b.forest.nextNode ≤ id)
  | inside {frame : Frame} {outer : List Frame} {e : Expr} (js : List Item) (ids : List NodeId)
      (frames : b.frames = frame :: outer)
      (frames' : b'.frames = { frame with pending := frame.pending ++ ids } :: outer)
      (last : b'.lastExpression = b.lastExpression)
      (current : b.forest.expr? frame.node = some e)
      (current' : b'.forest.expr? frame.node = some { e with items := e.items ++ js })
      (items : Item.placelessList js = r.items)
      (waits : b'.forest.Waits b.forest.nextNode ids r.waiting)

/-- What a walk that leaves the residue `r` does to expressions. -/
structure Leaves (r : Residue) (b b' : Builder) : Prop where
  le : b.forest.nextNode ≤ b'.forest.nextNode
  old : ∀ id < b.forest.nextNode, b.focus? ≠ some id → b'.forest.expr? id = b.forest.expr? id
  contributes : Contributes r b b'

/-- No expression changes, none is open that was not, and the last one stays. -/
structure Idle (b b' : Builder) : Prop where
  frames : b'.frames = b.frames
  lastExpression : b'.lastExpression = b.lastExpression
  le : b.forest.nextNode ≤ b'.forest.nextNode
  expr? : ∀ id < b.forest.nextNode, b'.forest.expr? id = b.forest.expr? id

namespace Idle

variable {b b' b'' : Builder}

theorem of_expr? (hframes : b'.frames = b.frames) (hlast : b'.lastExpression = b.lastExpression)
    (hnext : b'.forest.nextNode = b.forest.nextNode)
    (h : ∀ id, b'.forest.expr? id = b.forest.expr? id) : Idle b b' :=
  ⟨hframes, hlast, Nat.le_of_eq hnext.symm, fun id _ => h id⟩

theorem refl (b : Builder) : Idle b b := of_expr? rfl rfl rfl fun _ => rfl

theorem trans (h : Idle b b') (h' : Idle b' b'') : Idle b b'' where
  frames := h'.frames.trans h.frames
  lastExpression := h'.lastExpression.trans h.lastExpression
  le := Nat.le_trans h.le h'.le
  expr? id hid := (h'.expr? id (Nat.lt_of_lt_of_le hid h.le)).trans (h.expr? id hid)

end Idle

namespace Leaves

variable {r s : Residue} {b b₁ b₂ : Builder}

theorem focus?_of_frames {frame : Frame} {outer : List Frame} (h : b.frames = frame :: outer) :
    b.focus? = some frame.node := by
  rw [focus?, h]
  rfl

theorem focus? (h : Leaves r b b₁) : b₁.focus? = b.focus? := by
  cases h.contributes with
  | outside frames frames' => rw [Builder.focus?, Builder.focus?, frames, frames']
  | inside _ _ frames frames' =>
    rw [focus?_of_frames frames, focus?_of_frames frames']

theorem seated (h : Leaves r b b₁) : b₁.Seated := by
  intro id hid
  cases h.contributes with
  | outside frames frames' =>
    rw [Builder.focus?, frames'] at hid
    exact nomatch hid
  | inside _ _ frames frames' last current current' =>
    rw [focus?_of_frames frames'] at hid
    obtain rfl := Option.some.inj hid
    exact ⟨_, current'⟩

theorem refl (h : b.Seated) : Leaves {} b b := by
  refine ⟨Nat.le_refl _, fun _ _ _ => rfl, ?_⟩
  cases hframes : b.frames with
  | nil => exact .outside hframes hframes (.inl rfl) fun hne => absurd rfl hne
  | cons frame outer =>
    obtain ⟨e, he⟩ := h frame.node (focus?_of_frames hframes)
    refine .inside [] [] hframes ?_ rfl he ?_ rfl (.nil _ _)
    · rw [hframes, List.append_nil]
    · rw [he, List.append_nil]

theorem trans (h : Leaves r b b₁) (h' : Leaves s b₁ b₂) : Leaves (r.append s) b b₂ := by
  refine ⟨Nat.le_trans h.le h'.le, fun id hid hfocus => ?_, ?_⟩
  · rw [h'.old id (Nat.lt_of_lt_of_le hid h.le) (by rwa [h.focus?]), h.old id hid hfocus]
  · cases h.contributes with
    | outside frames frames' last latest =>
      cases h'.contributes with
      | inside _ _ frames₁ => cases frames'.symm.trans frames₁
      | outside frames₁ frames₁' last' latest' =>
        have hnew : (∃ id, b₂.lastExpression = some id ∧ b₁.forest.nextNode ≤ id) →
            ∃ id, b₂.lastExpression = some id ∧ b.forest.nextNode ≤ id := by
          rintro ⟨id, hid, hle⟩
          exact ⟨id, hid, Nat.le_trans h.le hle⟩
        refine .outside frames frames₁' ?_ fun hne => ?_
        · rcases last' with heq | hfresh
          · rw [heq]
            exact last
          · exact .inr (hnew hfresh)
        · by_cases hs : s.waiting = []
          · rcases last' with heq | hfresh
            · rw [heq]
              refine latest fun hr => hne ?_
              rw [Residue.append, hr, hs]
              rfl
            · exact hnew hfresh
          · exact hnew (latest' hs)
    | @inside frame outer e js ids frames frames' last current current' items waits =>
      cases h'.contributes with
      | outside frames₁ => cases frames'.symm.trans frames₁
      | @inside frame₁ outer₁ e₁ js₁ ids₁ frames₁ frames₁' last₁ current₁ current₁' items₁
          waits₁ =>
        obtain ⟨rfl, rfl⟩ := List.cons.inj (frames'.symm.trans frames₁)
        obtain rfl := Option.some.inj (current'.symm.trans current₁)
        have hlt := Forest.lt_of_expr? _ current
        refine .inside (js ++ js₁) (ids ++ ids₁) frames ?_ (last₁.trans last) current ?_ ?_ ?_
        · rw [frames₁', List.append_assoc]
        · rw [current₁', List.append_assoc]
        · rw [Item.placelessList_append, items, items₁]
          rfl
        · refine Forest.Waits.append ?_ waits₁ h.le fun id hid => waits.lt hid
          refine waits.congr fun id hbase hid => h'.old id hid ?_
          rw [h.focus?, focus?_of_frames frames]
          intro heq
          exact Nat.ne_of_lt (Nat.lt_of_lt_of_le hlt hbase) (Option.some.inj heq)

/-- A walk followed by a step that changes no expression. -/
theorem idle (h : Leaves r b b₁) (h' : Idle b₁ b₂) : Leaves r b b₂ := by
  have hnone : Leaves {} b₁ b₂ := by
    refine ⟨h'.le, fun id hid _ => h'.expr? id hid, ?_⟩
    cases hframes : b₁.frames with
    | nil =>
      exact .outside hframes (h'.frames.trans hframes) (.inl h'.lastExpression)
        fun hne => absurd rfl hne
    | cons frame outer =>
      obtain ⟨e, he⟩ := h.seated frame.node (focus?_of_frames hframes)
      refine .inside [] [] hframes ?_ h'.lastExpression he ?_ rfl (.nil _ _)
      · rw [h'.frames, hframes, List.append_nil]
      · rw [h'.expr? _ (Forest.lt_of_expr? _ he), he, List.append_nil]
  have := h.trans hnone
  rwa [Residue.append_nil] at this

/-! ## Steps of compilation -/

/-- Where no expression is open, nothing is put in. -/
theorem outside (h : Leaves r b b₁) (hframes : b₁.frames = [])
    (hs : s.waiting ≠ [] → r.waiting ≠ []) : Leaves s b b₁ := by
  refine ⟨h.le, h.old, ?_⟩
  cases h.contributes with
  | outside frames frames' last latest =>
    exact .outside frames frames' last fun hne => latest (hs hne)
  | inside _ _ frames frames' => exact nomatch hframes.symm.trans frames'

/-- A change to the items that the walk has put in. -/
theorem rewrite (h : Leaves r b b₁) {frame : Frame} {outer : List Frame}
    (hframes : b₁.frames = frame :: outer) {g : List Item → List Item}
    (h' : Rewrites frame.node g b₁ b₂) {is : List Item}
    (hg : ∀ front js, Item.placelessList js = r.items →
      ∃ ks, g (front ++ js) = front ++ ks ∧ Item.placelessList ks = is) :
    Leaves { r with items := is } b b₂ := by
  have hfocus : b.focus? = some frame.node := by rw [← h.focus?, focus?_of_frames hframes]
  refine ⟨by rw [h'.nextNode]; exact h.le, fun id hid hne => ?_, ?_⟩
  · have hne' : id ≠ frame.node := by
      rintro rfl
      exact hne hfocus
    rw [h'.other id hne', h.old id hid hne]
  · cases h.contributes with
    | outside frames frames' => exact nomatch frames'.symm.trans hframes
    | @inside frame₀ outer₀ e js ids frames frames' last current current' items waits =>
      obtain ⟨rfl, rfl⟩ := List.cons.inj (frames'.symm.trans hframes)
      have hlt := Forest.lt_of_expr? _ current
      obtain ⟨ks, hks, hitems⟩ := hg e.items js items
      refine .inside ks ids frames (h'.frames.trans frames')
        (h'.lastExpression.trans last) current ?_ hitems ?_
      · have hself := h'.self
        rw [current', Option.map_some, hks] at hself
        exact hself
      · refine waits.congr fun id hbase _ => h'.other id ?_
        exact Nat.ne_of_gt (Nat.lt_of_lt_of_le hlt hbase)

theorem emit (h : Leaves r b b₁) {i : Item} (hi : i.placeless = i) :
    Leaves (r.emit i) b (b₁.emit i) := by
  cases hframes : b₁.frames with
  | nil =>
    rw [Builder.emit, hframes]
    exact h.outside hframes id
  | cons frame outer =>
    refine h.rewrite hframes (emit_rewrites hframes i) fun front js hjs => ?_
    refine ⟨js ++ [i], List.append_assoc .., ?_⟩
    rw [Item.placelessList_append, hjs, Item.placelessList, hi, Item.placelessList]

/-- The last expressions that wait become items. -/
theorem take (h : Leaves r b b₁) {n : Nat} (hn : n ≤ r.waiting.length) :
    Leaves (r.take n) b (b₁.emitPending n) := by
  cases hframes : b₁.frames with
  | nil =>
    rw [emitPending, hframes]
    refine h.outside hframes fun hne hnil => hne ?_
    simp [Residue.take, hnil]
  | cons frame outer =>
    cases h.contributes with
    | outside frames frames' => cases frames'.symm.trans hframes
    | @inside frame₀ outer₀ e js ids frames frames' last current current' items waits =>
      have hlt := Forest.lt_of_expr? _ current
      have hlength := waits.length
      -- only expressions that the walk has left are taken
      have hkept : (frame₀.pending ++ ids).length - n =
          frame₀.pending.length + (ids.length - n) := by
        rw [List.length_append]
        omega
      let b₂ : Builder := { b₁ with
        frames := { frame₀ with pending := frame₀.pending ++ ids.take (ids.length - n) } :: outer₀ }
      have hkeep : Leaves { r with waiting := r.waiting.take (ids.length - n) } b b₂ :=
        ⟨h.le, h.old, .inside _ _ frames rfl last current current' items (waits.take _)⟩
      obtain ⟨es, hes, hitems⟩ := (waits.drop (ids.length - n)).exprs
      have hall := emitAll_rewrites (b := b₂) rfl (ids.drop (ids.length - n)) es
        (fun id hid => Nat.ne_of_gt (Nat.lt_of_lt_of_le hlt
          (waits.fresh id (List.mem_of_mem_drop hid)))) hes
      rw [emitPending, frames']
      dsimp only
      rw [hkept, List.take_length_add_append, List.drop_length_add_append]
      rw [Residue.take, ← hlength]
      refine hkeep.rewrite rfl hall fun front ks hks => ?_
      refine ⟨ks ++ es.map Expr.toItem, List.append_assoc .., ?_⟩
      rw [Item.placelessList_append, hks, ← hitems, Item.placelessList_eq_map, List.map_map,
        List.map_map]
      rfl

/-- A placeholder finds the expression that its options belong to. -/
theorem exists_target (h : Leaves r b b₁) (hwaiting : r.waiting ≠ []) :
    ∃ id, b₁.placeholderTarget = some id := by
  cases h.contributes with
  | outside frames frames' last latest =>
    obtain ⟨id, hid, -⟩ := latest hwaiting
    rw [placeholderTarget, frames']
    exact ⟨id, hid⟩
  | @inside frame outer e js ids frames frames' last current current' items waits =>
    have hne : ids ≠ [] := by
      rintro rfl
      exact hwaiting (List.length_eq_zero_iff.mp waits.length.symm)
    rw [placeholderTarget, frames']
    dsimp only
    rw [List.getLast?_append, List.getLast?_eq_some_getLast hne, Option.some_or]
    exact ⟨_, rfl⟩

/-- The expression that waits last, or outside of expressions the last one, gets options. -/
theorem give (h : Leaves r b b₁) (hwaiting : r.waiting ≠ []) {options : List (String × Value)}
    {id : NodeId} (hid : b₁.placeholderTarget = some id) (hframes : b₂.frames = b₁.frames)
    (hlast : b₂.lastExpression = b₁.lastExpression)
    (hforest : b₂.forest = giveOptions b₁.forest id options) :
    Leaves (r.give options) b b₂ := by
  have hnext : b₂.forest.nextNode = b₁.forest.nextNode := by
    rw [hforest, giveOptions, Forest.nextNode_modifyBody]
  have hself : b₂.forest.expr? id = (b₁.forest.expr? id).map (Expr.give · options) := by
    rw [hforest, giveOptions_expr?, if_pos rfl]
    rfl
  have hother : ∀ i, i ≠ id → b₂.forest.expr? i = b₁.forest.expr? i := by
    intro i hi
    rw [hforest, giveOptions_expr?, if_neg (Ne.symm hi)]
  obtain ⟨e, he⟩ : ∃ e, r.waiting.getLast? = some e := by
    rw [List.getLast?_eq_some_getLast hwaiting]
    exact ⟨_, rfl⟩
  have hgive : r.give options = { r with waiting := r.waiting.dropLast ++ [e.give options] } := by
    rw [Residue.give, he]
  rw [hgive]
  cases h.contributes with
  | outside frames frames' last latest =>
    obtain ⟨i, hi, hfresh⟩ := latest hwaiting
    rw [placeholderTarget, frames'] at hid
    obtain rfl : i = id := Option.some.inj (hi.symm.trans hid)
    refine ⟨by rw [hnext]; exact h.le, fun j hj hne => ?_, ?_⟩
    · rw [hother j (Nat.ne_of_lt (Nat.lt_of_lt_of_le hj hfresh)), h.old j hj hne]
    · exact .outside frames (hframes.trans frames') (by rw [hlast]; exact last)
        fun _ => ⟨i, hlast.trans hi, hfresh⟩
  | @inside frame outer e₀ js ids frames frames' last current current' items waits =>
    have hne : ids ≠ [] := by
      rintro rfl
      exact hwaiting (List.length_eq_zero_iff.mp waits.length.symm)
    obtain ⟨i, hi⟩ : ∃ i, ids.getLast? = some i := by
      rw [List.getLast?_eq_some_getLast hne]
      exact ⟨_, rfl⟩
    have hmem := List.mem_of_getLast? hi
    rw [placeholderTarget, frames'] at hid
    dsimp only at hid
    rw [List.getLast?_append, hi, Option.some_or] at hid
    obtain rfl := Option.some.inj hid
    have hfresh := waits.fresh i hmem
    refine ⟨by rw [hnext]; exact h.le, fun j hj hne => ?_, ?_⟩
    · rw [hother j (Nat.ne_of_lt (Nat.lt_of_lt_of_le hj hfresh)), h.old j hj hne]
    · have hgiven : b₂.forest.Waits b.forest.nextNode ids
          (r.waiting.dropLast ++ [e.give options]) :=
        waits.modifyLast hi he (fun _ => (rfl : (Expr.give _ options).placeless = _)) hself hother
      refine .inside _ _ frames (hframes.trans frames') (hlast.trans last) current ?_ items hgiven
      have hlt := Forest.lt_of_expr? _ current
      rw [hother _ (Nat.ne_of_lt (Nat.lt_of_lt_of_le hlt hfresh))]
      exact current'

/-- A name is the last item of the current expression just if the walk has put it in last. -/
theorem lastItem?_eq_name (h : Leaves r b b₁) {frame : Frame} {outer : List Frame}
    (hframes : b₁.frames = frame :: outer) (hitems : r.items ≠ []) {n : String} :
    b₁.lastItem? = some (.name n) ↔ r.items.getLast? = some (.name n) := by
  cases h.contributes with
  | outside frames frames' => exact nomatch frames'.symm.trans hframes
  | @inside frame₀ outer₀ e js ids frames frames' last current current' items waits =>
    have hne : js ≠ [] := by
      rintro rfl
      exact hitems items.symm
    have hlast : b₁.lastItem? = js.getLast? := by
      rw [lastItem?, frames']
      dsimp only
      rw [current', Option.bind_some, List.getLast?_append,
        List.getLast?_eq_some_getLast hne, Option.some_or]
    rw [hlast, ← items, Item.getLast?_placelessList]

/-- The name at the end of what the walk has put in gets a member. -/
theorem join (h : Leaves r b b₁) {named : Bool} {member : String}
    (hnamed : named = true → r.items ≠ []) :
    Leaves (r.join named member) b (joinMember b₁ named member) := by
  cases hframes : b₁.frames with
  | nil =>
    have hnone : joinMember b₁ named member = b₁ := by
      unfold joinMember
      split
      · next hcons _ => exact nomatch hframes.symm.trans hcons
      · rw [emit_of_nil hframes, emit_of_nil hframes]
    rw [hnone]
    refine h.outside hframes fun hne => ?_
    rwa [Residue.waiting_join] at hne
  | cons frame outer =>
    by_cases hname : ∃ n, named = true ∧ r.items.getLast? = some (.name n)
    · obtain ⟨n, rfl, hlast⟩ := hname
      have hitem := (h.lastItem?_eq_name hframes (hnamed rfl)).mpr hlast
      have hresidue : r.join true member =
          { r with items := r.items.dropLast ++ [.name (n ++ "." ++ member)] } := by
        unfold Residue.join
        rw [hlast]
      have hbuilder : joinMember b₁ true member = b₁.modifyItems frame.node fun items =>
          items.dropLast ++ [.name (n ++ "." ++ member)] := by
        unfold joinMember
        rw [hframes, hitem]
      rw [hresidue, hbuilder]
      refine h.rewrite hframes (modifyItems_rewrites b₁ frame.node _) fun front js hjs => ?_
      have hne : js ≠ [] := by
        rintro rfl
        exact hnamed rfl hjs.symm
      refine ⟨js.dropLast ++ [.name (n ++ "." ++ member)], ?_, ?_⟩
      · rw [List.dropLast_append_of_ne_nil hne, List.append_assoc]
      · rw [Item.placelessList_append, Item.placelessList_dropLast, hjs]
        rfl
    · have hbuilder : joinMember b₁ named member =
          (b₁.emit (.literal (.string member))).emit (.apply "_get" 2) := by
        unfold joinMember
        split
        · next n _ hitem =>
          exact absurd ⟨n, rfl, (h.lastItem?_eq_name hframes (hnamed rfl)).mp hitem⟩ hname
        · rfl
      have hresidue : r.join named member =
          (r.emit (.literal (.string member))).emit (.apply "_get" 2) := by
        unfold Residue.join
        split
        · next n hlast => exact absurd ⟨n, rfl, hlast⟩ hname
        · rfl
      rw [hbuilder, hresidue]
      exact (h.emit rfl).emit rfl

end Leaves
end Builder
end Wdl
