import Wdl.Proofs.Document.Regular

/-!
Attaching in place.

A program that attaches a node in place looks at the node and its parent, binds the name, puts the
node into its parent, lists the items of blocks one by one, and links the node to its parent last.
Each of these steps takes something for granted, and a program that halts leaves behind what it has
changed so far.  In a regular forest all that is taken for granted holds once the parent has been
asked, so the steps come to what `Forest.attach` says, and a program that halts has changed nothing.
-/

namespace Wdl

/-- Why a program halts: the forest refuses what it is about to do, or something that it takes for
granted does not hold. -/
inductive Halt
  | refused (problem : Problem)
  | impossible

/-- A program that changes a forest step by step. -/
abbrev Change := EStateM Halt Forest

/-- What the items of a block are. -/
def BlockKind.content : BlockKind → Kind
  | .input => .declaration
  | .output => .declaration
  | .command => .expression
  | _ => .entry

namespace Body

/-- What a node takes for granted about one of an accepted kind as it checks it. -/
def expects : Body → Body → Bool
  | .struct _, child => child.kind == .declaration
  | .call _, child => child.kind == .entry
  | .workflow _ _, .block k _ => k != .runtime && k != .command
  | _, _ => true

/-- What a node takes for granted about one that it puts in. -/
def takes : Body → Body → Bool
  | .document _, .importDoc _ => true
  | .document _, .workflow _ _ => true
  | .document _, .task _ _ => true
  | .document _, .struct _ => true
  | .declaration _, .expression _ => true
  | .struct _, .declaration _ => true
  | .entry _, .expression _ => true
  | .block _ _, _ => true
  | .task _ _, .block _ _ => true
  | .task _ _, .declaration _ => true
  | .workflow _ _, .block _ _ => true
  | .workflow _ _, .declaration _ => true
  | .workflow _ _, .call _ => true
  | .workflow _ _, .region _ => true
  | .call _, .entry _ => true
  | .region _, .expression _ => true
  | .region _, .declaration _ => true
  | .region _, .call _ => true
  | .region _, .region _ => true
  | .expression _, .expression _ => true
  | _, _ => false

/-- Whether a body lists the items of its blocks of a kind. -/
def files : Body → BlockKind → Bool
  | .task _ _, _ => true
  | .workflow _ _, k => k != .runtime && k != .command
  | _, _ => false

variable {b child : Body}

theorem expects_of_accepts (h : b.accepts child.kind = true) : b.expects child = true := by
  cases b with
  | struct s => exact h
  | call c => exact h
  | workflow x w =>
    cases child with
    | block k items => cases k <;> first | rfl | exact nomatch h
    | _ => rfl
  | _ => rfl

/-- What a node accepts and does not object to it can put in. -/
theorem takes_of_objection {f : Forest} (haccepts : b.accepts child.kind = true)
    (hobjection : f.objection? b child = none) : b.takes child = true := by
  cases child with
  | region r =>
    rcases kind_region r with hkind | hkind
    all_goals
      rw [hkind] at haccepts
      cases b <;> first | rfl | cases haccepts
  | struct s =>
    have hkind := document_of_struct hobjection rfl
    cases b with
    | document d => rfl
    | region r => rcases kind_region r with h | h <;> cases h.symm.trans hkind
    | _ => cases hkind
  | declaration d =>
    cases b with
    | document d => simp [Forest.objection?, isStruct] at hobjection
    | _ => first | rfl | cases haccepts
  | _ => cases b <;> first | rfl | cases haccepts

/-- The items of a block are all of one kind. -/
theorem accepts_block {k : BlockKind} {items : List NodeId} {kind : Kind}
    (h : (block k items).accepts kind = true) : kind = k.content := by
  cases k <;> exact beq_iff_eq.mp h

end Body

/-! ## The steps -/

namespace Change

variable {α β : Type} {x : Change α} {a : α} {f g : Forest}

/-- What is left of a forest after a program, whether it has come to its end or not. -/
def after (x : Change α) (f : Forest) : Forest :=
  match x f with
  | .ok _ g => g
  | .error _ g => g

theorem bind_of_ok (h : x f = .ok a g) (next : α → Change β) : (x >>= next) f = next a g := by
  show EStateM.bind x next f = _
  rw [EStateM.bind, h]

theorem bind_of_error {halt : Halt} (h : x f = .error halt g) (next : α → Change β) :
    (x >>= next) f = .error halt g := by
  show EStateM.bind x next f = _
  rw [EStateM.bind, h]

theorem get_bind (next : Forest → Change β) (f : Forest) : (get >>= next) f = next f f := rfl

theorem set_bind (g : Forest) (next : PUnit → Change β) (f : Forest) :
    (set g >>= next) f = next ⟨⟩ g := rfl

end Change

namespace Forest

/-- Binds the name of a node. -/
def bindName (s : ScopeId) (name : String) (child : NodeId) : Change Unit := do
  let f ← get
  match f.define s name child with
  | .ok g => set g
  | .error problem => throw (.refused problem)

/-- Lists an item of a block in what may be a task or workflow. -/
def fileItem (owner : NodeId) (k : BlockKind) (id : NodeId) : Change Unit := do
  let f ← get
  match f.body? owner, f.body? id with
  | some b, some item =>
    if b.files k && item.kind != k.content then throw .impossible
    else set (f.modifyBody owner fun b => b.file k id item)
  | _, _ => pure ()

/-- Lists what is new below a task or workflow once a node has been put into its parent: the node
itself if it is an item of a block, and the items if it is a block. -/
def fileNew (parent : NodeId) (p : Node) (child : NodeId) (c : Node) : Change Unit :=
  match p.body, c.body with
  | .block k _, _ =>
    match p.parent with
    | some owner => fileItem owner k child
    | none => pure ()
  | _, .block k items => items.forM (fileItem parent k)
  | _, _ => pure ()

/-- Puts a node into its parent. -/
def putIn (parent child : NodeId) : Change Unit := do
  let f ← get
  match f.node? parent, f.node? child with
  | some p, some c =>
    if !p.body.takes c.body then throw .impossible
    else
      set (f.modifyBody parent fun b => b.adopt child c.body)
      fileNew parent p child c
  | _, _ => pure ()

/-- Attaches a node to another. The program that is to bind its name is run once the other has not
objected. -/
def attachInPlace (parent child : NodeId) (define : Option (Change Unit)) : Change NodeId := do
  let f ← get
  match f.node? parent, f.node? child with
  | some p, some c =>
    if !p.body.accepts c.kind then throw (.refused (.kindMismatch p.kind c.kind))
    else
      match f.twin? parent c with
      | some twin => pure twin
      | none =>
        if !p.body.expects c.body then throw .impossible
        else
          match f.objection? p.body c.body with
          | some problem => throw (.refused problem)
          | none =>
            define.getD (pure ())
            putIn parent child
            modify fun f => f.linkTo parent child
            pure child
  | _, _ => pure child

variable {f g : Forest} {parent child id owner : NodeId} {p c : Node} {k : BlockKind}

theorem modifyBody_of_absent (h : f.body? id = none) (change : Body → Body) :
    f.modifyBody id change = f := by
  have habsent : f.nodes.size ≤ id := f.node?_eq_none_iff.mp (Option.map_eq_none_iff.mp h)
  have hnodes : f.nodes.modify id (fun n => { n with body := change n.body }) = f.nodes := by
    refine Array.ext_getElem? fun i => ?_
    rw [Array.getElem?_modify]
    split
    · next heq => rw [← heq, Array.getElem?_eq_none habsent, Option.map_none]
    · rfl
  rw [modifyBody, modifyNode, hnodes]

/-- What a block holds is of the kind of its items. -/
theorem Regular.content (hr : Regular f) {items : List NodeId}
    (hblock : f.body? id = some (.block k items)) :
    ∀ i ∈ items, ∃ item, f.body? i = some item ∧ item.kind = k.content := by
  intro i hi
  obtain ⟨item, hitem, haccepts, -⟩ := hr.accepted id _ i hblock hi
  exact ⟨item, hitem, Body.accepts_block haccepts⟩

theorem fileItem_ok {item : Body} (hitem : f.body? id = some item) (hkind : item.kind = k.content) :
    fileItem owner k id f = .ok () (f.modifyBody owner fun b => b.file k id item) := by
  rw [fileItem, Change.get_bind, hitem]
  cases howner : f.body? owner with
  | none =>
    rw [modifyBody_of_absent howner]
    rfl
  | some b =>
    dsimp only
    rw [if_neg (by simp [hkind])]
    rfl

/-- All items of a block can be listed, one after the other: listing one changes the kind of none.
-/
theorem forM_fileItem_ok {items : List NodeId}
    (h : ∀ id ∈ items, ∃ item, f.body? id = some item ∧ item.kind = k.content) :
    items.forM (fileItem owner k) f = .ok () (f.fileItems owner k items) := by
  induction items generalizing f with
  | nil => rfl
  | cons id items ih =>
    obtain ⟨item, hitem, hkind⟩ := h id List.mem_cons_self
    show (fileItem owner k id >>= fun _ => items.forM (fileItem owner k)) f = _
    rw [Change.bind_of_ok (fileItem_ok hitem hkind), ih fun j hj => ?_]
    · simp only [fileItems, List.foldl_cons, hitem]
    · obtain ⟨m, hm, hmkind⟩ := h j (List.mem_cons_of_mem _ hj)
      rw [body?_modifyBody, hm]
      refine ⟨_, rfl, ?_⟩
      split
      · rw [Body.kind_file, hmkind]
      · exact hmkind

/-- What is new can be listed, as nodes accept only what they can list. -/
theorem fileNew_ok (hr : Regular f) (ha : Adopts f parent child p c) :
    ∃ g, fileNew parent p child c (f.modifyBody parent fun b => b.adopt child c.body) = .ok () g ∧
      g.linkTo parent child = f.adopt parent p child c := by
  have hkept : ∀ id m, f.body? id = some m →
      ∃ m', (f.modifyBody parent fun b => b.adopt child c.body).body? id = some m' ∧
        m'.kind = m.kind := by
    intro id m hm
    rw [body?_modifyBody, hm]
    refine ⟨_, rfl, ?_⟩
    split
    · exact Body.kind_adopt
    · rfl
  by_cases hp : ∃ k items, p.body = .block k items
  · obtain ⟨k, items, hp⟩ := hp
    rw [adopt_into_block hp]
    have hkind : c.body.kind = k.content := Body.accepts_block (hp ▸ ha.accepts)
    cases howner : p.parent with
    | none => exact ⟨_, by rw [fileNew, hp, howner]; rfl, rfl⟩
    | some owner =>
      have hne : parent ≠ child := by
        rintro rfl
        obtain rfl := Option.some.inj (ha.parent_eq.symm.trans ha.child_eq)
        rw [hp] at hkind
        cases k <;> exact nomatch hkind
      have hitem : (f.modifyBody parent fun b => b.adopt child c.body).body? child =
          some c.body := by
        rw [body?_modifyBody, ha.body?_child, Option.map_some, if_neg hne]
      refine ⟨_, ?_, rfl⟩
      rw [fileNew, hp, howner]
      exact fileItem_ok hitem hkind
  · have hp : ∀ k items, p.body ≠ .block k items := fun k items heq => hp ⟨k, items, heq⟩
    by_cases hc : ∃ k items, c.body = .block k items
    · obtain ⟨k, items, hc⟩ := hc
      rw [adopt_block hp hc]
      refine ⟨_, ?_, rfl⟩
      have hlists : fileNew parent p child c = items.forM (fileItem parent k) := by
        unfold fileNew
        rw [hc]
        cases hb : p.body <;> first | rfl | exact absurd hb (hp _ _)
      rw [hlists]
      refine forM_fileItem_ok fun id hid => ?_
      obtain ⟨m, hm, hcontent⟩ := hr.content (hc ▸ ha.body?_child) id hid
      obtain ⟨m', hm', hkind⟩ := hkept id m hm
      exact ⟨m', hm', hkind.trans hcontent⟩
    · have hc : ∀ k items, c.body ≠ .block k items := fun k items heq => hc ⟨k, items, heq⟩
      rw [adopt_other hp hc]
      refine ⟨_, ?_, rfl⟩
      have hnothing : fileNew parent p child c = pure () := by
        unfold fileNew
        cases hb : p.body <;> cases hb' : c.body <;>
          first | rfl | exact absurd hb (hp _ _) | exact absurd hb' (hc _ _)
      rw [hnothing]
      rfl

/-- Once the parent has not objected, the node is put in without a halt. -/
theorem putIn_ok (hr : Regular f) (ha : Adopts f parent child p c) :
    ∃ g, putIn parent child f = .ok () g ∧ g.linkTo parent child = f.adopt parent p child c := by
  obtain ⟨g, hg, hlink⟩ := fileNew_ok hr ha
  refine ⟨g, Eq.trans ?_ hg, hlink⟩
  rw [putIn, Change.get_bind, ha.parent_eq, ha.child_eq]
  dsimp only
  rw [Body.takes_of_objection ha.accepts ha.objection]
  exact Change.set_bind _ _ _

/-- A name is bound in place as it is otherwise. -/
theorem bindName_eq (f : Forest) (s : ScopeId) (name : String) (child : NodeId) :
    bindName s name child f = match f.define s name child with
      | .ok g => .ok () g
      | .error problem => .error (.refused problem) f := by
  rw [bindName, Change.get_bind]
  cases f.define s name child <;> rfl

end Forest

/-- The steps of a request. -/
def Request.steps (r : Request) : Change NodeId :=
  Forest.attachInPlace r.parent r.child
    (r.binding.map fun binding => Forest.bindName binding.1 binding.2 r.child)

namespace Forest

variable {f : Forest} {parent child : NodeId} {p c : Node}

/-- A node that counts as one which is there is left alone, and its name too. -/
theorem attachInPlace_twin {id : NodeId} (hp : f.node? parent = some p)
    (hc : f.node? child = some c) (haccepts : p.body.accepts c.kind = true)
    (htwin : f.twin? parent c = some id) (define : Option (Change Unit)) :
    attachInPlace parent child define f = .ok id f := by
  rw [attachInPlace, Change.get_bind, hp, hc]
  dsimp only
  rw [haccepts, htwin]
  rfl

/-- Once a name has been bound, or whatever else has been done to scopes, the node is attached. -/
theorem attachInPlace_ok {g : Forest} (hr : Regular f) (ha : Adopts f parent child p c)
    {define : Option (Change Unit)} (hdefine : define.getD (pure ()) f = .ok () g)
    (hnodes : g.nodes = f.nodes) :
    attachInPlace parent child define f = .ok child (g.adopt parent p child c) := by
  obtain ⟨h, hh, hlink⟩ := putIn_ok (hr.of_nodes hnodes) (ha.of_nodes hnodes)
  rw [attachInPlace, Change.get_bind, ha.parent_eq, ha.child_eq]
  dsimp only
  rw [ha.accepts, ha.twin, Body.expects_of_accepts ha.accepts, ha.objection]
  show (define.getD (pure ()) >>= fun _ => putIn parent child >>= _) f = _
  rw [Change.bind_of_ok hdefine, Change.bind_of_ok hh, ← hlink]
  rfl

theorem attachInPlace_error {g : Forest} {halt : Halt} (ha : Adopts f parent child p c)
    {define : Option (Change Unit)} (hdefine : define.getD (pure ()) f = .error halt g) :
    attachInPlace parent child define f = .error halt g := by
  rw [attachInPlace, Change.get_bind, ha.parent_eq, ha.child_eq]
  dsimp only
  rw [ha.accepts, ha.twin, Body.expects_of_accepts ha.accepts, ha.objection]
  exact Change.bind_of_error hdefine _

/-- What the name of a node is bound by. -/
theorem bindName_bind? (f : Forest) (child : NodeId) (binding : Option (ScopeId × String)) :
    (binding.map fun b => bindName b.1 b.2 child).getD (pure ()) f =
      match f.bind? child binding with
      | .ok g => .ok () g
      | .error problem => .error (.refused problem) f := by
  cases binding with
  | none => rfl
  | some b => exact bindName_eq f b.1 b.2 child

/-- A request that is carried out in place comes to what attaching the node gives. -/
theorem steps_eq (hr : Regular f) (r : Request) :
    r.steps f = match f.attach r.parent r.child r.binding with
      | .ok (g, id) => .ok id g
      | .error problem => .error (.refused problem) f := by
  obtain ⟨parent, child, binding⟩ := r
  rw [Request.steps]
  dsimp only
  cases hp : f.node? parent with
  | none =>
    rw [attach, attachInPlace, Change.get_bind, hp]
    rfl
  | some p =>
    cases hc : f.node? child with
    | none =>
      rw [attach, attachInPlace, Change.get_bind, hp, hc]
      rfl
    | some c =>
      cases haccepts : p.body.accepts c.kind with
      | false =>
        rw [attach, attachInPlace, Change.get_bind, hp, hc]
        dsimp only
        rw [haccepts]
        rfl
      | true =>
        cases htwin : f.twin? parent c with
        | some twin =>
          rw [attachInPlace_twin hp hc haccepts htwin, attach, hp, hc]
          dsimp only
          rw [haccepts, htwin]
          rfl
        | none =>
          cases hobjection : f.objection? p.body c.body with
          | some problem =>
            rw [attach, attachInPlace, Change.get_bind, hp, hc]
            dsimp only
            rw [haccepts, htwin, Body.expects_of_accepts haccepts, hobjection]
            rfl
          | none =>
            have ha : Adopts f parent child p c := ⟨hp, hc, haccepts, htwin, hobjection⟩
            have hdefine := bindName_bind? f child binding
            rw [ha.attach]
            cases hbind : f.bind? child binding with
            | ok g =>
              rw [hbind] at hdefine
              exact attachInPlace_ok hr ha hdefine (bind?_nodes hbind)
            | error problem =>
              rw [hbind] at hdefine
              exact attachInPlace_error ha hdefine

end Forest
end Wdl
