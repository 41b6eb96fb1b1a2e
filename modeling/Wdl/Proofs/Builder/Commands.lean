import Wdl.Proofs.Builder.Holdings
import Wdl.Proofs.Document.Holdings
import Wdl.Proofs.Parse.Cover

/-!
How a task comes by its command.

While the command of a task is open, `InCommand`, every part of it adds its text to what the task
holds, and a placeholder adds its expression too.  `walk_pieces` follows a whole command: what has
been added is a transcript of it.
-/

namespace Wdl

/-- A task holds more of its command.  A task that is not part of the document takes in no text. -/
def Holding.extend (h : Holding) (rooted : Bool) (parts : List String) (ids : List NodeId) :
    Holding :=
  { h with
    command := if rooted then h.command ++ parts else h.command
    placeholders := h.placeholders ++ ids }

theorem Holding.extend_nil (h : Holding) (rooted : Bool) : h.extend rooted [] [] = h := by
  cases rooted <;> simp [extend]

theorem Holding.extend_extend (h : Holding) (rooted : Bool) (parts parts' : List String)
    (ids ids' : List NodeId) : (h.extend rooted parts ids).extend rooted parts' ids' =
      h.extend rooted (parts ++ parts') (ids ++ ids') := by
  cases rooted <;> simp [extend]

theorem Body.eq_task {b : Body} (h : b.kind = .task) : ∃ x t, b = .task x t := by
  cases b with
  | task x t => exact ⟨x, t, rfl⟩
  | region r => rcases Body.kind_region r with hkind | hkind <;> cases hkind.symm.trans h
  | _ => cases h

theorem Body.eq_document {b : Body} (h : b.kind = .document) : ∃ d, b = .document d := by
  cases b with
  | document d => exact ⟨d, rfl⟩
  | region r => rcases Body.kind_region r with hkind | hkind <;> cases hkind.symm.trans h
  | _ => cases h

theorem Body.eq_block {b : Body} {k : BlockKind} (h : b.kind = .block k) :
    ∃ items, b = .block k items := by
  cases b with
  | block k' items =>
    obtain rfl := Kind.block.inj h
    exact ⟨items, rfl⟩
  | region r => rcases Body.kind_region r with hkind | hkind <;> cases hkind.symm.trans h
  | _ => cases h

namespace Builder

variable {l : Layout} {b b' b'' : Builder} {task block : NodeId} {rooted : Bool}
  {parts parts' : List String} {ids ids' : List NodeId}

/-- A step that adds to the command of a task and changes nothing else that is there. -/
structure Writes (b b' : Builder) (task : NodeId) (rooted : Bool) (parts : List String)
    (ids : List NodeId) : Prop extends Touches b b' task where
  added : b'.forest.holding? task =
    (b.forest.holding? task).map fun held => held.extend rooted parts ids

namespace Writes

theorem of_spares (h : Spares b b') (htask : task < b.forest.nextNode) :
    Writes b b' task rooted [] [] where
  toTouches := h.touches task
  added := by
    rw [h.holding? task htask]
    cases b.forest.holding? task with
    | none => rfl
    | some held => rw [Option.map_some, held.extend_nil]

theorem trans (h : Writes b b' task rooted parts ids) (h' : Writes b' b'' task rooted parts' ids') :
    Writes b b'' task rooted (parts ++ parts') (ids ++ ids') where
  toTouches := h.toTouches.trans h'.toTouches
  added := by
    rw [h'.added, h.added, Option.map_map]
    congr 1
    funext held
    exact held.extend_extend rooted parts parts' ids ids'

end Writes

/-- A new node whose span fits into the current section has no twin there. -/
theorem twin?_of_fits (h : Steady b) {n : Node} {f : Forest} (hf : (b.forest.addNode n).Alike f)
    (hfits : b.forest.Fits l b.current.node n.span) : f.twin? b.current.node n = none := by
  refine Forest.twin?_eq_none fun x hx q hq => ?_
  rw [hf.parts, Forest.parts_addNode, if_neg (Nat.ne_of_lt h.current.2)] at hx
  rw [hf.profile?, Forest.profile?_addNode,
    if_neg (Nat.ne_of_lt (h.lt_of_part h.current.1 hx))] at hq
  exact hfits.ne hx hq

/-- The command of a task is open, and no expression in it. -/
structure InCommand (b : Builder) (task block : NodeId) (rooted : Bool) : Prop where
  frames : b.frames = []
  sections : ∃ path path' scope outer,
    b.sections = ⟨path', block, none, rooted⟩ :: ⟨path, task, scope, rooted⟩ :: outer
  blockKind : b.forest.kind? block = some (.block .command)
  taskKind : b.forest.kind? task = some .task
  parent : b.forest.parent? block = some task

namespace InCommand

theorem current (h : InCommand b task block rooted) :
    b.current.node = block ∧ b.current.rooted = rooted := by
  obtain ⟨path, path', scope, outer, hsections⟩ := h.sections
  rw [current_of_sections hsections]
  exact ⟨rfl, rfl⟩

theorem host (h : InCommand b task block rooted) : b.host = block := by
  rw [host_of_frames_nil (by rw [h.frames]; rfl), h.current.1]

theorem block_lt (h : InCommand b task block rooted) : block < b.forest.nextNode :=
  Forest.lt_of_kind? h.blockKind

theorem task_lt (h : InCommand b task block rooted) : task < b.forest.nextNode :=
  Forest.lt_of_kind? h.taskKind

theorem of_kept (h : InCommand b task block rooted) (hsections : b'.sections = b.sections)
    (hframes : b'.frames.map Frame.place = b.frames.map Frame.place)
    (hprofile : ∀ id, id < b.forest.nextNode → b'.forest.profile? id = b.forest.profile? id)
    (hparent : b'.forest.parent? block = b.forest.parent? block) :
    InCommand b' task block rooted where
  frames := by
    rw [h.frames] at hframes
    exact List.map_eq_nil_iff.mp hframes
  sections := by
    rw [hsections]
    exact h.sections
  blockKind := by
    rw [Forest.kind?_eq, hprofile _ h.block_lt, ← Forest.kind?_eq, h.blockKind]
  taskKind := by
    rw [Forest.kind?_eq, hprofile _ h.task_lt, ← Forest.kind?_eq, h.taskKind]
  parent := hparent.trans h.parent

theorem quiet (h : InCommand b task block rooted) (hq : Quiet b b') :
    InCommand b' task block rooted :=
  h.of_kept hq.sections hq.frames (fun id _ => hq.alike.profile? id) (hq.alike.parent? block)

theorem grown (h : InCommand b task block rooted) {xs : List (Tree.Path × Tree)}
    {rs : List (Tree.Path × NodeId)} {fs : List Tree.Path} (hg : Grown l b b' xs rs fs) :
    InCommand b' task block rooted :=
  h.of_kept hg.sections hg.frames hg.profile? (hg.parent? _ h.block_lt)

/-- The text of a part is added. -/
theorem addCommandPart (h : InCommand b task block rooted) (part : String) :
    Writes b (b.addCommandPart part) task rooted [part] [] := by
  obtain ⟨path, path', scope, outer, hsections⟩ := h.sections
  have hkind : (b.currentKind == .block .command) = true := by
    rw [currentKind, h.current.1, h.blockKind]
    rfl
  have htask : b.commandTask? = if rooted then some task else none := by
    have hfind : b.sections.find? (fun c => b.forest.kind? c.node == some .task) =
        some ⟨path, task, scope, rooted⟩ := by
      rw [hsections, List.find?_cons_of_neg (by simp [h.blockKind]),
        List.find?_cons_of_pos (by simp [h.taskKind])]
    rw [commandTask?, hkind, Bool.true_and, h.current.2, hfind, Option.map_some]
  have hquiet := addCommandPart_quiet b part
  refine ⟨⟨by rw [addCommandPart_eq], Nat.le_of_eq hquiet.alike.nextNode.symm,
    fun id _ => hquiet.alike.profile? id, fun id hid hne => ?_⟩, ?_⟩
  all_goals
    rw [addCommandPart_eq, htask]
    dsimp only
  · cases rooted with
    | true => exact Forest.holding?_modifyBody_of_ne _ hne
    | false => rfl
  · obtain ⟨body, hbody, hkind⟩ := Forest.body?_of_kind? h.taskKind
    obtain ⟨x, t, rfl⟩ := Body.eq_task hkind
    have hholding : b.forest.holding? task = some (Body.task x t).holding := by
      rw [Forest.holding?, hbody, Option.map_some]
    rw [hholding, Option.map_some]
    cases rooted with
    | true =>
      refine (Forest.holding?_modifyBody_self _ hbody).trans (congrArg some ?_)
      simp [Holding.extend, Body.holding]
    | false =>
      refine hholding.trans (congrArg some ?_)
      simp [Holding.extend]

/-- The block of the command takes in a new expression that does not lie where another does. -/
theorem adopts (h : InCommand b task block rooted) (hs : Steady b) {t : Tree}
    (hfits : b.forest.Fits l block t.span) :
    ∃ items p, p.body = .block .command items ∧ p.parent = some task ∧
      Forest.Adopts (b.forest.addNode (b.nodeOf t (.expression {}))) block b.forest.nextNode p
        (b.nodeOf t (.expression {})) := by
  obtain ⟨p, hp, hkind⟩ := Option.map_eq_some_iff.mp h.blockKind
  obtain ⟨items, hitems⟩ := Body.eq_block hkind
  have hparent := h.parent
  rw [Forest.parent?, hp, Option.bind_some] at hparent
  rw [← h.current.1] at hp hfits ⊢
  refine ⟨items, p, hitems, hparent, ?_, b.forest.node?_addNode_self _, ?_,
    twin?_of_fits hs (.refl _) hfits, ?_⟩
  · rw [b.forest.node?_addNode_of_lt _ hs.current.2, hp]
  · rw [hitems]
    rfl
  · rw [hitems]
    rfl

/-- An expression is begun: it is a placeholder of the command. -/
theorem beginExpr (h : InCommand b task block rooted) (hs : Steady b) (path : Tree.Path) {t : Tree}
    (hfits : b.forest.Fits l block t.span) :
    Writes b (b.beginExpr path t) task rooted [] [b.forest.nextNode] := by
  obtain ⟨items, p, hitems, hparent, hadopts⟩ := h.adopts hs hfits
  have hforest : (b.beginExpr path t).forest =
      (b.forest.addNode (b.nodeOf t (.expression {}))).adopt block p b.forest.nextNode
        (b.nodeOf t (.expression {})) := by
    have hkind : (b.forest.addNode (b.nodeOf t (.expression {}))).kind? b.current.node =
        some (.block .command) := by
      rw [h.current.1, Forest.kind?, b.forest.node?_addNode_of_lt _ h.block_lt, ← Forest.kind?,
        h.blockKind]
    have hattach := hadopts.attach none
    rw [← h.current.1] at hattach ⊢
    rw [b.beginExpr_outside h.frames path t]
    refine (congrArg Builder.forest (if_neg fun hdocument => ?_)).trans (attachLeaf_forest hattach)
    have hblock : Kind.block .command = .document :=
      (congrArg (Option.getD · Kind.document) hkind).symm.trans (eq_of_beq hdocument)
    cases hblock
  have hnode : ∀ id, id < b.forest.nextNode →
      (b.forest.addNode (b.nodeOf t (.expression {}))).node? id = b.forest.node? id :=
    fun id hid => b.forest.node?_addNode_of_lt _ hid
  obtain ⟨body, hbody, hkind⟩ := Forest.body?_of_kind? h.taskKind
  obtain ⟨x, r, rfl⟩ := Body.eq_task hkind
  have hbody' : (b.forest.addNode (b.nodeOf t (.expression {}))).body? task =
      some (.task x r) := by
    rw [Forest.body?, hnode _ h.task_lt, ← Forest.body?, hbody]
  obtain ⟨parent, hbegun⟩ := beginExpr_begun hs path t
  refine ⟨⟨beginExpr_source b path t, ?_, fun id hid => hbegun.sprout.profile?_of_lt hid,
    fun id hid hne => ?_⟩, ?_⟩
  · rw [hbegun.sprout.nextNode]
    exact Nat.le_succ _
  · rw [hforest, hadopts.holding?_placeholder hitems hparent hbody', if_neg hne]
    exact Forest.holding?_congr (hnode id hid)
  · rw [hforest, hadopts.holding?_placeholder hitems hparent hbody', if_pos rfl, Forest.holding?,
      hbody]
    cases rooted <;> simp [Holding.extend, Body.holding]

end InCommand

/-! ## Placeholders -/

theorem walkList_append (path : Tree.Path) (i : Nat) (xs ys : List Tree) (b : Builder) :
    walkList path i (xs ++ ys) b = walkList path (i + xs.length) ys (walkList path i xs b) := by
  induction xs generalizing i b with
  | nil => rfl
  | cons x xs ih =>
    rw [List.cons_append, walkList, walkList, ih, List.length_cons, Nat.add_comm xs.length,
      Nat.add_assoc]

theorem walkList_still {cs : List Tree} (hcs : ∀ c ∈ cs, ∀ path b, Still b (walk path c b))
    (path : Tree.Path) (i : Nat) (b : Builder) : Still b (walkList path i cs b) := by
  induction cs generalizing i b with
  | nil => exact .refl b
  | cons c cs ih =>
    obtain ⟨hc, hcs⟩ := List.forall_mem_cons.mp hcs
    exact (hc (i :: path) b).trans (ih hcs (i + 1) _)

/-- Where nothing builds a node and nothing is of commands, nothing is added. -/
theorem walk_still {t : Tree} (ht : Bare t) (hless : Commandless t) (path : Tree.Path)
    (b : Builder) : Still b (walk path t b) := by
  induction ht generalizing path b with
  | token k =>
    cases hless with
    | token hk => exact visitToken_still b hk
  | @node p e cs hp _ ih =>
    cases hless with
    | node hplain hcs =>
      obtain ⟨hsection, hleaf, hexpr⟩ := Tree.quiet_of_isNeutral hp
      have hinner := walkList_still (fun c hc path b => ih c hc (hcs c hc) path b) path 0
        (b.enter path (.node p e cs))
      refine ((enter_still b hsection hleaf hexpr path e cs).trans hinner).trans
        (exit_still _ hsection hexpr ?_ path e cs)
      rintro rfl
      cases hplain

/-- An expression of a command is added to it. -/
theorem InCommand.walk_expr (h : InCommand b task block rooted) (hb : Orderly l b) {t : Tree}
    (ht : Phrase .expr t) (hless : Commandless t) (path : Tree.Path)
    (hfits : b.forest.Fits l block t.span) :
    Writes b (walk path t b) task rooted [] [b.forest.nextNode] ∧
      (walk path t b).forest.profile? b.forest.nextNode = some (exprProfile t) := by
  cases ht with
  | @expr e x hx =>
    cases hless with
    | node _ hless =>
      have hwrites := h.beginExpr hb.steady path hfits
      obtain ⟨parent, hbegun⟩ := beginExpr_begun hb.steady path (.node .expr e [x])
      obtain ⟨hinner, frames, -, hwalk⟩ := walk_expression (p := .expr) (e := e) rfl
        (List.forall_mem_singleton.mpr fun path b hb hframes =>
          walk_enclosed hx.inert (hless x List.mem_cons_self) path hb hframes) path hb.rooted
      have htask := Nat.lt_of_lt_of_le h.task_lt hwrites.nextNode
      have hnew : b.forest.nextNode <
          (b.beginExpr path (.node .expr e [x])).forest.nextNode := by
        rw [hbegun.sprout.nextNode]
        exact Nat.lt_succ_self _
      rw [hwalk]
      refine ⟨hwrites.trans (.of_spares (hinner.toSpares.trans (.of_forest rfl rfl)) htask), ?_⟩
      exact (hinner.profile? _ hnew).trans hbegun.sprout.profile?_new

/-- The options of a placeholder are read, and its expression is added to the command. -/
theorem InCommand.walk_placeholder (h : InCommand b task block rooted) (hb : Orderly l b) {t : Tree}
    (ht : Phrase .placeholder t) (hless : Commandless t) (path : Tree.Path)
    (hfits : ∀ s ∈ t.spots, b.forest.Fits l block s.2) :
    Writes b (walk path t b) task rooted [] [b.forest.nextNode] ∧
      ∃ s ∈ t.spots, (walk path t b).forest.profile? b.forest.nextNode =
        some ((Body.expression {}).profile s.2) := by
  cases ht with
  | @placeholder e xs y hxs hy =>
    cases hless with
    | node _ hcs =>
      obtain ⟨hlessxs, hlessy⟩ := List.forall_mem_append.mp hcs
      have hoptions : Still b (walkList path 0 xs b) :=
        walkList_still (fun c hc => walk_still (hxs c hc).option_bare (hlessxs c hc)) path 0 b
      have hspot : (Kind.expression, y.span) ∈ (Tree.node .placeholder e (xs ++ [y])).spots := by
        have hself : (Kind.expression, y.span) ∈ y.spots := by
          cases hy
          exact List.mem_cons_self
        rw [Tree.spots, Parse.spotsList_append]
        refine List.mem_append_right _ (List.mem_append_right _ ?_)
        exact List.mem_append_left _ hself
      have hwalk : walk path (.node .placeholder e (xs ++ [y])) b =
          (walk (xs.length :: path) y (walkList path 0 xs b)).endPlaceholder
            (.node .placeholder e (xs ++ [y])) := by
        rw [walk, walkList_append, Nat.zero_add]
        rfl
      rw [hwalk]
      generalize walkList path 0 xs b = b₁ at hoptions ⊢
      have hopen := h.quiet hoptions.toQuiet
      obtain ⟨hwrites, hprofile⟩ := hopen.walk_expr (hb.quiet hoptions.toQuiet) hy
        (hlessy y List.mem_cons_self) (xs.length :: path) ((hfits _ hspot).alike hoptions.alike)
      have hend := endPlaceholder_still (walk (xs.length :: path) y b₁)
        (.node .placeholder e (xs ++ [y]))
      rw [hoptions.alike.nextNode] at hwrites hprofile
      refine ⟨?_, _, hspot, (hend.alike.profile? _).trans hprofile⟩
      exact (Writes.of_spares (.of_still hoptions) h.task_lt).trans
        (hwrites.trans (.of_spares (.of_still hend)
          (Nat.lt_of_lt_of_le hopen.task_lt hwrites.nextNode)))

/-! ## Whole commands -/

/-- Parts of documents that stand in a section, one after another. -/
structure InRow (l : Layout) (ts : List Tree) : Prop where
  part : ∀ t ∈ ts, Part Token.Proper t
  legible : ∀ t ∈ ts, t.AllLegible
  laidOut : l.LaidOutList ts

theorem InRow.walksList {ts : List Tree} (h : InRow l ts) :
    WalksList l (fun places sections => places = [] ∧ sections ≠ []) ts :=
  Builder.walksList
    (fun t ht => walks_part (h.part t ht) (h.legible t ht) (h.laidOut.child ht)) h.laidOut

theorem LaidOutList.split {ts us : List Tree} (h : l.LaidOutList (ts ++ us)) :
    l.LaidOutList ts ∧ l.LaidOutList us ∧
      ∀ x ∈ Tree.spotsList ts, ∀ y ∈ Tree.spotsList us, l.apart x.2 y.2 := by
  induction ts with
  | nil => exact ⟨trivial, h, List.forall_mem_nil _⟩
  | cons t ts ih =>
    obtain ⟨ht, hapart, hts⟩ := h
    rw [show Tree.spotsList (ts.append us) = _ from Parse.spotsList_append ts us] at hapart
    obtain ⟨hfirst, hrest, hapart'⟩ := ih hts
    refine ⟨⟨ht, fun x hx y hy => hapart x hx y (List.mem_append_left _ hy), hfirst⟩, hrest,
      fun x hx y hy => ?_⟩
    rcases List.mem_append.mp hx with hx | hx
    · exact hapart x hx y (List.mem_append_right _ hy)
    · exact hapart' x hx y hy

theorem InRow.left {ts us : List Tree} (h : InRow l (ts ++ us)) : InRow l ts where
  part t ht := h.part t (List.mem_append_left _ ht)
  legible t ht := h.legible t (List.mem_append_left _ ht)
  laidOut := (LaidOutList.split h.laidOut).1

theorem InRow.right {ts us : List Tree} (h : InRow l (ts ++ us)) : InRow l us where
  part t ht := h.part t (List.mem_append_right _ ht)
  legible t ht := h.legible t (List.mem_append_right _ ht)
  laidOut := (LaidOutList.split h.laidOut).2.1

theorem InRow.tail {t : Tree} {ts : List Tree} (h : InRow l (t :: ts)) : InRow l ts :=
  InRow.right (show InRow l ([t] ++ ts) from h)

/-- What fits into a section fits into it after a walk over what comes before. -/
theorem InRow.rest {ts us : List Tree} (h : InRow l (ts ++ us)) (hb : Orderly l b)
    (hframes : b.frames = []) (hsections : b.sections ≠ []) {node : NodeId} (hnode : b.host = node)
    (hfits : ∀ s ∈ Tree.spotsList (ts ++ us), b.forest.Fits l node s.2) (path : Tree.Path)
    (n : Nat) : (∃ xs rs fs, Grown l b (walkList path n ts b) xs rs fs) ∧
      ∀ s ∈ Tree.spotsList us, (walkList path n ts b).forest.Fits l node s.2 := by
  rw [Parse.spotsList_append, ← hnode] at hfits
  have hgrown := h.left.walksList path n b hb ⟨by rw [hframes]; rfl, hsections⟩ fun s hs =>
    hfits s (List.mem_append_left _ hs)
  refine ⟨⟨_, _, _, hgrown⟩, fun s hs => ?_⟩
  rw [← hnode, ← hgrown.host]
  exact hgrown.fits hb.steady (hfits s (List.mem_append_right _ hs)) fun y hy x hx =>
    (LaidOutList.split h.laidOut).2.2 x (Tree.mem_spotsList_of_preorder hy hx) s hs

/-- What can be relied on in a command after its first piece. -/
theorem InCommand.rest (h : InCommand b task block rooted) (hb : Orderly l b) {t : Tree}
    {ts : List Tree} (hts : InRow l (t :: ts)) (path : Tree.Path) (n : Nat)
    (hfits : ∀ s ∈ Tree.spotsList (t :: ts), b.forest.Fits l block s.2) :
    Orderly l (walk (n :: path) t b) ∧ InCommand (walk (n :: path) t b) task block rooted ∧
      ∀ s ∈ Tree.spotsList ts, (walk (n :: path) t b).forest.Fits l block s.2 := by
  have hsections : b.sections ≠ [] := by
    obtain ⟨_, _, _, _, hsections⟩ := h.sections
    rw [hsections]
    exact List.cons_ne_nil _ _
  obtain ⟨⟨xs, rs, fs, hgrown⟩, hrest⟩ :=
    InRow.rest (show InRow l ([t] ++ ts) from hts) hb h.frames hsections h.host hfits path n
  exact ⟨hgrown.orderly, h.grown hgrown, hrest⟩

/-- The children of what is no expression stand in a section, too. -/
theorem InRow.children {p : Production} {e : Option Extent} {cs ts : List Tree}
    (h : InRow l ts) (ht : .node p e cs ∈ ts) (hp : p ≠ .expr) : InRow l cs where
  part := by
    cases h.part _ ht with
    | expr hexpr =>
      cases hexpr
      exact absurd rfl hp
    | neutral _ hcs => exact hcs
    | leaf _ hcs => exact fun c hc => (hcs c hc).part
    | inSection _ _ hcs => exact hcs
  legible := (h.legible _ ht).child
  laidOut := (h.laidOut.child ht).2

/-- A run of text is added to the command. -/
theorem InCommand.walk_fragment (h : InCommand b task block rooted) {k : Token}
    (hk : k.terminal.isFragment = true) (path : Tree.Path) :
    Writes b (walk path (.token k) b) task rooted [k.text] [] := by
  have hvisit : walk path (.token k) b = b.addCommandPart k.text := if_pos hk
  rw [hvisit]
  exact h.addCommandPart k.text

/-- A placeholder is added to the command, with its expression. -/
theorem InCommand.walk_commandPlaceholder (h : InCommand b task block rooted) (hb : Orderly l b)
    {x : Option Extent} {t : Tree} (ht : Phrase .placeholder t) (hless : Commandless t)
    {ts : List Tree} (hts : InRow l (.node .commandPlaceholder x [t] :: ts)) (path : Tree.Path)
    (hfits : ∀ s ∈ t.spots, b.forest.Fits l block s.2) :
    Writes b (walk path (.node .commandPlaceholder x [t]) b) task rooted
        [(Tree.node .commandPlaceholder x [t]).source b.source] [b.forest.nextNode] ∧
      ∃ s ∈ t.spots,
        (walk path (.node .commandPlaceholder x [t]) b).forest.profile? b.forest.nextNode =
          some ((Body.expression {}).profile s.2) := by
  obtain ⟨hwrites, s, hs, hprofile⟩ := h.walk_placeholder hb ht hless (0 :: path) hfits
  have hin := (h.rest hb (hts.children List.mem_cons_self (by simp)) path 0 fun s hs => hfits s
    (by simpa [Tree.spotsList] using hs)).2.1
  have hwalk : walk path (.node .commandPlaceholder x [t]) b = (walk (0 :: path) t b).addCommandPart
      ((Tree.node .commandPlaceholder x [t]).source b.source) := by
    rw [← hwrites.source]
    rfl
  rw [hwalk]
  exact ⟨hwrites.trans (hin.addCommandPart _), s, hs,
    ((addCommandPart_quiet _ _).alike.profile? _).trans hprofile⟩

/-- The pieces of a command are added to it as they stand in the text. -/
theorem InCommand.walk_pieces {c : CommandStyle} {text : List Char} {i j : Nat} {ts : List Tree}
    (hpieces : Pieces c text i ts j) (hts : InRow l ts) (h : InCommand b task block rooted)
    (hb : Orderly l b) (hsource : b.source = text)
    (hfits : ∀ s ∈ Tree.spotsList ts, b.forest.Fits l block s.2) (path : Tree.Path) (n : Nat) :
    ∃ parts ids, Writes b (walkList path n ts b) task rooted parts ids ∧
      Transcript c text (walkList path n ts b).forest i parts ids j := by
  induction hpieces generalizing b n with
  | nil i => exact ⟨[], [], .of_spares (.refl b) h.task_lt, .nil i⟩
  | @fragment k ts j hk hfound _ ih =>
    have hfragment : k.terminal.isFragment = true := by
      rw [hk]
      cases c <;> rfl
    have hwrites := h.walk_fragment hfragment (n :: path)
    obtain ⟨hb', h', hfits'⟩ := h.rest hb hts path n hfits
    obtain ⟨parts, ids, hrest, htranscript⟩ := ih hts.tail h' hb'
      (hwrites.source.trans hsource) hfits' (n + 1)
    have htaken := hfound.taken
    rw [hk, c.match?_fragment] at htaken
    refine ⟨_, _, hwrites.trans hrest, .fragment hfound.start_lt hfound.text_eq ?_ htranscript⟩
    rw [(Lexer.positive_eq_some htaken).1]
    exact (c.run_spec _).1
  | @placeholder x t ts j hx ht hless hspots _ ih =>
    obtain ⟨hwrites, s, hs, hprofile⟩ := h.walk_commandPlaceholder hb ht hless hts (n :: path)
      fun s hs => hfits s (by simp [Tree.spotsList, Tree.spots, hs])
    obtain ⟨hb', h', hfits'⟩ := h.rest hb hts path n hfits
    obtain ⟨parts, ids, hrest, htranscript⟩ := ih hts.tail h' hb'
      (hwrites.source.trans hsource) hfits' (n + 1)
    obtain ⟨last, hlast, hlt, hclose⟩ := hx.closes
    have hkept := (hrest.profile? _ (Forest.lt_of_profile? _ hprofile)).trans hprofile
    obtain ⟨hspan, hstart, hstop⟩ := hspots s hs
    rw [hlast] at htranscript
    rw [walkList]
    refine ⟨_, _, hwrites.trans hrest, .placeholder hlt ?_ hx.opens hclose ?_ ?_ ?_ ?_ htranscript⟩
    · rw [Tree.source, hsource, String.toList_ofList, hlast]
      rfl
    · exact Forest.kind?_of_profile? hkept
    all_goals rw [Forest.span_of_profile? hkept]
    · exact hstart
    · exact hspan
    · show s.2.stop ≤ (last : Int)
      have hstop : s.2.stop ≤ (x.stop.offset : Int) - 1 := hstop
      omega

end Builder
end Wdl
