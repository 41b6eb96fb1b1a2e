import Wdl.Proofs.Builder.Commands
import Wdl.Proofs.Builder.Texts
import Wdl.Proofs.Parse.Commands

/-!
Tasks and their commands.

Every task that a document lists holds its command as it stands in the text: the parts of the
command put together are what stands between its delimiters, and its placeholders are those of the
text, in order.  A document whose tasks do so keeps to it over every element:
those that are no tasks leave commands alone, and a task is listed as it begins, takes in the block
of its command with all that is in it, and is left alone after that.
-/

namespace Wdl

namespace Forest

variable {f g : Forest} {text : List Char} {id : NodeId}

/-- What a task transcribes can be told from what it holds. -/
theorem transcribes_iff : f.Transcribes text id ↔
    ∃ held block, f.kind? id = some .task ∧ f.holding? id = some held ∧ held.block = some block ∧
      f.kind? block = some (.block .command) ∧ ∃ c i j, CommandAt c text (f.span block) i j ∧
        Transcript c text f i held.command held.placeholders j := by
  constructor
  · rintro ⟨x, t, hbody, block, hblock, hkind, hcommand⟩
    refine ⟨(Body.task x t).holding, block, ?_, ?_, hblock, hkind, hcommand⟩
    · exact kind?_of_body? hbody
    · rw [holding?, hbody, Option.map_some]
  · rintro ⟨held, block, hkind, hheld, hblock, hblockKind, hcommand⟩
    obtain ⟨body, hbody, hbodyKind⟩ := body?_of_kind? hkind
    obtain ⟨x, t, rfl⟩ := Body.eq_task hbodyKind
    rw [holding?, hbody, Option.map_some] at hheld
    obtain rfl := Option.some.inj hheld
    exact ⟨x, t, hbody, block, hblock, hblockKind, hcommand⟩

/-- Nothing but the profiles of nodes and what the task holds matters to it. -/
theorem Transcribes.congr (h : f.Transcribes text id)
    (hprofile : ∀ j, j < f.nextNode → g.profile? j = f.profile? j)
    (hholding : g.holding? id = f.holding? id) : g.Transcribes text id := by
  obtain ⟨held, block, hkind, hheld, hblock, hblockKind, c, i, j, hat, htranscript⟩ :=
    transcribes_iff.mp h
  have hkept : ∀ {j k}, f.kind? j = some k → g.kind? j = some k := by
    intro j k hj
    rw [kind?_eq, hprofile j (lt_of_kind? hj), ← kind?_eq, hj]
  refine transcribes_iff.mpr ⟨held, block, hkept hkind, hholding.trans hheld, hblock,
    hkept hblockKind, c, i, j, ?_,
    htranscript.congr fun k hk => hprofile k (htranscript.lt_of_mem k hk)⟩
  obtain ⟨q, hq⟩ := f.exists_profile? (lt_of_kind? hblockKind)
  rw [span_of_profile? ((hprofile block (lt_of_kind? hblockKind)).trans hq), ← span_of_profile? hq]
  exact hat

end Forest

namespace Builder

variable {l : Layout} {b b' : Builder} {text : List Char} {task block : NodeId} {rooted : Bool}

/-! ## Commands -/

/-- A task is open in a document, and nothing in the task. -/
structure InTask (b : Builder) (task : NodeId) (rooted : Bool) : Prop where
  frames : b.frames = []
  sections : ∃ path scope, b.sections = [⟨path, task, scope, rooted⟩]
  taskKind : b.forest.kind? task = some .task

namespace InTask

theorem current (h : InTask b task rooted) :
    b.current.node = task ∧ b.current.rooted = rooted := by
  obtain ⟨path, scope, hsections⟩ := h.sections
  rw [current_of_sections hsections]
  exact ⟨rfl, rfl⟩

theorem host (h : InTask b task rooted) : b.host = task := by
  rw [host_of_frames_nil (by rw [h.frames]; rfl), h.current.1]

theorem task_lt (h : InTask b task rooted) : task < b.forest.nextNode :=
  Forest.lt_of_kind? h.taskKind

theorem outside (h : InTask b task rooted) : b.Outside := by
  obtain ⟨path, scope, hsections⟩ := h.sections
  rw [Outside, hsections]
  refine List.forall_mem_singleton.mpr ?_
  rw [h.taskKind]
  simp

theorem grown (h : InTask b task rooted) {xs : List (Tree.Path × Tree)}
    {rs : List (Tree.Path × NodeId)} {fs : List Tree.Path} (hg : Grown l b b' xs rs fs) :
    InTask b' task rooted where
  frames := by
    have hframes := hg.frames
    rw [h.frames] at hframes
    exact List.map_eq_nil_iff.mp hframes
  sections := by
    rw [hg.sections]
    exact h.sections
  taskKind := by
    rw [Forest.kind?_eq, hg.profile? _ h.task_lt, ← Forest.kind?_eq, h.taskKind]

/-- A task without a command takes in the block of one that does not lie where another part does. -/
theorem adopts (h : InTask b task rooted) (hs : Steady b) {held : Holding}
    (hheld : b.forest.holding? task = some held) (hnone : held.block = none) {t : Tree}
    (hfits : b.forest.Fits l task t.span) :
    ∃ x r p, p.body = .task x r ∧ Forest.Adopts (b.forest.addNode (b.nodeOf t (.block .command [])))
      b.current.node b.forest.nextNode p (b.nodeOf t (.block .command [])) := by
  obtain ⟨p, hp, hkind⟩ := Option.map_eq_some_iff.mp h.taskKind
  obtain ⟨x, r, hbody⟩ := Body.eq_task hkind
  rw [← h.current.1] at hp hfits hheld
  refine ⟨x, r, p, hbody, ?_, b.forest.node?_addNode_self _, ?_,
    twin?_of_fits hs (.refl _) hfits, ?_⟩
  · rw [b.forest.node?_addNode_of_lt _ hs.current.2, hp]
  · rw [hbody]
    rfl
  · have hlookup : x.blocks.lookup .command = none := by
      rw [Forest.holding?, Forest.body?, hp, Option.map_some, hbody] at hheld
      rw [← hnone, ← Option.some.inj hheld]
      rfl
    rw [hbody]
    show Forest.executableObjection? "task" x (.block .command []) = none
    rw [Forest.executableObjection?, hlookup, Option.isSome_none, if_neg Bool.false_ne_true]

/-- What the forest is when a command begins, in a task that holds nothing yet. -/
structure Opens (b : Builder) (g : Forest) (task : NodeId) (t : Tree) : Prop where
  nextNode : g.nextNode = b.forest.nextNode + 1
  profile? : ∀ id, g.profile? id = if id = b.forest.nextNode then
    some ((Body.block .command []).profile t.span) else b.forest.profile? id
  parent? : g.parent? b.forest.nextNode = some task
  holding? : ∀ id, id < b.forest.nextNode → g.holding? id =
    if id = task then some { block := some b.forest.nextNode } else b.forest.holding? id

theorem enter_command_eq (h : InTask b task rooted) (hs : Steady b)
    (hheld : b.forest.holding? task = some {}) (path : Tree.Path) (e : Option Extent)
    (cs : List Tree) (hfits : b.forest.Fits l task (Tree.node .command e cs).span) :
    ∃ g, Opens b g task (.node .command e cs) ∧ b.enter path (.node .command e cs) =
      { b with
        forest := g
        sections := ⟨path, b.forest.nextNode, none, rooted⟩ :: b.sections } := by
  obtain ⟨x, r, p, hbody, hadopts⟩ := h.adopts hs hheld rfl hfits
  have hattach : (b.introduce (.node .command e cs) (.block .command [])).forest.attach
      b.current.node b.forest.nextNode (b.bindingFor none) =
        .ok ((b.forest.addNode (b.nodeOf (.node .command e cs) (.block .command []))).adopt
          b.current.node p b.forest.nextNode (b.nodeOf (.node .command e cs) (.block .command [])),
          b.forest.nextNode) := by
    rw [show b.bindingFor none = none from ite_self none]
    exact hadopts.attach none
  have henter := openNew_of_ok hattach path
  have hgrafts := hadopts.grafts
  have hholding := fun id => hadopts.holding?_command (j := id) hbody rfl
  have hheld' : some p.body.holding = some {} := by
    rw [← hheld, Forest.holding?, Forest.body?, ← b.forest.node?_addNode_of_lt _ h.task_lt,
      ← h.current.1, hadopts.parent_eq]
    rfl
  rw [Option.some.inj hheld'] at hholding
  rw [h.current.1] at hgrafts hholding henter
  rw [h.current.2] at henter
  refine ⟨_, ⟨hgrafts.nextNode.trans (b.forest.nextNode_addNode _), fun id => ?_,
    (hgrafts.parent? _).trans (if_pos rfl), fun id hid => ?_⟩, henter⟩
  · exact (hgrafts.profile? id).trans (b.forest.profile?_addNode _ id)
  · refine (hholding id).trans (ite_congr rfl (fun _ => rfl) fun _ => ?_)
    exact Forest.holding?_congr (b.forest.node?_addNode_of_lt _ hid)

/-- A command begins: its block is put into the task. -/
theorem enter_command (h : InTask b task rooted) (hs : Steady b)
    (hheld : b.forest.holding? task = some {}) (path : Tree.Path) (e : Option Extent)
    (cs : List Tree) (hfits : b.forest.Fits l task (Tree.node .command e cs).span) :
    InCommand (b.enter path (.node .command e cs)) task b.forest.nextNode rooted ∧
      Touches b (b.enter path (.node .command e cs)) task ∧
      (b.enter path (.node .command e cs)).forest.holding? task =
        some { block := some b.forest.nextNode } ∧
      (b.enter path (.node .command e cs)).forest.profile? b.forest.nextNode =
        some ((Body.block .command []).profile (Tree.node .command e cs).span) := by
  obtain ⟨g, hopens, henter⟩ := h.enter_command_eq hs hheld path e cs hfits
  have hold : ∀ id, id < b.forest.nextNode → g.profile? id = b.forest.profile? id := fun id hid =>
    (hopens.profile? id).trans (if_neg (Nat.ne_of_lt hid))
  have hnew := (hopens.profile? b.forest.nextNode).trans (if_pos rfl)
  obtain ⟨path', scope, hsections⟩ := h.sections
  rw [henter]
  refine ⟨⟨h.frames, ⟨path', path, scope, [], by rw [hsections]⟩, Forest.kind?_of_profile? hnew, ?_,
    hopens.parent?⟩, ⟨rfl, Nat.le_of_lt (hopens.nextNode ▸ Nat.lt_succ_self _), hold,
      fun id hid hne => (hopens.holding? id hid).trans (if_neg hne)⟩,
    (hopens.holding? task h.task_lt).trans (if_pos rfl), hnew⟩
  rw [Forest.kind?_eq, hold task h.task_lt, ← Forest.kind?_eq, h.taskKind]

/-- A command is put into a task that holds nothing yet. -/
theorem walk_command (h : InTask b task rooted) (hb : Orderly l b)
    (hheld : b.forest.holding? task = some {}) (hsource : b.source = text) {c : Tree}
    (hc : Commanded text c) {ts : List Tree} (hts : InRow l ts) (hmem : c ∈ ts) (path : Tree.Path)
    (hfits : ∀ s ∈ c.spots, b.forest.Fits l task s.2) :
    Touches b (walk path c b) task ∧
      (rooted = true → (walk path c b).forest.Transcribes text task) := by
  obtain ⟨style, x, us, i, j, rfl, hat, hpieces⟩ := hc.located
  have hself : b.forest.Fits l task (Tree.node .command (some x) us).span :=
    hfits (.block .command, (Tree.node .command (some x) us).span) List.mem_cons_self
  obtain ⟨hin, htouches, hblock, hprofile⟩ :=
    h.enter_command hb.steady hheld path (some x) us hself
  obtain ⟨hentered, -, context, hsections, hpath, -⟩ := enter_section_entered
    (p := .command) rfl path (some x) us hb (by rwa [h.current.1]) (by simp)
  have hinner := hentered.fits_inside hin.host (hts.laidOut.child hmem)
  have hus := hts.children hmem (by simp)
  have hgrown := hus.walksList path 0 _ hentered.orderly
    ⟨by rw [hin.frames]; rfl, by rw [hsections]; exact List.cons_ne_nil _ _⟩ hinner
  rw [hin.host] at hinner
  obtain ⟨parts, ids, hwrites, htranscript⟩ := hin.walk_pieces hpieces hus hentered.orderly
    (htouches.source.trans hsource) hinner path 0
  have hwalk : walk path (.node .command (some x) us) b = _ :=
    exit_innermost (p := .command) rfl (hgrown.sections.trans hsections) hpath (some x) us
  rw [hwalk]
  -- the end of the command leaves the forest as it is
  generalize walkList path 0 us (b.enter path (.node .command (some x) us)) = b₂ at *
  have hend : Spares b₂ { b₂ with sections := b.sections } := .of_forest rfl rfl
  refine ⟨(htouches.trans hwrites.toTouches).trans (hend.touches task), ?_⟩
  rintro rfl
  have hadded := hwrites.added
  rw [hblock, Option.map_some] at hadded
  have hkind : b₂.forest.kind? task = some .task := by
    rw [Forest.kind?_eq, hwrites.profile? task hin.task_lt, ← Forest.kind?_eq, hin.taskKind]
  have hprofile' := (hwrites.profile? _ (Forest.lt_of_profile? _ hprofile)).trans hprofile
  refine Forest.transcribes_iff.mpr ⟨_, b.forest.nextNode, hkind, hadded, rfl,
    Forest.kind?_of_profile? hprofile', style, i, j, ?_, htranscript⟩
  rw [Forest.span_of_profile? hprofile']
  exact hat

/-- What can be relied on in a task after a walk over its first parts. -/
theorem rest (h : InTask b task rooted) (hb : Orderly l b) {ts us : List Tree}
    (hts : InRow l (ts ++ us)) (path : Tree.Path) (n : Nat)
    (hfits : ∀ s ∈ Tree.spotsList (ts ++ us), b.forest.Fits l task s.2) :
    Orderly l (walkList path n ts b) ∧ InTask (walkList path n ts b) task rooted ∧
      ∀ s ∈ Tree.spotsList us, (walkList path n ts b).forest.Fits l task s.2 := by
  have hsections : b.sections ≠ [] := by
    obtain ⟨_, _, hsections⟩ := h.sections
    rw [hsections]
    exact List.cons_ne_nil _ _
  obtain ⟨⟨xs, rs, fs, hgrown⟩, hrest⟩ := hts.rest hb h.frames hsections h.host hfits path n
  exact ⟨hgrown.orderly, h.grown hgrown, hrest⟩

/-- Parts of a task that have nothing to do with commands leave alone what is there. -/
theorem walkList_spares (h : InTask b task rooted) (hb : Orderly l b) {ts : List Tree}
    (hless : ∀ t ∈ ts, Commandless t) (path : Tree.Path) (n : Nat) :
    Spares b (walkList path n ts b) :=
  (walkList_bypasses (fun t ht path _ hb hout => walk_bypasses (hless t ht) path hb hout) path n
    hb.rooted h.outside).toSpares

/-- A walk over what is in a task puts its command into it. -/
theorem walk_children (h : InTask b task rooted) (hb : Orderly l b)
    (hheld : b.forest.holding? task = some {}) (hsource : b.source = text) {front back : List Tree}
    {c : Tree} (hfront : ∀ t ∈ front, Commandless t) (hc : Commanded text c)
    (hback : ∀ t ∈ back, Commandless t) (hts : InRow l (front ++ c :: back)) (path : Tree.Path)
    (n : Nat) (hfits : ∀ s ∈ Tree.spotsList (front ++ c :: back), b.forest.Fits l task s.2) :
    Touches b (walkList path n (front ++ c :: back) b) task ∧
      (rooted = true →
        (walkList path n (front ++ c :: back) b).forest.Transcribes text task) := by
  rw [walkList_append, walkList]
  have hbefore := h.walkList_spares hb hfront path n
  obtain ⟨hb₁, h₁, hfits₁⟩ := h.rest hb hts path n hfits
  have hheld₁ := (hbefore.holding? task h.task_lt).trans hheld
  obtain ⟨htouches, htranscribes⟩ := h₁.walk_command hb₁ hheld₁ (hbefore.source.trans hsource) hc
    hts.right List.mem_cons_self ((n + front.length) :: path) fun s hs =>
      hfits₁ s (List.mem_append_left _ hs)
  have hmore : InRow l ([c] ++ back) := hts.right
  obtain ⟨hb₂, h₂, -⟩ := h₁.rest hb₁ hmore path (n + front.length) hfits₁
  have hafter := h₂.walkList_spares hb₂ hback path (n + front.length + 1)
  refine ⟨((hbefore.touches task).trans htouches).trans (hafter.touches task), fun hrooted => ?_⟩
  exact (htranscribes hrooted).congr hafter.profile? (hafter.holding? task h₂.task_lt)

end InTask

/-! ## Tasks -/

/-- A task holds nothing when it begins, and the document lists it if it takes it in. -/
structure Begins (b b' : Builder) (rooted : Bool) : Prop extends Touches b b' b.document where
  inTask : InTask b' b.forest.nextNode rooted
  held : b'.forest.holding? b.forest.nextNode = some {}
  listed : b'.forest.holding? b.document = (b.forest.holding? b.document).map fun held =>
    if rooted then { held with tasks := held.tasks ++ [b.forest.nextNode] } else held

/-- What is held when the section of a task is opened in a document. -/
theorem openNew_task (hb : Orderly l b) (hsections : b.sections = []) (path : Tree.Path) (t : Tree)
    (x : Executable) (hblocks : x.blocks = []) (name : Option String)
    (hfits : b.forest.Fits l b.document t.span) : ∃ rooted,
      (∃ scope, (b.openNew path t (.task x {}) name).sections =
        [⟨path, b.forest.nextNode, scope, rooted⟩]) ∧
      ∀ id, (b.openNew path t (.task x {}) name).forest.holding? id =
        if id = b.forest.nextNode then some {}
        else if id = b.document then (b.forest.holding? id).map fun held =>
          if rooted then { held with tasks := held.tasks ++ [b.forest.nextNode] } else held
        else b.forest.holding? id := by
  have hcurrent : b.current.node = b.document ∧ b.current.rooted = true := by
    rw [current, hsections]
    exact ⟨rfl, rfl⟩
  have hintroduce : ∀ id, (b.introduce t (.task x {})).forest.holding? id =
      if id = b.forest.nextNode then some {} else b.forest.holding? id := by
    intro id
    split
    · next hid =>
      rw [hid, Forest.holding?, Forest.body?, introduce_node?]
      show some (Holding.mk [] (x.blocks.lookup .command) [] []) = _
      rw [hblocks]
      rfl
    · next hid => exact Forest.holding?_congr (b.introduce_node?_of_ne t (.task x {}) hid)
  cases hresult : (b.introduce t (.task x {})).forest.attach b.current.node b.forest.nextNode
      (b.bindingFor name) with
  | error problem =>
    obtain ⟨problems, hopen⟩ := openNew_of_error hresult path
    rw [hopen]
    refine ⟨false, ⟨_, by rw [hsections]⟩, fun id => ?_⟩
    simp [hintroduce]
  | ok done =>
    obtain ⟨g, id⟩ := done
    rw [openNew_of_ok hresult path]
    have hnew := b.introduce_node? t (.task x {})
    obtain ⟨p, hp, hkind⟩ := Option.map_eq_some_iff.mp hb.steady.kind?_document
    obtain ⟨d, hd⟩ := Body.eq_document hkind
    rw [← b.introduce_node?_of_ne t (.task x {}) (Nat.ne_of_lt hb.steady.document_lt)] at hp
    cases Forest.attached_of_ok hresult with
    | absent hmissing =>
      rw [hcurrent.1, hp, hnew] at hmissing
      simp at hmissing
    | twin hc htwin =>
      obtain rfl := Option.some.inj (hnew.symm.trans hc)
      have hnone := twin?_of_fits hb.steady (b.introduce_forest t (.task x {}))
        (by rwa [hcurrent.1])
      cases hnone.symm.trans htwin
    | @adopted p' c f hp' hc haccepts htwin hobjection hbind =>
      rw [hcurrent.1] at hp'
      obtain rfl := Option.some.inj (hp.symm.trans hp')
      obtain rfl := Option.some.inj (hnew.symm.trans hc)
      have hadopts : Forest.Adopts f b.document b.forest.nextNode p (b.nodeOf t (.task x {})) :=
        .of_nodes ⟨hp, hc, haccepts, hcurrent.1 ▸ htwin, hobjection⟩ (Forest.bind?_nodes hbind)
      refine ⟨true, ⟨_, by rw [hsections, hcurrent.2]⟩, fun id => ?_⟩
      refine (Forest.holding?_congr (b.nestScope_node? _ _ id)).trans ?_
      rw [hcurrent.1, hadopts.holding?_task hd rfl,
        Forest.holding?_congr (Forest.bind?_node? hbind id), hintroduce]
      by_cases hid : id = b.document
      · have hheld : b.forest.holding? b.document = some { tasks := d.tasks } := by
          rw [Forest.holding?, Forest.body?, ← b.introduce_node?_of_ne t (.task x {})
            (Nat.ne_of_lt hb.steady.document_lt), hp, Option.map_some, hd]
          rfl
        rw [hid, if_pos rfl, if_neg (Nat.ne_of_lt hb.steady.document_lt), if_pos rfl, hheld]
        rfl
      · rw [if_neg hid, if_neg hid]

theorem enter_task (hb : Orderly l b) (hframes : b.frames = []) (hsections : b.sections = [])
    (path : Tree.Path) (e : Option Extent) (cs : List Tree)
    (hfits : b.forest.Fits l b.document (Tree.node .task e cs).span) :
    ∃ rooted, Begins b (b.enter path (.node .task e cs)) rooted := by
  have hcurrent : b.current.node = b.document ∧ b.current.rooted = true := by
    rw [current, hsections]
    exact ⟨rfl, rfl⟩
  obtain ⟨⟨-, ⟨q, parent, hsprout, hspot, -⟩, -, -, -⟩, hframes', -⟩ := enter_section_entered
    (p := .task) rfl path e cs hb (by rwa [hcurrent.1]) (by simp)
  have hkind : (b.enter path (.node .task e cs)).forest.kind? b.forest.nextNode = some .task := by
    rw [Forest.kind?_of_profile? hsprout.profile?_new]
    exact (congrArg (Option.map Prod.fst) hspot).symm
  let name := (Tree.node .task e cs).childText 0
  let x : Executable :=
    { name
      scope := b.forest.nextScope
      rawElements := (Tree.node .task e cs).nodes.map (·.source b.source) }
  obtain ⟨rooted, ⟨scope, hopened⟩, hholding⟩ := openNew_task hb hsections path (.node .task e cs) x
    rfl (some name) hfits
  obtain ⟨errors, henter⟩ := checkKeyword_eq
    (b.openNew path (.node .task e cs) (.task x {}) (some name)) (.node .task e cs) name
  change b.enter path (.node .task e cs) = _ at henter
  have hforest : (b.enter path (.node .task e cs)).forest =
      (b.openNew path (.node .task e cs) (.task x {}) (some name)).forest := by
    rw [henter]
    rfl
  rw [← hforest] at hholding
  have hdocument := Nat.ne_of_lt hb.steady.document_lt
  refine ⟨rooted, ⟨?_, ?_, fun id hid => hsprout.profile?_of_lt hid, fun id hid hne => ?_⟩,
    ⟨hframes'.trans hframes, ⟨path, scope, ?_⟩, hkind⟩, ?_, ?_⟩
  · rw [henter]
    exact openNew_source ..
  · rw [hsprout.nextNode]
    exact Nat.le_succ _
  · rw [hholding, if_neg (Nat.ne_of_lt hid), if_neg hne]
  · rw [henter]
    exact hopened
  · rw [hholding, if_pos rfl]
  · rw [hholding, if_neg hdocument, if_pos rfl]

/-- A walk over a task: the document lists it with its command, or leaves it out. -/
theorem walk_task (hb : Orderly l b) (hframes : b.frames = []) (hsections : b.sections = [])
    (hsource : b.source = text) {front back : List Tree} {c : Tree} {e : Option Extent}
    (hfront : ∀ t ∈ front, Commandless t) (hc : Commanded text c)
    (hback : ∀ t ∈ back, Commandless t) (hts : InRow l (front ++ c :: back))
    (hlaid : l.LaidOut (.node .task e (front ++ c :: back))) (path : Tree.Path)
    (hfits : b.forest.Fits l b.document (Tree.node .task e (front ++ c :: back)).span) :
    Touches b (walk path (.node .task e (front ++ c :: back)) b) b.document ∧
      ∃ rooted : Bool,
        (walk path (.node .task e (front ++ c :: back)) b).forest.holding? b.document =
          (b.forest.holding? b.document).map (fun held =>
            if rooted then { held with tasks := held.tasks ++ [b.forest.nextNode] } else held) ∧
        (rooted = true → (walk path (.node .task e (front ++ c :: back)) b).forest.Transcribes text
          b.forest.nextNode) := by
  have hcurrent : b.current.node = b.document := by
    rw [current, hsections]
    rfl
  obtain ⟨rooted, hbegins⟩ := enter_task hb hframes hsections path e (front ++ c :: back) hfits
  obtain ⟨hentered, -, context, hsections', hpath, -⟩ := enter_section_entered
    (p := .task) rfl path e (front ++ c :: back) hb (by rwa [hcurrent]) (by simp)
  have hin := hbegins.inTask
  have hinner := hentered.fits_inside hin.host hlaid
  have hne : (b.enter path (.node .task e (front ++ c :: back))).sections ≠ [] := by
    rw [hsections']
    exact List.cons_ne_nil _ _
  have hall := hts.walksList path 0 _ hentered.orderly ⟨by rw [hin.frames]; rfl, hne⟩ hinner
  have hwalk : walk path (.node .task e (front ++ c :: back)) b = _ :=
    exit_innermost (p := .task) rfl (hall.sections.trans hsections') hpath e (front ++ c :: back)
  obtain ⟨htouches, htranscribes⟩ := hin.walk_children hentered.orderly hbegins.held
    (hbegins.source.trans hsource) hfront hc hback hts path 0 (hin.host ▸ hinner)
  rw [hwalk]
  -- the end of the task leaves the forest as it is
  generalize walkList path 0 (front ++ c :: back) (b.enter path _) = b₂ at *
  have hend : Spares b₂ { b₂ with sections := b.sections } := .of_forest rfl rfl
  refine ⟨(hbegins.toTouches.trans_new htouches (Nat.le_refl _)).trans (hend.touches _), rooted, ?_,
    htranscribes⟩
  rw [← hbegins.listed]
  exact htouches.others _ (Nat.lt_of_lt_of_le hb.steady.document_lt hbegins.nextNode)
    (Nat.ne_of_lt hb.steady.document_lt)

/-! ## Documents -/

/-- Nothing is open in a document, and the tasks that it lists hold the commands that stand in a
text. -/
structure Transcribing (l : Layout) (text : List Char) (b : Builder) : Prop where
  orderly : Orderly l b
  frames : b.frames = []
  sections : b.sections = []
  source : b.source = text
  tasks : ∃ held, b.forest.holding? b.document = some held ∧
    ∀ id ∈ held.tasks, b.forest.Transcribes text id

namespace Transcribing

theorem host (h : Transcribing l text b) : b.host = b.document := by
  rw [host_of_frames_nil (by rw [h.frames]; rfl), current, h.sections]
  rfl

theorem outside (h : Transcribing l text b) : b.Outside := by
  rw [Outside, h.sections]
  exact List.forall_mem_nil _

/-- The tasks that are listed keep their commands where nothing but the document is touched. -/
theorem kept (h : Transcribing l text b) (ht : Touches b b' b.document) {id : NodeId}
    (hid : b.forest.Transcribes text id) : b'.forest.Transcribes text id := by
  obtain ⟨_, _, hkind, -⟩ := Forest.transcribes_iff.mp hid
  refine hid.congr ht.profile? (ht.others id (Forest.lt_of_kind? hkind) ?_)
  rintro rfl
  rw [h.orderly.steady.kind?_document] at hkind
  cases hkind

/-- A task is listed with its command, and other elements leave commands alone. -/
theorem walk_element (h : Transcribing l text b) {t : Tree} (ht : Element text t)
    (houter : Outer Token.Proper t) (hlegible : t.AllLegible) (hlaid : l.LaidOut t)
    (path : Tree.Path) (hfits : ∀ s ∈ t.spots, b.forest.Fits l b.document s.2) :
    Touches b (walk path t b) b.document ∧
      ∃ held, (walk path t b).forest.holding? b.document = some held ∧
        ∀ id ∈ held.tasks, (walk path t b).forest.Transcribes text id := by
  obtain ⟨held, hheld, htasks⟩ := h.tasks
  cases ht with
  | other hless =>
    have hspares := (walk_bypasses hless path h.orderly.rooted h.outside).toSpares
    exact ⟨hspares.touches _, held,
      (hspares.holding? _ h.orderly.steady.document_lt).trans hheld,
      fun id hid => h.kept (hspares.touches _) (htasks id hid)⟩
  | @task e front back c hfront hc hback =>
    have hpart : Part Token.Proper (.node .task e (front ++ c :: back)) := by
      cases houter with
      | neutral hneutral => cases hneutral
      | part _ hpart => exact hpart
    have hts : InRow l (front ++ c :: back) := InRow.children
      ⟨List.forall_mem_singleton.mpr hpart, List.forall_mem_singleton.mpr hlegible,
        hlaid, fun _ _ y hy => absurd hy List.not_mem_nil, trivial⟩ List.mem_cons_self (by simp)
    obtain ⟨htouches, rooted, hlisted, htranscribes⟩ := walk_task h.orderly h.frames h.sections
      h.source hfront hc hback hts hlaid path (hfits _ List.mem_cons_self)
    rw [hheld, Option.map_some] at hlisted
    refine ⟨htouches, _, hlisted, fun id hid => ?_⟩
    cases rooted with
    | false => exact h.kept htouches (htasks id hid)
    | true =>
      rcases List.mem_append.mp hid with hid | hid
      · exact h.kept htouches (htasks id hid)
      · rw [List.mem_singleton.mp hid]
        exact htranscribes rfl

theorem walkList {cs : List Tree} (h : Transcribing l text b) (hcs : ∀ c ∈ cs, Element text c)
    (houter : ∀ c ∈ cs, Outer Token.Proper c) (hlegible : ∀ c ∈ cs, c.AllLegible)
    (hlaid : l.LaidOutList cs) (path : Tree.Path) (n : Nat)
    (hfits : ∀ s ∈ Tree.spotsList cs, b.forest.Fits l b.document s.2) :
    Transcribing l text (walkList path n cs b) := by
  induction cs generalizing b n with
  | nil => exact h
  | cons c cs ih =>
    obtain ⟨hc, hcs⟩ := List.forall_mem_cons.mp hcs
    obtain ⟨hcouter, houter⟩ := List.forall_mem_cons.mp houter
    obtain ⟨hclegible, hlegible⟩ := List.forall_mem_cons.mp hlegible
    obtain ⟨hclaid, hapart, hlaid⟩ := hlaid
    have hself : ∀ s ∈ c.spots, b.forest.Fits l b.document s.2 := fun s hs =>
      hfits s (List.mem_append_left _ hs)
    obtain ⟨htouches, htasks⟩ := h.walk_element hc hcouter hclegible hclaid (n :: path) hself
    rw [← h.host] at hfits hself
    have hgrown := walks_outer hcouter hclegible hclaid (n :: path) b h.orderly
      (by rw [h.frames]; rfl) hself
    have hframes := hgrown.frames
    rw [h.frames] at hframes
    rw [← hgrown.document] at htasks
    have hnext : Transcribing l text (walk (n :: path) c b) :=
      ⟨hgrown.orderly, List.map_eq_nil_iff.mp hframes, hgrown.sections.trans h.sections,
        htouches.source.trans h.source, htasks⟩
    refine ih hnext hcs houter hlegible hlaid (n + 1) fun s hs => ?_
    rw [← hnext.host]
    exact hgrown.fits h.orderly.steady (hfits s (List.mem_append_right _ hs)) fun y hy x hx =>
      hapart x (Tree.mem_spots_of_preorder hy hx) s hs

end Transcribing

/-- It does not matter whether the beginning of the document has been seen. -/
theorem Transcribing.walked (h : Transcribing l text b) :
    Transcribing l text { b with walked := true } :=
  ⟨h.orderly.quiet (enter_quiet (p := .document) b rfl rfl rfl [] none []), h.frames, h.sections,
    h.source, h.tasks⟩

/-- A document lists no task when it is begun. -/
theorem start_transcribing (l : Layout) (f : Forest) (path : String) (stop : Int) (origin : Origin)
    (source : List Char) (keywords : List String) (errors : List SyntaxError) :
    Transcribing l source (start f path stop origin source keywords errors) := by
  refine ⟨start_orderly .., rfl, rfl, rfl, {}, ?_, List.forall_mem_nil _⟩
  have hnew := f.node?_addNode_self
    (⟨.document { path, scope := f.nextScope }, ⟨0, stop⟩, none, none⟩ : Node)
  exact congrArg (fun n => (Option.map Node.body n).map Body.holding) hnew

end Builder

/-! ## Documents of texts -/

/-- A text as it is read differs from the text in a line feed at its end at most. -/
theorem lexed_cases (cs : List Char) : lexed cs = cs ∨ lexed cs = cs ++ ['\n'] := by
  unfold lexed
  split
  · exact .inl rfl
  · exact .inr rfl

/-- A command ends before the line feed that is put at the end of a text. -/
theorem CommandAt.lt_length {c : CommandStyle} {cs : List Char} {s : Span} {i j : Nat}
    (h : CommandAt c (lexed cs) s i j) : j < cs.length := by
  refine Nat.lt_of_not_le fun hle => ?_
  -- all that stands after the text is the line feed
  have hafter : ∀ a ∈ (lexed cs).drop j, a = '\n' := by
    intro a ha
    rcases lexed_cases cs with heq | heq <;> rw [heq] at ha
    · rw [List.drop_eq_nil_of_le hle] at ha
      exact absurd ha List.not_mem_nil
    · rw [List.drop_append, List.drop_eq_nil_of_le hle] at ha
      exact List.mem_singleton.mp (List.drop_subset _ _ ha)
  have hclosing : ∀ a ∈ c.closing.toList, a = '\n' := fun a ha => hafter a (h.closes.1.subset ha)
  cases c <;> simp [CommandStyle.closing] at hclosing

namespace Forest

/-- A task holds the command of a text: the block of the command is where one stands in the text,
with its text from `i` to `j`, the task has a transcript of that, and the parts of the command put
together are all of it. -/
def HoldsCommand (f : Forest) (cs : List Char) (id : NodeId) : Prop :=
  ∃ x t block c i j, f.body? id = some (.task x t) ∧ x.blocks.lookup .command = some block ∧
    f.kind? block = some (.block .command) ∧ CommandAt c (lexed cs) (f.span block) i j ∧
    Transcript c cs f i t.command t.placeholders j ∧
    (String.join t.command).toList = slice cs i j

theorem Transcribes.holdsCommand {f : Forest} {cs : List Char} {id : NodeId}
    (h : f.Transcribes (lexed cs) id) : f.HoldsCommand cs id := by
  obtain ⟨x, t, hbody, block, hblock, hkind, c, i, j, hat, htranscript⟩ := h
  have htranscript : Transcript c cs f i t.command t.placeholders j := by
    rcases lexed_cases cs with heq | heq
    · rwa [heq] at htranscript
    · rw [heq] at htranscript
      exact htranscript.of_append (Nat.le_of_lt hat.lt_length)
  exact ⟨x, t, block, c, i, j, hbody, hblock, hkind, hat, htranscript, htranscript.join.2⟩

end Forest

namespace Builder

/-- The tree of a text without syntax errors is made of tasks with their commands and of elements
that have nothing to do with commands, and every task that its document lists holds its command as
it stands in the text. -/
theorem ofText_commands (f : Forest) (text uri abspath : String) (limit : Int) :
    (∀ t, Parse.parse Language.documents (.ofNames uri abspath) limit (lexed text.toList) =
        ([], some t) → ∃ e cs, t = .node .document e cs ∧
      ∀ c ∈ cs, Element (lexed text.toList) c) ∧
    ((ofText f text uri abspath limit).syntaxErrors = [] →
      ∃ d, (ofText f text uri abspath limit).forest.body? f.nextNode = some (.document d) ∧
        ∀ id ∈ d.tasks, (ofText f text uri abspath limit).forest.HoldsCommand text.toList id) := by
  refine ⟨fun t h => Grammar.elements_of_parse h, fun hclean => ?_⟩
  have hend : ∀ b : Builder, Transcribing .ordered (lexed text.toList) b →
      b.document = f.nextNode → ∃ d, b.forest.body? f.nextNode = some (.document d) ∧
        ∀ id ∈ d.tasks, b.forest.HoldsCommand text.toList id := by
    intro b h hdocument
    obtain ⟨held, hheld, htasks⟩ := h.tasks
    obtain ⟨body, hbody, hkind⟩ := Forest.body?_of_kind? h.orderly.steady.kind?_document
    obtain ⟨d, rfl⟩ := Body.eq_document hkind
    rw [Forest.holding?, hbody, Option.map_some] at hheld
    rw [← Option.some.inj hheld] at htasks
    rw [← hdocument]
    exact ⟨d, hbody, fun id hid => (htasks id hid).holdsCommand⟩
  have hstart := start_transcribing .ordered f uri ((max text.toList.length 1 : Nat) - 1)
    (.ofNames uri abspath) (lexed text.toList) Language.keywords []
  rcases ofText_cases f text uri abspath limit hclean with heq | ⟨t, hparse, heq, -⟩
  · rw [heq, finish_forest]
    exact hend _ hstart rfl
  · rw [heq, finish_forest]
    obtain ⟨htree, hlaid, -, hwithin⟩ := laidOut_of_parse hparse
    have hgrown := grown_of_parse f hparse
    obtain ⟨e, cs, rfl, helements⟩ := Grammar.elements_of_parse hparse
    have houter : ∀ c ∈ cs, Outer Token.Proper c := by
      cases htree.outer with
      | neutral _ hcs => exact hcs
      | part hbuilds => simp [Production.sectionKind?, Production.isLeaf] at hbuilds
    refine hend _ (hstart.walked.walkList helements houter htree.allLegible.child hlaid.2 [] 0
      fun s hs => ?_) hgrown.document
    exact start_fits f uri (.ofNames uri abspath) (lexed text.toList) Language.keywords []
      (hwithin s (List.mem_append_right _ hs))

/-- The task of the text with a placeholder holds its command. -/
theorem ofText_commands_echo :
    (ofText {} echoText "" "" 64).syntaxErrors = [] ∧
      (∃ x c, (ofText {} echoText "" "" 64).forest.body? 1 = some (.task x c) ∧
        c.command = [" echo ", "~\x7bx\x7d", " "]) ∧
      (ofText {} echoText "" "" 64).forest.HoldsCommand echoText.toList 1 := by
  have hecho := ofText_echoText 64
  obtain ⟨x, c, hbody, -, hcommand⟩ := hecho.task
  obtain ⟨d, hd, hholds⟩ := (ofText_commands {} echoText "" "" 64).2 hecho.syntaxErrors
  obtain ⟨d', hd', htasks⟩ := hecho.document
  obtain rfl : d = d' := Body.document.inj (Option.some.inj (hd.symm.trans hd'))
  exact ⟨hecho.syntaxErrors, ⟨x, c, hbody, hcommand⟩, hholds 1 (htasks ▸ List.mem_singleton_self 1)⟩

end Builder
end Wdl
