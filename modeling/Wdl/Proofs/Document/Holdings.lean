import Wdl.Proofs.Document.Regular
import Wdl.Proofs.Document.Sound
import Wdl.Proofs.Parse.Commands

/-!
What documents and tasks hold of commands.

A document lists its tasks, and a task keeps the block of its command, the text of the command and
the placeholders in it.  An adoption changes a holding in three ways only, as a task comes into a
document, the block of a command into a task, or an expression into such a block; `attach_holding?`
says that all others leave every holding alone.

A `Transcript` splits a stretch of a text into the parts of a command.  Each part begins where the
one before it ends, so the parts put together are the stretch, and each placeholder comes with an
expression of the forest that lies in it.  `Transcribes` says of a task that this is how it holds
the text between the delimiters of its command.
-/

namespace Wdl

/-- The kinds of nodes that a holding names, and of those that they are put into. -/
def Kind.isOfTasks : Kind → Bool
  | .task | .block .command => true
  | _ => false

/-- What a body holds that has to do with commands. -/
structure Holding where
  /-- the tasks of a document -/
  tasks : List NodeId := []
  /-- the block of the command of a task -/
  block : Option NodeId := none
  command : List String := []
  placeholders : List NodeId := []

namespace Body

def holding : Body → Holding
  | .document d => { tasks := d.tasks }
  | .task x t =>
    { block := x.blocks.lookup .command, command := t.command, placeholders := t.placeholders }
  | _ => {}

variable {b child item : Body} {id : NodeId} {k : BlockKind}

theorem holding_adopt (h : child.kind.isOfTasks = false) :
    (b.adopt id child).holding = b.holding := by
  cases b <;> cases child <;> first | rfl | cases h | skip
  case task.block x t k items =>
    have hne : BlockKind.command ≠ k := by
      rintro rfl
      cases h
    show Holding.mk [] _ _ _ = Holding.mk [] _ _ _
    rw [lookup_append_of_ne hne]

theorem holding_file (h : k ≠ .command) : (b.file k id item).holding = b.holding := by
  cases b with
  | task x t => cases k <;> cases item <;> first | rfl | exact absurd rfl h
  | _ => rfl

end Body

namespace Forest

variable {f g : Forest} {parent child owner id j : NodeId} {p c : Node}

/-- What a node holds that has to do with commands. -/
def holding? (f : Forest) (id : NodeId) : Option Holding := (f.body? id).map Body.holding

theorem holding?_congr (h : g.node? j = f.node? j) : g.holding? j = f.holding? j := by
  rw [holding?, body?, h, ← body?, ← holding?]

theorem holding?_modifyBody {change : Body → Body} (h : ∀ b, (change b).holding = b.holding)
    (f : Forest) (id : NodeId) (j : NodeId) :
    (f.modifyBody id change).holding? j = f.holding? j := by
  rw [holding?, body?_modifyBody, Option.map_map, holding?]
  congr 1
  funext b
  simp only [Function.comp_apply]
  split
  · exact h b
  · rfl

theorem holding?_linkTo : (f.linkTo parent child).holding? j = f.holding? j := by
  rw [holding?, body?_linkTo, ← holding?]

theorem holding?_fileAll {filings : List Filing} (h : ∀ x ∈ filings, x.kind ≠ .command)
    (f : Forest) : (f.fileAll filings).holding? j = f.holding? j := by
  induction filings generalizing f with
  | nil => rfl
  | cons x xs ih =>
    obtain ⟨hx, hxs⟩ := List.forall_mem_cons.mp h
    exact (ih hxs _).trans (holding?_modifyBody (fun _ => Body.holding_file hx) f x.owner j)

/-- A node without parts that has nothing to do with commands changes no holding, unless it comes
into the block of a command. -/
theorem adopt_holding? (hp : p.kind ≠ .block .command) (hc : c.kind.isOfTasks = false)
    (hparts : c.body.parts = []) : (f.adopt parent p child c).holding? j = f.holding? j := by
  have hbody : (f.modifyBody parent fun b => b.adopt child c.body).holding? j = f.holding? j :=
    holding?_modifyBody (fun _ => Body.holding_adopt hc) f parent j
  by_cases hblock : ∃ k items, p.body = .block k items
  · obtain ⟨k, items, hk⟩ := hblock
    rw [adopt_into_block hk, holding?_linkTo, holding?_fileAll, hbody]
    intro x hx
    obtain ⟨o, -, rfl⟩ := List.mem_map.mp hx
    rintro rfl
    exact hp (congrArg Body.kind hk)
  · have hblock : ∀ k items, p.body ≠ .block k items := fun k items hk => hblock ⟨k, items, hk⟩
    by_cases hitems : ∃ k items, c.body = .block k items
    · obtain ⟨k, items, hk⟩ := hitems
      obtain rfl : items = [] := by rwa [hk] at hparts
      rw [adopt_block hblock hk, holding?_linkTo]
      exact hbody
    · rw [adopt_other hblock fun k items hk => hitems ⟨k, items, hk⟩, holding?_linkTo, hbody]

theorem attach_holding? {binding : Option (ScopeId × String)}
    (h : f.attach parent child binding = .ok (g, id))
    (hp : f.kind? parent ≠ some (.block .command))
    (hc : ∀ c, f.node? child = some c → c.kind.isOfTasks = false ∧ c.body.parts = []) (j : NodeId) :
    g.holding? j = f.holding? j := by
  cases attached_of_ok h with
  | absent => rfl
  | twin => rfl
  | adopted hparent hchild _ _ _ hbind =>
    obtain ⟨hkind, hparts⟩ := hc _ hchild
    refine (adopt_holding? (fun heq => hp ?_) hkind hparts).trans
      (holding?_congr (bind?_node? hbind j))
    rw [kind?, hparent, Option.map_some, heq]

/-! ## What holdings name -/

theorem holding?_modifyBody_of_ne (change : Body → Body) (h : j ≠ id) :
    (f.modifyBody id change).holding? j = f.holding? j := by
  refine holding?_congr ?_
  rw [node?_modifyBody, if_neg (Ne.symm h)]

theorem holding?_modifyBody_self (change : Body → Body) {b : Body} (h : f.body? id = some b) :
    (f.modifyBody id change).holding? id = some (change b).holding := by
  rw [holding?, body?_modifyBody, h, Option.map_some, Option.map_some, if_pos rfl]

namespace Adopts

/-- A document lists a task that it takes in. -/
theorem holding?_task (ha : Adopts f parent child p c) {d : DocumentBody} {x : Executable}
    {t : TaskBody} (hp : p.body = .document d) (hc : c.body = .task x t) :
    (f.adopt parent p child c).holding? j =
      if j = parent then some { tasks := d.tasks ++ [child] } else f.holding? j := by
  have hnot : (∀ k items, p.body ≠ .block k items) ∧ ∀ k items, c.body ≠ .block k items := by
    rw [hp, hc]
    exact ⟨fun k items => by simp, fun k items => by simp⟩
  rw [adopt_other hnot.1 hnot.2, holding?_linkTo]
  split
  · next hj =>
    rw [hj, holding?_modifyBody_self _ ha.body?_parent, hp, hc]
    rfl
  · next hj => exact holding?_modifyBody_of_ne _ hj

/-- A task keeps the block of its command. -/
theorem holding?_command (ha : Adopts f parent child p c) {x : Executable} {t : TaskBody}
    (hp : p.body = .task x t) (hc : c.body = .block .command []) :
    (f.adopt parent p child c).holding? j =
      if j = parent then some { p.body.holding with block := some child } else f.holding? j := by
  have hnone : x.blocks.lookup .command = none := by
    have hobjection := ha.objection
    rw [hp, hc] at hobjection
    exact Body.lookup_of_objection [] hobjection
  rw [adopt_block (by simp [hp]) hc, holding?_linkTo]
  show (f.modifyBody parent fun b => b.adopt child c.body).holding? j = _
  split
  · next hj =>
    rw [hj, holding?_modifyBody_self _ ha.body?_parent, hp, hc]
    show some (Holding.mk [] ((x.blocks ++ [(BlockKind.command, child)]).lookup .command) _ _) = _
    rw [Body.lookup_append_self hnone]
    rfl
  · next hj => exact holding?_modifyBody_of_ne _ hj

/-- A task lists what comes into the block of its command. -/
theorem holding?_placeholder (ha : Adopts f parent child p c) {items : List NodeId}
    {x : Executable} {t : TaskBody} (hp : p.body = .block .command items)
    (howner : p.parent = some owner) (hbody : f.body? owner = some (.task x t)) :
    (f.adopt parent p child c).holding? j =
      if j = owner then some
        { (Body.task x t).holding with placeholders := t.placeholders ++ [child] }
      else f.holding? j := by
  have hne : owner ≠ parent := by
    rintro rfl
    have := ha.body?_parent.symm.trans hbody
    rw [hp] at this
    cases this
  have hkept : ∀ j, (f.modifyBody parent fun b => b.adopt child c.body).holding? j =
      f.holding? j := by
    intro j
    by_cases hj : j = parent
    · rw [hj, holding?_modifyBody_self _ ha.body?_parent, holding?, ha.body?_parent, hp]
      rfl
    · exact holding?_modifyBody_of_ne _ hj
  rw [adopt_into_block hp, howner, holding?_linkTo]
  show ((f.modifyBody parent fun b => b.adopt child c.body).modifyBody owner
    fun b => b.file .command child c.body).holding? j = _
  split
  · next hj =>
    have howner : (f.modifyBody parent fun b => b.adopt child c.body).body? owner =
        some (.task x t) := by
      rw [body?_modifyBody, hbody, Option.map_some, if_neg (Ne.symm hne)]
    rw [hj, holding?_modifyBody_self _ howner]
    cases c.body <;> rfl
  · next hj => rw [holding?_modifyBody_of_ne _ hj, hkept]

end Adopts

end Forest
end Wdl

/-! ## Commands as they stand in a text -/

namespace Wdl

namespace CommandStyle

/-- How the text of a command is opened. -/
def opening : CommandStyle → String
  | .brace => "\x7b"
  | .heredoc => "<<<"

def closing : CommandStyle → String
  | .brace => "\x7d"
  | .heredoc => ">>>"

theorem literal?_opener (c : CommandStyle) : c.opener.literal? = some c.opening := by
  cases c <;> rfl

theorem literal?_closer (c : CommandStyle) : c.closer.literal? = some c.closing := by
  cases c <;> rfl

end CommandStyle

/-- The characters of a text from one place up to another. -/
def slice (text : List Char) (i j : Nat) : List Char := (text.drop i).take (j - i)

theorem slice_append (text : List Char) {i j k : Nat} (hij : i ≤ j) (hjk : j ≤ k) :
    slice text i j ++ slice text j k = slice text i k := by
  have hlength : k - i = (j - i) + (k - j) := by omega
  rw [slice, slice, slice, hlength, List.take_add, List.drop_drop, Nat.add_sub_cancel' hij]

theorem slice_of_append {text back : List Char} {i j : Nat} (hj : j ≤ text.length) :
    slice (text ++ back) i j = slice text i j := by
  rw [slice, slice, List.drop_append, List.take_append_of_le_length]
  rw [List.length_drop]
  omega

/-- A line feed opens no placeholder, and does not go on with one either. -/
theorem CommandStyle.opensPlaceholder_concat (c : CommandStyle) (cs : List Char) :
    c.opensPlaceholder (cs ++ ['\n']) = c.opensPlaceholder cs := by
  rcases cs with _ | ⟨a, _ | ⟨b, cs⟩⟩
  · rfl
  · exact Bool.and_false _
  · rfl

/-- The parts of a command from one place to another: runs of text in which no placeholder opens,
and placeholders, each with its expression. -/
inductive Transcript (c : CommandStyle) (text : List Char) (f : Forest) :
    Nat → List String → List NodeId → Nat → Prop
  | nil (i : Nat) : Transcript c text f i [] [] i
  | fragment {i j k : Nat} {part : String} {parts : List String} {ids : List NodeId} : i < j →
    part.toList = slice text i j → c.Plain (text.drop i) (j - i) →
      Transcript c text f j parts ids k → Transcript c text f i (part :: parts) ids k
  | placeholder {i j k : Nat} {part : String} {parts : List String} {id : NodeId}
      {ids : List NodeId} : i < j → part.toList = slice text i (j + 1) →
    c.opensPlaceholder (text.drop i) = true → text[j]? = some '\x7d' →
      f.kind? id = some .expression → (i : Int) ≤ (f.span id).start →
        (f.span id).start ≤ (f.span id).stop → (f.span id).stop ≤ j →
          Transcript c text f (j + 1) parts ids k →
            Transcript c text f i (part :: parts) (id :: ids) k

namespace Transcript

variable {c : CommandStyle} {text : List Char} {f g : Forest} {i j k : Nat} {parts : List String}
  {ids : List NodeId}

/-- The parts put together are what stands in the text. -/
theorem join (h : Transcript c text f i parts ids k) :
    i ≤ k ∧ (String.join parts).toList = slice text i k := by
  induction h with
  | nil i => exact ⟨Nat.le_refl i, by simp [slice]⟩
  | fragment hij hpart _ _ ih =>
    refine ⟨Nat.le_trans (Nat.le_of_lt hij) ih.1, ?_⟩
    rw [String.join_cons, String.toList_append, hpart, ih.2,
      slice_append text (Nat.le_of_lt hij) ih.1]
  | placeholder hij hpart _ _ _ _ _ _ _ ih =>
    have hle := Nat.le_succ_of_le (Nat.le_of_lt hij)
    refine ⟨Nat.le_trans hle ih.1, ?_⟩
    rw [String.join_cons, String.toList_append, hpart, ih.2, slice_append text hle ih.1]

/-- A transcript only depends on the profiles of its expressions. -/
theorem congr (h : Transcript c text f i parts ids k)
    (hids : ∀ id ∈ ids, g.profile? id = f.profile? id) : Transcript c text g i parts ids k := by
  induction h with
  | nil => exact .nil _
  | fragment hij hpart hplain _ ih => exact .fragment hij hpart hplain (ih hids)
  | @placeholder i j k part parts id ids hij hpart hopens hcloses hkind hstart hspan hstop _ ih =>
    obtain ⟨hid, hids⟩ := List.forall_mem_cons.mp hids
    rw [Forest.kind?_eq] at hkind
    obtain ⟨q, hq, hkind⟩ := Option.map_eq_some_iff.mp hkind
    have hsame : g.span id = f.span id := by
      rw [Forest.span_of_profile? hq, Forest.span_of_profile? (hid.trans hq)]
    refine .placeholder hij hpart hopens hcloses ?_ (hsame ▸ hstart) (hsame ▸ hspan)
      (hsame ▸ hstop) (ih hids)
    rw [Forest.kind?_eq, hid, hq, Option.map_some, hkind]

/-- The expressions of a transcript are nodes of the forest. -/
theorem lt_of_mem (h : Transcript c text f i parts ids k) : ∀ id ∈ ids, id < f.nextNode := by
  induction h with
  | nil => exact List.forall_mem_nil _
  | fragment _ _ _ _ ih => exact ih
  | placeholder _ _ _ _ hkind _ _ _ _ ih =>
    obtain ⟨n, hn, -⟩ := Option.map_eq_some_iff.mp hkind
    exact List.forall_mem_cons.mpr ⟨f.lt_of_node? hn, ih⟩

/-- A line feed that is put at the end of a text is no part of a transcript that ends before it. -/
theorem of_append (h : Transcript c (text ++ ['\n']) f i parts ids k) (hk : k ≤ text.length) :
    Transcript c text f i parts ids k := by
  have hopens : ∀ {i}, i ≤ text.length →
      c.opensPlaceholder ((text ++ ['\n']).drop i) = c.opensPlaceholder (text.drop i) := by
    intro i hi
    rw [List.drop_append_of_le_length hi, c.opensPlaceholder_concat]
  induction h with
  | nil => exact .nil _
  | @fragment i j k part parts ids hij hpart hplain hrest ih =>
    have hj := Nat.le_trans hrest.join.1 hk
    refine .fragment hij (hpart.trans (slice_of_append hj)) (fun n hn => ?_) (ih hk)
    rw [List.drop_drop, ← hopens (by omega), ← List.drop_drop]
    exact hplain n hn
  | @placeholder i j k part parts id ids hij hpart hbegins hcloses hkind hstart hspan hstop hrest
      ih =>
    have hj := Nat.le_trans hrest.join.1 hk
    have hi : i ≤ text.length := by omega
    refine .placeholder hij (hpart.trans (slice_of_append hj)) (hopens hi ▸ hbegins) ?_ hkind
      hstart hspan hstop (ih hk)
    rwa [List.getElem?_append_left hj] at hcloses

end Transcript

/-- A command of a text: the keyword where its span begins, ignored text, an opening delimiter up to
`i`, and a closing one from `j` to the end of the span. -/
structure CommandAt (c : CommandStyle) (text : List Char) (s : Span) (i j : Nat) : Prop where
  opens : ∃ start before : Nat, s.start = start ∧ "command".toList <+: text.drop start ∧
    Passes (text.drop (start + "command".length)) (text.drop before) ∧
      c.opening.toList <+: text.drop before ∧ i = before + c.opening.length
  closes : c.closing.toList <+: text.drop j ∧ s.stop = (j + c.closing.length : Nat) - 1

/-- Where the command of a tree stands, and what it is made of. -/
theorem Commanded.located {text : List Char} {t : Tree} (h : Commanded text t) :
    ∃ c x ts i j, t = .node .command (some x) ts ∧ CommandAt c text x.span i j ∧
      Pieces c text i ts j := by
  cases h with
  | @mk c first opener closer ts hfirst hopener hcloser hfound hfound' hfound'' hpasses hpieces =>
    obtain ⟨hstop, hword⟩ := hfound.fixed (s := "command") (by rw [hfirst]; rfl)
    obtain ⟨hstop', hopening⟩ := hfound'.fixed (hopener ▸ c.literal?_opener)
    obtain ⟨hstop'', hclosing⟩ := hfound''.fixed (hcloser ▸ c.literal?_closer)
    refine ⟨c, ⟨first.start, closer.stop⟩, ts, opener.stop.offset, closer.start.offset, rfl,
      ⟨⟨first.start.offset, opener.start.offset, rfl, hword, ?_, hopening, hstop'⟩, hclosing, ?_⟩,
      hpieces⟩
    · rwa [← hstop]
    · rw [← hstop'']
      rfl

/-- A task holds the command that stands in a text where the block of its command is. -/
def Forest.Transcribes (f : Forest) (text : List Char) (id : NodeId) : Prop :=
  ∃ x t, f.body? id = some (.task x t) ∧ ∃ block, x.blocks.lookup .command = some block ∧
    f.kind? block = some (.block .command) ∧ ∃ c i j, CommandAt c text (f.span block) i j ∧
      Transcript c text f i t.command t.placeholders j

end Wdl
