import Mathlib.Logic.Basic
import Wdl.Proofs.Builder.Additions
import Wdl.Proofs.Document.Regular
import Wdl.Proofs.Grammar.Productions
import Wdl.Proofs.Occurrences

/-!
Groups of entries.

What a walk makes of the entries of a section, a call or a struct, and of the aliases of an import.
The first entry of each key is kept, and those that come later are reported, each once.

The blocks of keys and values, the calls and the structs list nodes of one kind, and no two with the
same label: `attach_of_lists` says that such a node takes in a new one unless it has one with its
label already, and what it objects to otherwise.
-/

namespace Wdl

/-! ## Nodes that list others by their labels -/

namespace Body

/-- The key of an entry, or the name of a declaration. -/
def label? : Body → Option String
  | .entry e => some e.key
  | .declaration d => some d.name
  | _ => none

/-- Whether a node lists nodes like another by their labels. -/
def lists : Body → Body → Bool
  | .block k _, .entry _ => (Body.block k []).accepts .entry
  | .call _, .entry _ => true
  | .struct _, .declaration _ => true
  | _, _ => false

/-- The problem that a node has with another whose label is taken. -/
def repeated (s : Body) (label : String) : Problem :=
  .redefinition <|
    match s with
    | .block k _ => "duplicate key " ++ label ++ " in " ++ k.name ++
        " section; the first definition is kept"
    | .call c => "duplicate input " ++ label ++ " for call " ++ c.name
    | .struct s => "struct " ++ s.name ++ " has multiple members named " ++ label
    | _ => label

variable {s c : Body}

theorem made_lists (s c : Body) : s.made.lists c = s.lists c := by
  cases s <;> cases c <;> rfl

theorem made_repeated (s : Body) (label : String) : s.made.repeated label = s.repeated label := by
  cases s <;> rfl

theorem accepts_of_lists (h : s.lists c = true) : s.accepts c.kind = true := by
  cases s <;> cases c <;> first | exact h | rfl | cases h

theorem sortsParts_of_lists (h : s.lists c = true) : s.sortsParts = false := by
  cases s <;> first | rfl | (cases c <;> cases h)

end Body

namespace Forest

variable {f : Forest} {id : NodeId} {s c : Body} {label : String}

/-- The label of a node that has one. -/
def label? (f : Forest) (id : NodeId) : Option String :=
  (f.made? id).bind Body.label?

theorem exists_of_made? (h : f.made? id = some s) : ∃ n, f.node? id = some n ∧ n.body.made = s :=
  Option.map_eq_some_iff.mp h

theorem key?_of_made? {e : EntryBody} (h : f.made? id = some (.entry e)) :
    f.key? id = some e.key := by
  obtain ⟨n, hn, hmade⟩ := exists_of_made? h
  rw [key?, body?, hn, Option.map_some]
  cases hbody : n.body <;> rw [hbody] at hmade <;> cases hmade
  rfl

theorem declaredName?_of_made? {d : DeclarationBody} (h : f.made? id = some (.declaration d)) :
    f.declaredName? id = some d.name := by
  obtain ⟨n, hn, hmade⟩ := exists_of_made? h
  rw [declaredName?, body?, hn, Option.map_some]
  cases hbody : n.body <;> rw [hbody] at hmade <;> cases hmade
  rfl

/-- A node that lists others by their labels objects to a label that it has already, and to nothing
else. -/
theorem objection?_of_lists (h : s.lists c = true) (hlabel : c.label? = some label)
    (hparts : ∀ m ∈ s.parts, ∃ x, f.made? m = some x ∧ s.lists x = true) :
    f.objection? s c =
      if some label ∈ s.parts.map f.label? then some (s.repeated label) else none := by
  have hany : ∀ g : NodeId → Option String, (∀ m ∈ s.parts, g m = f.label? m) →
      ((s.parts.any fun m => g m == some label) = true ↔ some label ∈ s.parts.map f.label?) := by
    intro g hg
    simp only [List.any_eq_true, beq_iff_eq, List.mem_map]
    exact exists_congr fun m => and_congr_right fun hm => by rw [hg m hm]
  have hentries (hentry : ∀ x, s.lists x = true → ∃ e, x = .entry e) : ∀ m ∈ s.parts,
      f.key? m = f.label? m := by
    intro m hm
    obtain ⟨x, hx, hlists⟩ := hparts m hm
    obtain ⟨e, rfl⟩ := hentry x hlists
    rw [key?_of_made? hx, label?, hx]
    rfl
  cases s <;> cases c <;> try cases h; done
  case block.entry k items e =>
    obtain rfl := Option.some.inj hlabel
    refine (if_neg Bool.false_ne_true).trans
      (if_congr (hany f.key? (hentries fun x hx => ?_)) rfl rfl)
    cases x <;> first | exact ⟨_, rfl⟩ | cases hx
  case call.entry c e =>
    obtain rfl := Option.some.inj hlabel
    refine (if_neg Bool.false_ne_true).trans
      (if_congr (hany f.key? (hentries fun x hx => ?_)) rfl rfl)
    cases x <;> first | exact ⟨_, rfl⟩ | cases hx
  case struct.declaration s d =>
    obtain rfl := Option.some.inj hlabel
    refine (if_neg Bool.false_ne_true).trans
      (if_congr (hany f.declaredName? fun m hm => ?_) rfl rfl)
    obtain ⟨x, hx, hlists⟩ := hparts m hm
    cases x <;> try cases hlists; done
    rw [declaredName?_of_made? hx, label?, hx]
    rfl

section New

variable {p : NodeId} {n pn : Node}

/-- A new node has no twin among nodes with other spans. -/
theorem twin?_addNode_eq_none (hp : p < f.nextNode) (hold : ∀ m ∈ f.parts p, m < f.nextNode)
    (hspans : ∀ m ∈ f.parts p, ∀ q, f.profile? m = some q → q.span ≠ n.span) :
    (f.addNode n).twin? p n = none := by
  refine List.find?_eq_none.mpr fun m hm htwin => ?_
  rw [mem_children, parts_addNode, if_neg (Nat.ne_of_lt hp)] at hm
  split at htwin
  · next mn hmn =>
    rw [node?_addNode_of_lt _ _ (hold m hm)] at hmn
    rw [Bool.and_eq_true, beq_iff_eq, beq_iff_eq] at htwin
    exact hspans m hm _ (profile?_of_node? _ hmn) htwin.2
  · exact Bool.false_ne_true htwin

/-- The labels that a node objects to are not changed by a new node elsewhere. -/
theorem objection?_addNode_of_lists (hlists : pn.body.lists n.body = true)
    (hlabel : n.body.label? = some label) (hold : ∀ m ∈ pn.body.parts, m < f.nextNode)
    (hparts : ∀ m ∈ pn.body.parts, ∃ x, f.made? m = some x ∧ pn.body.lists x = true) :
    (f.addNode n).objection? pn.body n.body =
      if some label ∈ pn.body.parts.map f.label? then some (pn.body.repeated label) else none := by
  have hmade : ∀ m ∈ pn.body.parts, (f.addNode n).made? m = f.made? m := fun m hm => by
    rw [made?_addNode, if_neg (Nat.ne_of_lt (hold m hm))]
  have hlabels : pn.body.parts.map (f.addNode n).label? = pn.body.parts.map f.label? :=
    List.map_congr_left fun m hm => by rw [label?, label?, hmade m hm]
  rw [objection?_of_lists hlists hlabel, hlabels]
  intro m hm
  obtain ⟨x, hx, hlists'⟩ := hparts m hm
  exact ⟨x, (hmade m hm).trans hx, hlists'⟩

/-- What becomes of a new node that is offered to one that lists others by their labels, and has no
twin there: it is taken in behind the others, unless its label is taken. -/
theorem attach_of_lists (hs : f.made? p = some s)
    (hlists : s.lists n.body = true) (hlabel : n.body.label? = some label)
    (hnew : n.body.parts = []) (hloose : n.parent = none) (hold : ∀ m ∈ f.parts p, m < f.nextNode)
    (hparts : ∀ m ∈ f.parts p, ∃ x, f.made? m = some x ∧ s.lists x = true)
    (hspans : ∀ m ∈ f.parts p, ∀ q, f.profile? m = some q → q.span ≠ n.span) :
    (some label ∈ (f.parts p).map f.label? →
      (f.addNode n).attach p f.nextNode = .error (s.repeated label)) ∧
    (some label ∉ (f.parts p).map f.label? →
      ∃ g, (f.addNode n).attach p f.nextNode = .ok (g, f.nextNode) ∧
        g.parts p = f.parts p ++ [f.nextNode]) := by
  obtain ⟨pn, hpn, rfl⟩ := exists_of_made? hs
  simp only [Body.made_lists] at hlists hparts
  have hp := f.lt_of_node? hpn
  have hpn' : (f.addNode n).node? p = some pn := by rw [node?_addNode_of_lt _ _ hp, hpn]
  have haccepts := Body.accepts_of_lists hlists
  have htwin := twin?_addNode_eq_none hp hold hspans
  have hbody : f.parts p = pn.body.parts := parts_of_node? _ hpn
  have hobjection := objection?_addNode_of_lists hlists hlabel (hbody ▸ hold) (hbody ▸ hparts)
  rw [← hbody] at hobjection
  refine ⟨fun hmem => ?_, fun hmem => ?_⟩
  · rw [if_pos hmem] at hobjection
    unfold Forest.attach
    rw [hpn', node?_addNode_self]
    dsimp only
    rw [show pn.body.accepts n.kind = true from haccepts, htwin, hobjection, Body.made_repeated]
    rfl
  · rw [if_neg hmem] at hobjection
    have hadopts : Adopts (f.addNode n) p f.nextNode pn n :=
      ⟨hpn', f.node?_addNode_self n, haccepts, htwin, hobjection⟩
    have hattach : (f.addNode n).attach p f.nextNode =
        .ok ((f.addNode n).adopt p pn f.nextNode n, f.nextNode) := hadopts.attach none
    have hoffer := f.offer (.refl (f.addNode n)) (f.node?_addNode_self n) hnew hloose hp hold none
    rw [hattach] at hoffer
    refine ⟨_, hattach, ?_⟩
    generalize (f.addNode n).adopt p pn f.nextNode n = g at hoffer
    cases hoffer with
    | twin hm => exact absurd (hold _ hm) (Nat.lt_irrefl _)
    | grafted _ _ _ _ hsprout =>
      exact hsprout.parts_kept p pn.profile rfl (profile?_of_node? _ hpn)
        (Body.sortsParts_of_lists hlists)

end New

end Forest

/-! ## Productions of entries -/

/-- The productions of entries. -/
def Production.isEntry : Production → Bool
  | .metaEntry | .runtimeEntry | .callInput | .decl => true
  | _ => false

namespace Tree

/-- The key of an entry, or the name of a member. -/
def label (t : Tree) : String :=
  t.childText (if t.isA .decl then 1 else 0)

/-- What the node of an entry or a member is made with. -/
def entryBody (source : List Char) (t : Tree) : Body :=
  let text := (t.children[if t.isA .decl then 0 else 1]?).map (·.source source)
  match t.production? with
  | some .decl => .declaration { name := t.label, type := Text.squeeze (text.getD "") }
  | some .metaEntry => .entry { key := t.label, value := text.getD "" }
  | _ => .entry { key := t.label, value := text.getD t.label }

theorem label?_entryBody (source : List Char) (t : Tree) :
    (t.entryBody source).label? = some t.label := by
  unfold entryBody
  dsimp only
  split <;> rfl

end Tree

theorem Tree.made_entryBody (source : List Char) (t : Tree) :
    (t.entryBody source).made = t.entryBody source := by
  unfold entryBody
  dsimp only
  split <;> rfl

namespace Builder

variable {l : Layout} {b b' : Builder} {path : Tree.Path} {t : Tree} {q : Production} {s : Body}

/-- Whether the label of an entry is one of those that the current node has. -/
def Taken (b : Builder) (t : Tree) : Prop :=
  some t.label ∈ (b.forest.parts b.current.node).map b.forest.label?

instance (b : Builder) (t : Tree) : Decidable (b.Taken t) :=
  inferInstanceAs (Decidable (_ ∈ _))

/-- What is recorded of an entry whose label is taken. -/
def refusal (s : Body) (origin : Origin) (t : Tree) (id : NodeId) : DocumentProblem :=
  ⟨s.repeated t.label, some id, some (t.position origin)⟩

/-- An entry has been offered to the current node, which is `s`. -/
structure Offered (b b' : Builder) (t : Tree) (s : Body) : Prop where
  adds : Adds b b' (t.entryBody b.source)
  parts : b'.forest.parts b.current.node =
    if b.Taken t then b.forest.parts b.current.node
    else b.forest.parts b.current.node ++ [b.forest.nextNode]
  problems : b'.problems =
    if b.Taken t then b.problems ++ [refusal s b.origin t b.forest.nextNode] else b.problems

/-- The current node lists entries such as `c`, and has none yet that it does not list. -/
structure Listing (b : Builder) (s c : Body) : Prop where
  made : b.forest.made? b.current.node = some s
  lists : s.lists c = true
  parts : ∀ m ∈ b.forest.parts b.current.node, ∃ x, b.forest.made? m = some x ∧ s.lists x = true

variable {p : Problem}

/-- What becomes of the node of an entry that is attached to the current node. -/
theorem Listing.offered (h : b.Listing s (t.entryBody b.source)) (hsteady : Steady b)
    (hfits : b.forest.Fits l b.current.node t.span)
    (hadds : Adds b b' (t.entryBody b.source))
    (hok : ∀ g id, (b.addNode t (t.entryBody b.source)).forest.attach b.current.node
      b.forest.nextNode none = .ok (g, id) → b'.forest = g ∧ b'.problems = b.problems)
    (herror : ∀ p, (b.addNode t (t.entryBody b.source)).forest.attach b.current.node
      b.forest.nextNode none = .error p →
        b'.forest = (b.addNode t (t.entryBody b.source)).forest ∧ b'.problems =
          ((b.addNode t (t.entryBody b.source)).report p b.forest.nextNode).problems) :
    Offered b b' t s := by
  have hnew : (t.entryBody b.source).parts = [] := by
    unfold Tree.entryBody
    dsimp only
    split <;> rfl
  obtain ⟨htaken, hfree⟩ := b.forest.attach_of_lists (n := b.nodeOf t (t.entryBody b.source))
    h.made h.lists (t.label?_entryBody b.source) hnew rfl
    (fun _ hm => hsteady.lt_of_part hsteady.current.1 hm) h.parts fun _ hm _ hq => hfits.ne hm hq
  refine ⟨hadds, ?_, ?_⟩
  · split
    · next hmem =>
      rw [(herror _ (htaken hmem)).1]
      show (b.forest.addNode (b.nodeOf t _)).parts _ = _
      rw [Forest.parts_addNode, if_neg (Nat.ne_of_lt hsteady.current.2)]
    · next hmem =>
      obtain ⟨g, hattach, hparts⟩ := hfree hmem
      rw [(hok _ _ hattach).1, hparts]
  · split
    · next hmem =>
      rw [(herror _ (htaken hmem)).2]
      have hposition : (b.addNode t (t.entryBody b.source)).forest.position? b.forest.nextNode =
          some (t.position b.origin) := by
        show (b.forest.addNode (b.nodeOf t _)).position? _ = _
        rw [Forest.position?, Forest.node?_addNode_self]
        rfl
      rw [report, hposition]
      rfl
    · next hmem =>
      obtain ⟨g, hattach, -⟩ := hfree hmem
      exact (hok _ _ hattach).2

theorem openSection_offered (h : b.Listing s (t.entryBody b.source)) (hsteady : Steady b)
    (hfits : b.forest.Fits l b.current.node t.span) (path : Tree.Path) :
    Offered b ((b.addNode t (t.entryBody b.source)).openSection path b.forest.nextNode) t s := by
  refine h.offered hsteady hfits ((b.addNode_adds t _).inherits (openSection_inherits ..))
    (fun g id hg => ?_) fun p hp => ?_
  all_goals
    unfold openSection
    dsimp only
    rw [Option.map_none, ite_self]
  · rw [show (b.addNode t _).forest.attach (b.addNode t _).current.node _ none = _ from hg]
    exact ⟨rfl, rfl⟩
  · rw [show (b.addNode t _).forest.attach (b.addNode t _).current.node _ none = _ from hp]
    exact ⟨rfl, rfl⟩

theorem attachLeaf_offered (h : b.Listing s (t.entryBody b.source)) (hsteady : Steady b)
    (hfits : b.forest.Fits l b.current.node t.span) :
    Offered b ((b.addNode t (t.entryBody b.source)).attachLeaf b.forest.nextNode none) t s := by
  refine h.offered hsteady hfits ((b.addNode_adds t _).inherits (attachLeaf_inherits ..))
    (fun g id hg => ?_) fun p hp => ?_
  all_goals unfold attachLeaf
  · rw [show (b.addNode t _).forest.attach (b.addNode t _).current.node _ none = _ from hg]
    exact ⟨rfl, rfl⟩
  · rw [show (b.addNode t _).forest.attach (b.addNode t _).current.node _ none = _ from hp]
    exact ⟨rfl, rfl⟩

theorem Offered.withReports {b₁ : Builder} (h : Offered b b₁ t s) (errors : List SyntaxError) :
    Offered b (b₁.withReports errors b₁.problems) t s :=
  ⟨h.adds.inherits (.of_forest rfl rfl), h.parts, h.problems⟩

/-- What the beginning of an entry does. -/
theorem enter_offered {e : Option Extent} {cs : List Tree} (hq : q.isEntry = true)
    (h : b.Listing s ((Tree.node q e cs).entryBody b.source)) (hsteady : Steady b)
    (hfits : b.forest.Fits l b.current.node (Tree.node q e cs).span) (path : Tree.Path) :
    Offered b (b.enter path (.node q e cs)) (.node q e cs) s := by
  cases q <;> first | cases hq; done | skip
  case metaEntry => exact attachLeaf_offered h hsteady hfits
  case runtimeEntry => exact openSection_offered h hsteady hfits path
  case callInput => exact openSection_offered h hsteady hfits path
  case decl =>
    have hstruct : ((b.forest.body? b.current.node).map Body.isStruct).getD false = true := by
      obtain ⟨n, hn, hmade⟩ := Forest.exists_of_made? h.made
      rw [Forest.body?, hn, Option.map_some, Option.map_some, Option.getD_some]
      have hlists := h.lists
      rw [← hmade, Body.made_lists] at hlists
      cases hbody : n.body <;> rw [hbody] at hlists <;> first | rfl | cases hlists
    have hoffered := openSection_offered h hsteady hfits path
    show Offered b (b.openDeclaration path (.node .decl e cs)) _ _
    unfold openDeclaration
    dsimp only
    rw [hstruct, if_pos rfl]
    split
    · next token _ =>
      obtain ⟨errors, hchecked⟩ := checkKeyword_eq ((b.addNode (.node .decl e cs) _).openSection
        path b.forest.nextNode none) token ((Tree.node .decl e cs).childText 1)
      rw [hchecked]
      exact hoffered.withReports _
    · exact hoffered

/-! ## Gathering -/

/-- Whether a problem is about the node of one of some entries. -/
def isAbout (es : List Visit) (p : DocumentProblem) : Bool :=
  p.node.any (es.map Visit.node).contains

theorem isAbout_iff {es : List Visit} {p : DocumentProblem} :
    isAbout es p = true ↔ ∃ w ∈ es, p.node = some w.node := by
  rw [isAbout, Option.any_eq_true]
  simp only [List.contains_iff_mem, List.mem_map]
  exact ⟨fun ⟨id, hid, w, hw, heq⟩ => ⟨w, hw, heq ▸ hid⟩,
    fun ⟨w, hw, hid⟩ => ⟨w.node, hid, w, hw, rfl⟩⟩

/-- The label of an entry. -/
def Visit.label (w : Visit) : String := w.tree.label

variable {n : NodeId} {source : List Char} {origin : Origin} {es : List Visit}

/-- The node `n`, which is `s`, has gathered some entries: it has those at the first occurrences of
their labels, and the others have been reported. -/
structure Gathers (n : NodeId) (s : Body) (source : List Char) (origin : Origin) (es : List Visit)
    (b : Builder) : Prop where
  lt : n < b.forest.nextNode
  made : b.forest.made? n = some s
  fixed : b.source = source ∧ b.origin = origin
  parts : b.forest.parts n = (firsts Visit.label es).map Visit.node
  entries : ∀ w ∈ es, w.node < b.forest.nextNode ∧
    b.forest.made? w.node = some (w.tree.entryBody source)
  lists : ∀ w ∈ es, s.lists (w.tree.entryBody source) = true
  problems : b.problems.filter (isAbout es) =
    (repeats Visit.label es).map fun w => refusal s origin w.tree w.node
  about : ∀ p ∈ b.problems, ∀ id, p.node = some id → id < b.forest.nextNode

namespace Gathers

/-- Other nodes may be added. -/
theorem augments (h : Gathers n s source origin es b) (ha : Augments b b') (hf : Fixed b b')
    (hparts : b'.forest.parts n = b.forest.parts n) : Gathers n s source origin es b' where
  lt := Nat.lt_of_lt_of_le h.lt ha.le
  made := (ha.made? n h.lt).trans h.made
  fixed := ⟨hf.source.trans h.fixed.1, hf.origin.trans h.fixed.2⟩
  parts := hparts.trans h.parts
  entries w hw := ⟨Nat.lt_of_lt_of_le (h.entries w hw).1 ha.le,
    (ha.made? _ (h.entries w hw).1).trans (h.entries w hw).2⟩
  lists := h.lists
  problems := by
    rw [ha.filter_problems fun p hp => ?_, h.problems]
    obtain ⟨w, hw, hnode⟩ := isAbout_iff.mp hp
    exact ⟨w.node, (h.entries w hw).1, hnode⟩
  about := ha.node_lt h.about

/-- The labels that the node has are those of the entries. -/
theorem taken_iff (h : Gathers n s source origin es b) (hcurrent : b.current.node = n) (t : Tree) :
    b.Taken t ↔ t.label ∈ es.map Visit.label := by
  have hlabels : (b.forest.parts n).map b.forest.label? =
      ((firsts Visit.label es).map Visit.label).map some := by
    rw [h.parts, List.map_map, List.map_map]
    refine List.map_congr_left fun w hw => ?_
    show b.forest.label? w.node = _
    rw [Forest.label?, (h.entries w (mem_of_mem_firsts hw)).2]
    exact w.tree.label?_entryBody source
  have hfirsts : t.label ∈ (firsts Visit.label es).map Visit.label ↔ t.label ∈ es.map Visit.label :=
    mem_map_firsts
  rw [Taken, hcurrent, hlabels, ← hfirsts, List.mem_map]
  simp only [Option.some.injEq, exists_eq_right]

/-- No problem is about an entry that has not begun. -/
theorem filter_concat (h : Gathers n s source origin es b) (path : Tree.Path) (t : Tree) :
    b.problems.filter (isAbout (es ++ [⟨path, t, b⟩])) = b.problems.filter (isAbout es) := by
  refine List.filter_congr fun p hp => ?_
  rw [Bool.eq_iff_iff, isAbout_iff, isAbout_iff]
  refine ⟨fun ⟨w, hw, hid⟩ => ?_, fun ⟨w, hw, hid⟩ => ⟨w, List.mem_append_left _ hw, hid⟩⟩
  rcases List.mem_append.mp hw with hw | hw
  · exact ⟨w, hw, hid⟩
  · obtain rfl := List.mem_singleton.mp hw
    exact absurd (h.about p hp _ hid) (Nat.lt_irrefl _)

/-- An entry that the node takes in or refuses. -/
theorem concat (h : Gathers n s source origin es b) (hcurrent : b.current.node = n)
    (hlists : s.lists (t.entryBody source) = true) (ho : Offered b b' t s) (ha : Augments b b')
    (hf : Fixed b b') (path : Tree.Path) :
    Gathers n s source origin (es ++ [⟨path, t, b⟩]) b' := by
  obtain ⟨hsource, horigin⟩ := h.fixed
  have htaken_iff : b.Taken t ↔ Visit.label ⟨path, t, b⟩ ∈ es.map Visit.label :=
    h.taken_iff hcurrent t
  have hnode : ∀ w ∈ es, w.node < b.forest.nextNode := fun w hw => (h.entries w hw).1
  have habout : isAbout (es ++ [⟨path, t, b⟩])
      (refusal s b.origin t b.forest.nextNode) = true :=
    isAbout_iff.mpr ⟨_, List.mem_append_right _ (List.mem_singleton.mpr rfl), rfl⟩
  refine ⟨Nat.lt_of_lt_of_le h.lt ha.le, (ha.made? n h.lt).trans h.made,
    ⟨hf.source.trans hsource, hf.origin.trans horigin⟩, ?_, ?_, ?_, ?_, ha.node_lt h.about⟩
  · have hparts := ho.parts
    rw [hcurrent, h.parts] at hparts
    rw [hparts, firsts_concat]
    by_cases htaken : b.Taken t
    · rw [if_pos htaken, if_pos (htaken_iff.mp htaken)]
    · rw [if_neg htaken, if_neg fun hmem => htaken (htaken_iff.mpr hmem),
        List.map_append]
      rfl
  · refine List.forall_mem_append.mpr ⟨fun w hw => ?_, List.forall_mem_singleton.mpr ⟨?_, ?_⟩⟩
    · exact ⟨Nat.lt_of_lt_of_le (hnode w hw) ha.le,
        (ha.made? _ (hnode w hw)).trans (h.entries w hw).2⟩
    · show b.forest.nextNode < _
      rw [ho.adds.nextNode]
      exact Nat.lt_succ_self _
    · show b'.forest.made? b.forest.nextNode = _
      rw [ho.adds.made?, if_pos rfl, ← hsource, Tree.made_entryBody]
  · exact List.forall_mem_append.mpr ⟨h.lists, List.forall_mem_singleton.mpr hlists⟩
  · rw [ho.problems, repeats_concat]
    by_cases htaken : b.Taken t
    · rw [if_pos htaken, if_pos (htaken_iff.mp htaken), List.filter_append,
        List.filter_cons_of_pos habout, h.filter_concat, h.problems, List.map_append, horigin]
      rfl
    · rw [if_neg htaken, if_neg fun hmem => htaken (htaken_iff.mpr hmem),
        h.filter_concat, h.problems]

end Gathers

/-! ## Walking over entries -/

/-- The entries of a production that a walk comes to in a tree. -/
def entriesOf (q : Production) (path : Tree.Path) (t : Tree) (b : Builder) : List Visit :=
  (visits path t b).filter (·.tree.isA q)

/-- The entries of a production that a walk comes to in some trees. -/
def entriesOfList (q : Production) (path : Tree.Path) (i : Nat) (cs : List Tree) (b : Builder) :
    List Visit :=
  (visitsList path i cs b).filter (·.tree.isA q)

/-- The innermost open section is that of the node `n`. -/
def AtNode (n : NodeId) (b : Builder) : Prop :=
  b.sections.head?.map Context.node = some n

theorem AtNode.current (h : AtNode n b) : b.current.node = n := by
  unfold AtNode at h
  unfold Builder.current
  cases hsections : b.sections with
  | nil =>
    rw [hsections] at h
    cases h
  | cons c outer =>
    rw [hsections] at h
    exact Option.some.inj h

theorem AtNode.of_sections (h : AtNode n b) (hsections : b'.sections = b.sections) :
    AtNode n b' := by
  rwa [AtNode, hsections]

/-- Where a walk is ready, it gathers the entries in a tree. -/
def Gathering (l : Layout) (n : NodeId) (s : Body) (source : List Char) (origin : Origin)
    (q : Production) (t : Tree) : Prop :=
  ∀ (path : Tree.Path) (b : Builder) (es : List Visit), Ready l b t → AtNode n b →
    Gathers n s source origin es b →
      Gathers n s source origin (es ++ entriesOf q path t b) (walk path t b)

theorem gathers_walkList {cs : List Tree} (path : Tree.Path) (i : Nat)
    (hcs : ∀ c ∈ cs, Gathering l n s source origin q c) (h : ReadyList l b cs) (hat : AtNode n b)
    (hg : Gathers n s source origin es b) :
    Gathers n s source origin (es ++ entriesOfList q path i cs b) (walkList path i cs b) := by
  induction cs generalizing b es i with
  | nil => rwa [show es ++ entriesOfList q path i [] b = es from List.append_nil es]
  | cons c cs ih =>
    obtain ⟨hc, hcs⟩ := List.forall_mem_cons.mp hcs
    have hrest := ih (i + 1) hcs (h.tail (i :: path))
      (hat.of_sections (h.head.grown (i :: path)).sections) (hc (i :: path) b es h.head hat hg)
    rwa [List.append_assoc, show entriesOf q (i :: path) c b ++ entriesOfList q path (i + 1) cs
      (walk (i :: path) c b) = entriesOfList q path i (c :: cs) b from
        (List.filter_append _ _).symm] at hrest

theorem entriesOfList_eq_nil {cs : List Tree} (path : Tree.Path) (i : Nat)
    (hcs : ∀ c ∈ cs, ∀ (path : Tree.Path) (b : Builder), entriesOf q path c b = []) (b : Builder) :
    entriesOfList q path i cs b = [] := by
  induction cs generalizing b i with
  | nil => rfl
  | cons c cs ih =>
    obtain ⟨hc, hcs⟩ := List.forall_mem_cons.mp hcs
    exact (List.filter_append _ _).trans
      (List.append_eq_nil_iff.mpr ⟨hc (i :: path) b, ih (i + 1) hcs _⟩)

/-- No node is added or attached, and no problem is recorded. -/
structure Idles (b b' : Builder) : Prop where
  alike : b.forest.Alike b'.forest
  problems : b'.problems = b.problems

theorem idles_walkList {cs : List Tree} (path : Tree.Path) (i : Nat)
    (hcs : ∀ c ∈ cs, ∀ (path : Tree.Path) (b : Builder), Idles b (walk path c b)) (b : Builder) :
    Idles b (walkList path i cs b) := by
  induction cs generalizing b i with
  | nil => exact ⟨.refl _, rfl⟩
  | cons c cs ih =>
    obtain ⟨hc, hcs⟩ := List.forall_mem_cons.mp hcs
    have hfirst := hc (i :: path) b
    have hrest := ih (i + 1) hcs (walk (i :: path) c b)
    exact ⟨hfirst.alike.trans hrest.alike, hrest.problems.trans hfirst.problems⟩

/-- An idle production builds nothing. -/
theorem quiet_of_isIdle {p : Production} (h : p.isIdle = true) :
    p.sectionKind? = none ∧ p.isLeaf = false ∧ p.isExpression = false ∧ p.isEntry = false := by
  cases p <;> first | exact ⟨rfl, rfl, rfl, rfl⟩ | cases h

theorem idles_of_inactive (h : Inactive t) (path : Tree.Path) (b : Builder) :
    Idles b (walk path t b) := by
  induction h generalizing path b with
  | token k => exact ⟨(b.visitToken_quiet k).alike, b.visitToken_problems k⟩
  | @node p e cs hp _ ih =>
    obtain ⟨hsection, hleaf, hexpr, -⟩ := quiet_of_isIdle hp
    have hexit : ∀ b : Builder, b.exit path (.node p e cs) = b := by
      intro b
      cases p <;> first | rfl | cases hp
    have hcs := idles_walkList path 0 ih (b.enter path (.node p e cs))
    rw [walk, hexit]
    exact ⟨(enter_quiet b hsection hleaf hexpr path e cs).alike.trans hcs.alike,
      hcs.problems.trans (enter_problems b hsection hleaf hexpr path e cs)⟩

theorem isA_node {p q : Production} {e : Option Extent} {cs : List Tree} :
    (Tree.node p e cs).isA q = true ↔ p = q := by
  rw [Tree.isA, Tree.production?, beq_iff_eq, Option.some.injEq]

theorem entriesOf_node_of_ne {p : Production} {e : Option Extent} {cs : List Tree} (h : p ≠ q)
    (path : Tree.Path) (b : Builder) : entriesOf q path (.node p e cs) b =
      entriesOfList q path 0 cs (b.enter path (.node p e cs)) :=
  List.filter_cons_of_neg fun hA => h (isA_node.mp hA)

/-- No entry is inside of an expression. -/
theorem entriesOf_inert (hq : q.isEntry = true) (h : Inert t) (path : Tree.Path) (b : Builder) :
    entriesOf q path t b = [] := by
  induction h generalizing path b with
  | token k => rfl
  | @node p e cs hsection hleaf _ ih =>
    have hne : p ≠ q := by
      rintro rfl
      cases p <;> first | cases hq; done | cases hsection; done | cases hleaf
    rw [entriesOf_node_of_ne hne]
    exact entriesOfList_eq_nil path 0 ih _

/-- Where a walk is ready for an entry no expression is open, and the entry fits. -/
theorem Ready.entry_fits {e : Option Extent} {cs : List Tree} (h : Ready l b (.node q e cs))
    (hq : q.isEntry = true) : b.frames.map Frame.place = [] ∧
      b.forest.Fits l b.current.node (Tree.node q e cs).span := by
  have hplaces : b.frames.map Frame.place = [] := by
    cases h.suited.standing with
    | inSection _ hplaces | leaf _ hplaces => exact hplaces
    | quiet hsection hleaf | expression hexpr =>
      cases q <;> first | cases hq; done | cases hsection; done | cases hleaf | cases hexpr
  obtain ⟨kind, hspot⟩ : ∃ kind, (Tree.node q e cs).spot? =
      some (kind, (Tree.node q e cs).span) := by
    cases q <;> first | exact ⟨_, rfl⟩ | cases hq
  exact ⟨hplaces, host_of_frames_nil hplaces ▸ h.self_fits hspot⟩

/-- Where a walk is ready for an entry it is offered to the current node. -/
theorem Ready.offered {e : Option Extent} {cs : List Tree} (h : Ready l b (.node q e cs))
    (hq : q.isEntry = true) (hg : Gathers n s source origin es b) (hcurrent : b.current.node = n)
    (hlists : s.lists ((Tree.node q e cs).entryBody source) = true) (path : Tree.Path) :
    Offered b (b.enter path (.node q e cs)) (.node q e cs) s := by
  obtain ⟨hsource, -⟩ := hg.fixed
  refine enter_offered hq ⟨?_, ?_, ?_⟩ h.orderly.steady (h.entry_fits hq).2 path
  · rw [hcurrent, hg.made]
  · rw [hsource, hlists]
  · rw [hcurrent, hg.parts]
    refine List.forall_mem_map.mpr fun w hw => ?_
    have hmem := mem_of_mem_firsts hw
    exact ⟨_, (hg.entries w hmem).2, hg.lists w hmem⟩

/-- What is in an entry is attached to the entry. -/
theorem Ready.entry_parts {e : Option Extent} {cs : List Tree} (h : Ready l b (.node q e cs))
    (hq : q.isEntry = true) (hidle : q.isLeaf = true → ∀ c ∈ cs, Inactive c)
    (hlt : n < b.forest.nextNode) (path : Tree.Path) :
    (walkList path 0 cs (b.enter path (.node q e cs))).forest.parts n =
      (b.enter path (.node q e cs)).forest.parts n := by
  have hready := h.begins path
  cases hleaf : q.isLeaf with
  | true =>
    have hidles := idles_walkList path 0 (fun c hc => idles_of_inactive (hidle hleaf c hc))
      (b.enter path (.node q e cs))
    exact hidles.alike.parts n
  | false =>
    obtain ⟨kind, hsection⟩ : ∃ kind, q.sectionKind? = some kind := by
      cases q <;> first | exact ⟨_, rfl⟩ | cases hq; done | cases hleaf
    obtain ⟨hplaces, hfits⟩ := h.entry_fits hq
    obtain ⟨-, hframes, c, hsections, -, hnode⟩ := enter_section_entered hsection path e cs
      h.orderly hfits (by rintro rfl; cases hq)
    refine (hready.1.grown path 0).parts n (Nat.lt_of_lt_of_le hlt hready.2) ?_
    rw [host_of_frames_nil (by rw [hframes, hplaces]), current_of_sections hsections, hnode]
    exact Nat.ne_of_lt hlt

/-- There is no entry inside of an entry. -/
theorem entriesOf_entry {e : Option Extent} {cs : List Tree} (hq : q.isEntry = true)
    (hcs : ∀ c ∈ cs, Inert c) (path : Tree.Path) (b : Builder) :
    entriesOf q path (.node q e cs) b = [⟨path, .node q e cs, b⟩] := by
  have hinner := entriesOfList_eq_nil path 0 (fun c hc => entriesOf_inert hq (hcs c hc))
    (b.enter path (.node q e cs))
  rw [entriesOf, visits, List.filter_cons, if_pos (isA_node.mpr rfl)]
  exact congrArg (List.cons _) hinner

/-- What a walk gathers in an entry is the entry. -/
theorem gathering_entry {e : Option Extent} {cs : List Tree} (hq : q.isEntry = true)
    (hlists : s.lists ((Tree.node q e cs).entryBody source) = true)
    (hcs : ∀ c ∈ cs, Inert c) (hidle : q.isLeaf = true → ∀ c ∈ cs, Inactive c) :
    Gathering l n s source origin q (.node q e cs) := by
  intro path b es h hat hg
  have hcurrent := hat.current
  have hbegun := hg.concat hcurrent hlists (h.offered hq hg hcurrent hlists path)
    (h.enter_augments path) (enter_fixed b path _) path
  have hdone := hbegun.augments ((h.begins path).1.augments path 0) (walkList_fixed path 0 cs _)
    (h.entry_parts hq hidle hg.lt path)
  rw [entriesOf_entry hq hcs]
  exact hdone.augments (exit_augments _ path _) (exit_fixed _ path _)
    ((exit_alike _ path _).parts n)

theorem gathering_of_lists (hq : q.isEntry = true)
    (hlists : ∀ t : Tree, t.isA q = true → s.lists (t.entryBody source) = true)
    (ht : Lists q t) : Gathering l n s source origin q t := by
  induction ht with
  | token k =>
    intro path b es h _ hg
    rw [show es ++ entriesOf q path (.token k) b = es from List.append_nil es]
    exact hg.augments (b.visitToken_augments k) (visitToken_fixed b k)
      ((b.visitToken_quiet k).alike.parts n)
  | @idle p e cs hp hcs ih =>
    intro path b es h hat hg
    obtain ⟨hsection, hleaf, hexpr, hentry⟩ := quiet_of_isIdle hp
    have henter := enter_quiet b hsection hleaf hexpr path e cs
    have hbegun := hg.augments (h.enter_augments path) (enter_fixed b path _) (henter.alike.parts n)
    have hdone := gathers_walkList path 0 ih (h.begins path).1 (hat.of_sections henter.sections)
      hbegun
    have hne : p ≠ q := by
      rintro rfl
      rw [hentry] at hq
      cases hq
    rw [entriesOf_node_of_ne hne]
    exact hdone.augments (exit_augments _ path _) (exit_fixed _ path _)
      ((exit_alike _ path _).parts n)
  | @entry e cs hcs hidle =>
    exact gathering_entry hq (hlists _ (isA_node.mpr rfl)) hcs hidle

end Builder
end Wdl
