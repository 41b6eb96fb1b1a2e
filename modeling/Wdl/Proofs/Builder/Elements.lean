import Wdl.Proofs.Builder.Correspondence
import Wdl.Proofs.Builder.Types
import Wdl.Proofs.Grammar.Productions

/-!
The elements of tasks and workflows.

A task or workflow is made with the texts of its elements, which are all that stands directly below
its production, before any of them is attached to it; later it lists what has been attached to it,
by place.  In a document without errors these are the same elements in the same order, and each text
is what its element covers: `ofText_elements`.
-/

namespace Wdl

/-! ## The texts of spans -/

/-- The text that a span covers. -/
def Span.cut (s : Span) (text : List Char) : String :=
  String.ofList (slice text s.start.toNat (s.stop + 1).toNat)

example : Span.cut ⟨1, 2⟩ "abcd".toList = "bc" := by decide +kernel

/-- A line feed that is put at the end of a text is not covered by what lies within it. -/
theorem Span.cut_lexed {s : Span} {cs : List Char} (h : s.stop < cs.length) :
    s.cut (lexed cs) = s.cut cs := by
  unfold lexed
  split
  · rfl
  · rw [cut, slice_of_append (by omega), ← cut]

theorem Tree.source_eq_cut (p : Production) (x : Extent) (cs : List Tree) (text : List Char) :
    (Tree.node p (some x) cs).source text = (Tree.node p (some x) cs).span.cut text := by
  show String.ofList (slice text x.start.offset x.stop.offset) =
    String.ofList (slice text (x.start.offset : Int).toNat ((x.stop.offset : Int) - 1 + 1).toNat)
  rw [Int.sub_add_cancel, Int.toNat_natCast, Int.toNat_natCast]

/-- Whether a tree is that of a task or workflow. -/
def Tree.isExecutable (t : Tree) : Bool :=
  t.production?.any Production.isExecutable

/-- In the tree of a text without errors all that stands directly below a task or workflow builds
nodes, and is made from the text that it covers. -/
theorem elements_of_parse {origin : Origin} {limit : Int} {cs : List Char} {t : Tree}
    (h : Parse.parse Language.documents origin limit (lexed cs) = ([], some t))
    {y : Tree.Path × Tree} (hy : y ∈ t.preorder) (hexecutable : y.2.isExecutable = true) :
    ∀ c ∈ y.2.nodes, c.spot?.isSome = true ∧ c.source (lexed cs) = c.span.cut cs := by
  obtain ⟨e, ks, hderives, -, htrees, -⟩ := derives_of_parse h
  have hderived : Grammar.Derived t := ⟨e, ks, false, hderives, by rw [htrees]; exact
    List.mem_cons_self⟩
  intro c hc
  have hspot : c.spot?.isSome = true := by
    have hy' := hderived.of_mem hy
    obtain ⟨path, tree⟩ := y
    cases tree with
    | token k => cases hexecutable
    | node p x ds => exact hy'.spots_of_executable hexecutable c hc
  rw [Tree.nodes, ← Tree.map_snd_nodesAt y.1 0] at hc
  obtain ⟨z, hz, rfl⟩ := List.mem_map.mp hc
  have hmem := (Tree.nodesAt_sublist_preorderAt hy).subset hz
  refine ⟨hspot, ?_⟩
  obtain ⟨s, hs⟩ := Option.isSome_iff_exists.mp hspot
  have hwithin := (spots_of_parse h s (Tree.mem_spots_of_preorder hmem hs)).2.2
  have hz' := hderived.of_mem hmem
  obtain ⟨path, tree⟩ := z
  cases tree with
  | token k => cases hspot
  | node p x ds =>
    obtain ⟨x, rfl⟩ := hz'.exists_extent hspot
    rw [Tree.source_eq_cut, Span.cut_lexed (by rwa [Tree.span_of_spot? hs])]

/-! ## What tasks and workflows are made with -/

/-- What a body has in common with other tasks and workflows, if it is one. -/
def Body.executable? : Body → Option Executable
  | .task x _ => some x
  | .workflow x _ => some x
  | _ => none

theorem Body.executable?_made (b : Body) : b.made.executable? = b.executable?.map .made := by
  cases b <;> rfl

/-- A task or workflow, without what is particular to either. -/
def Forest.executable? (f : Forest) (id : NodeId) : Option Executable :=
  (f.body? id).bind Body.executable?

theorem Body.kind_of_executable? {b : Body} {x : Executable} (h : b.executable? = some x) :
    b.kind = .task ∨ b.kind = .workflow := by
  cases b <;> first | exact .inl rfl | exact .inr rfl | cases h

theorem Production.isExecutable_of_nodeKind? {p : Production} {k : Kind}
    (h : p.nodeKind? = some k) (hk : k = .task ∨ k = .workflow) : p.isExecutable = true := by
  rcases hk with rfl | rfl <;> cases p <;> first | rfl | cases h

namespace Forest

variable {f : Forest} {id : NodeId}

theorem span_of_spot? {s : Spot} (h : f.spot? id = some s) : f.span id = s.2 := by
  obtain ⟨n, hn, rfl⟩ := Option.map_eq_some_iff.mp h
  rw [span, hn, Option.map_some, Option.getD_some]

theorem lt_of_executable? {x : Executable} (h : f.executable? id = some x) : id < f.nextNode := by
  obtain ⟨body, hbody, -⟩ := Option.bind_eq_some_iff.mp h
  exact lt_of_kind? (kind?_of_body? hbody)

end Forest

namespace Builder

variable {l : Layout} {b : Builder} {t : Tree}

/-- A task or workflow is made with the texts of what stands directly below its production. -/
theorem enter_executable_adds {p : Production} (hp : p.isExecutable = true) (e : Option Extent)
    (cs : List Tree) (path : Tree.Path) (b : Builder) :
    ∃ body x, Adds b (b.enter path (.node p e cs)) body ∧ body.executable? = some x ∧
      x.rawElements = (Tree.node p e cs).nodes.map (·.source b.source) := by
  let name := (Tree.node p e cs).childText 0
  let x : Executable :=
    { name
      scope := b.forest.nextScope
      rawElements := (Tree.node p e cs).nodes.map (·.source b.source) }
  cases p <;> first | cases hp; done | skip
  case workflow =>
    have hadds : Adds b (b.openChecked path (.node .workflow e cs) (.workflow x {}) (some name)
      (.node .workflow e cs) name) _ := openChecked_adds
    exact ⟨_, x, hadds, rfl, rfl⟩
  case task =>
    have hadds : Adds b (b.openChecked path (.node .task e cs) (.task x {}) (some name)
      (.node .task e cs) name) _ := openChecked_adds
    exact ⟨_, x, hadds, rfl, rfl⟩

/-- A task or workflow is the node of a production of these, and keeps the texts of what stands
directly below it. -/
theorem Ready.exists_executable (h : Ready l b t) (path : Tree.Path) {id : NodeId} {x : Executable}
    (hle : b.forest.nextNode ≤ id) (hx : (walk path t b).forest.executable? id = some x) :
    ∃ y ∈ t.preorderAt path, (y.1, id) ∈ reps path t b ∧ y.2.isExecutable = true ∧
      x.rawElements = y.2.nodes.map (·.source b.source) := by
  obtain ⟨body, hbody, hexecutable⟩ := Option.bind_eq_some_iff.mp hx
  obtain ⟨v, hv, hnode, hrep, -, p, e, cs, htree, hkind⟩ := h.exists_production path hle hbody
  have hp := Production.isExecutable_of_nodeKind? hkind (Body.kind_of_executable? hexecutable)
  have hsource := (fixed_of_visit hv).source
  have hmem := mem_preorder_of_visit hv
  obtain ⟨path', tree, before⟩ := v
  obtain rfl : tree = .node p e cs := htree
  obtain ⟨body', x', hadds, hx', hraw⟩ := enter_executable_adds hp e cs path' before
  have hmade := made_of_visit h hv hadds
  rw [hnode, Forest.made?_of_body? hbody] at hmade
  have hsame := congrArg Body.executable? (Option.some.inj hmade)
  rw [Body.executable?_made, Body.executable?_made, hexecutable, hx', Option.map_some,
    Option.map_some, Option.some.injEq] at hsame
  have hkept : x.made.rawElements = x'.made.rawElements := congrArg Executable.rawElements hsame
  exact ⟨_, hmem, hrep, hp, hsource ▸ hkept.trans hraw⟩

theorem Orderly.ne_executable (h : Orderly l b) {id : NodeId} {x : Executable}
    (hx : b.forest.executable? id = some x) : id ≠ b.document := by
  rintro rfl
  obtain ⟨body, hbody, hexecutable⟩ := Option.bind_eq_some_iff.mp hx
  have hkind := (Forest.kind?_of_body? hbody).symm.trans h.steady.kind?_document
  rcases Body.kind_of_executable? hexecutable with hk | hk <;>
    exact nomatch hk.symm.trans (Option.some.inj hkind)

/-- A text without errors gives a document alone, or one that mirrors its tree. -/
theorem ofText_mirrors (f : Forest) (text uri abspath : String) (limit : Int)
    (herrors : (ofText f text uri abspath limit).syntaxErrors = [])
    (hproblems : (ofText f text uri abspath limit).problems = []) :
    ∃ b, Orderly .ordered b ∧ b.document = f.nextNode ∧ b.forest.nextNode = f.nextNode + 1 ∧
      b.source = lexed text.toList ∧
      ((ofText f text uri abspath limit).forest = b.forest ∨
        ∃ t, Parse.parse Language.documents (.ofNames uri abspath) limit (lexed text.toList) =
            ([], some t) ∧ Ready .ordered b t ∧
          (ofText f text uri abspath limit).forest = (walk [] t b).forest ∧
          Mirrors t f.nextNode (walk [] t b).forest (reps [] t b)) := by
  obtain ⟨b, horderly, hdocument, hnext, hhost, hsource, heq | ⟨t, hparse, hready, heq⟩⟩ :=
    ofText_walked f text uri abspath limit herrors
  · exact ⟨b, horderly, hdocument, hnext, hsource, .inl (by rw [heq, finish_forest])⟩
  · refine ⟨b, horderly, hdocument, hnext, hsource, .inr ⟨t, hparse, hready, ?_, ?_⟩⟩
    · rw [heq, finish_forest]
    · rw [heq] at herrors hproblems
      have hreports := walk_reports [] t b
      have hsilent : Silent b (walk [] t b) := by
        rw [Silent, finish_clean herrors, finish_silent hproblems]
        refine ⟨(List.prefix_nil.mp ?_).symm, (List.prefix_nil.mp ?_).symm⟩
        · exact finish_silent hproblems ▸ hreports.problems
        · exact finish_clean herrors ▸ hreports.errors
      have hgrown := hready.grown []
      rw [faults_eq_nil horderly.rooted hsilent] at hgrown
      exact hdocument ▸ hgrown.mirrors (hdocument ▸ hnext) hhost

/-- In the tree of a text without errors the elements of tasks and workflows build nodes and are
made from the text that they cover; and if its document has no errors either, the texts that each of
its tasks and workflows has for its elements are those that its children cover, in order. -/
theorem ofText_elements (f : Forest) (text uri abspath : String) (limit : Int) :
    (∀ t, Parse.parse Language.documents (.ofNames uri abspath) limit (lexed text.toList) =
        ([], some t) →
      ∀ y ∈ t.preorder, y.2.isExecutable = true → ∀ c ∈ y.2.nodes,
        c.spot?.isSome = true ∧ c.source (lexed text.toList) = c.span.cut text.toList) ∧
    ((ofText f text uri abspath limit).syntaxErrors = [] →
      (ofText f text uri abspath limit).problems = [] →
      ∀ id x, f.nextNode ≤ id →
        (ofText f text uri abspath limit).forest.executable? id = some x →
        x.rawElements = ((ofText f text uri abspath limit).forest.children id).map fun c =>
          ((ofText f text uri abspath limit).forest.span c).cut text.toList) := by
  refine ⟨fun t hparse y hy hexecutable => elements_of_parse hparse hy hexecutable,
    fun herrors hproblems id x hid hx => ?_⟩
  obtain ⟨b, horderly, hdocument, hnext, hsource, hforest | ⟨t, hparse, hready, hforest, hm⟩⟩ :=
    ofText_mirrors f text uri abspath limit herrors hproblems
  · rw [hforest] at hx
    have hlt := Forest.lt_of_executable? hx
    rw [hnext, Nat.lt_succ_iff] at hlt
    exact absurd (Nat.le_antisymm hlt hid) (hdocument ▸ horderly.ne_executable hx)
  · rw [hforest] at hx ⊢
    have hgrown := hready.grown []
    have hwalked : (walk [] t b).document = f.nextNode := hgrown.document.trans hdocument
    have hne := hwalked ▸ hgrown.orderly.ne_executable hx
    obtain ⟨y, hy, hrep, hexecutable, hraw⟩ := hready.exists_executable []
      (hnext ▸ Nat.lt_of_le_of_ne hid hne.symm) hx
    have helements := elements_of_parse hparse hy hexecutable
    have hspots := hm.spots_children (hwalked ▸ hgrown.orderly.placed)
      (hwalked ▸ hgrown.orderly.steady.linked) hy hrep fun c hc => (helements c hc).1
    rw [hraw, hsource]
    refine (map_eq_map_of_keys hspots fun c _ n hn hspot => ?_).symm
    obtain ⟨hsome, hcut⟩ := helements n hn
    obtain ⟨s, hs⟩ := Option.isSome_iff_exists.mp hsome
    rw [hcut, Tree.span_of_spot? hs, Forest.span_of_spot? (hspot.trans hs)]

/-- The input and the command of the task are its elements, with their texts. -/
theorem ofText_elements_echo :
    ((ofText {} echoText "" "" 64).syntaxErrors = [] ∧
      (ofText {} echoText "" "" 64).problems = []) ∧
      ∃ x, (ofText {} echoText "" "" 64).forest.executable? 1 = some x ∧ x.rawElements.length = 2 ∧
        x.rawElements = ((ofText {} echoText "" "" 64).forest.children 1).map fun c =>
          ((ofText {} echoText "" "" 64).forest.span c).cut echoText.toList := by
  have hecho := ofText_echoText 64
  obtain ⟨x, c, hbody, hlength, -⟩ := hecho.task
  have hx : (ofText {} echoText "" "" 64).forest.executable? 1 = some x := by
    rw [Forest.executable?, hbody]
    rfl
  exact ⟨⟨hecho.syntaxErrors, hecho.problems⟩, x, hx, hlength,
    (ofText_elements {} echoText "" "" 64).2 hecho.syntaxErrors hecho.problems 1 x
      (Nat.zero_le 1) hx⟩

end Builder
end Wdl
