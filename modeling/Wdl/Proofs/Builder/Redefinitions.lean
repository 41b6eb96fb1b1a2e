import Wdl.Proofs.Builder.Correspondence
import Wdl.Proofs.Builder.Entries
import Wdl.Proofs.Occurrences

/-!
First definitions.

A walk settles every group of entries: a section, a call or a struct keeps the first entry of each
key and an import the first alias of each struct, and as many problems are recorded as there are
entries left out, in their order.  This is `first_definitions_kept`, and it holds of what the
document does not attach too.
-/

namespace Wdl

/-- What the node of a production that lists entries is made with. -/
def Tree.listBody (t : Tree) : Body :=
  match t.production? with
  | some .metaSection => .block .metadata []
  | some .parameterMetaSection => .block .parameterMetadata []
  | some .runtimeSection => .block .runtime []
  | some .call => .call (Builder.callBody t)
  | _ => .struct { name := t.childText 0 }

namespace Builder

variable {l : Layout} {b b' : Builder} {path : Tree.Path} {t : Tree} {p q : Production}
  {e : Option Extent} {cs : List Tree} {v : Visit} {n : NodeId} {s : Body} {source : List Char}
  {origin : Origin} {es : List Visit}

/-! ## Sections, calls and structs -/

theorem made_listBody (t : Tree) : t.listBody.made = t.listBody := by
  unfold Tree.listBody
  split <;> rfl

theorem isEntry_of_listing? (hq : p.listing? = some q) : q.isEntry = true := by
  cases p <;> cases hq <;> rfl

theorem sectionKind?_of_listing? (hq : p.listing? = some q) :
    ∃ kind, p.sectionKind? = some kind := by
  cases p <;> first | exact ⟨_, rfl⟩ | cases hq

theorem lists_listBody (hq : p.listing? = some q) (ht : t.isA q = true) :
    (Tree.node p e cs).listBody.lists (t.entryBody source) = true := by
  have hproduction : t.production? = some q := beq_iff_eq.mp ht
  unfold Tree.entryBody
  rw [hproduction]
  cases p <;> cases hq <;> rfl

theorem enter_listBody (hq : p.listing? = some q) (path : Tree.Path) (b : Builder) :
    Adds b (b.enter path (.node p e cs)) (Tree.node p e cs).listBody := by
  cases p <;> first | cases hq; done | skip
  case metaSection => exact b.openNew_adds path _ (.block .metadata []) none
  case parameterMetaSection => exact b.openNew_adds path _ (.block .parameterMetadata []) none
  case runtimeSection => exact b.openNew_adds path _ (.block .runtime []) none
  case struct =>
    let name := (Tree.node .struct e cs).childText 0
    show Adds b (b.openChecked path (.node .struct e cs) (.struct { name }) (some name)
      (.node .struct e cs) name) _
    exact openChecked_adds
  case call =>
    let body := callBody (.node .call e cs)
    cases hnickname : body.nickname.isEmpty with
    | true =>
      have hopen : b.enter path (.node .call e cs) =
          b.openNew path (.node .call e cs) (.call body) (some body.name) := if_pos hnickname
      rw [hopen]
      exact b.openNew_adds ..
    | false =>
      have hopen : b.enter path (.node .call e cs) =
          b.openChecked path (.node .call e cs) (.call body) (some body.name)
            (.node .call e cs) body.nickname := if_neg (Bool.eq_false_iff.mp hnickname)
      rw [hopen]
      exact openChecked_adds

/-- A node that has just been made has gathered nothing. -/
theorem Ready.gathers_nil (h : Ready l b (.node p e cs)) (hq : p.listing? = some q)
    (hfixed : b.source = source ∧ b.origin = origin)
    (habout : ∀ x ∈ b.problems, ∀ id, x.node = some id → id < b.forest.nextNode)
    (path : Tree.Path) :
    Gathers b.forest.nextNode (Tree.node p e cs).listBody source origin []
        (b.enter path (.node p e cs)) ∧
      AtNode b.forest.nextNode (b.enter path (.node p e cs)) := by
  obtain ⟨kind, hsection⟩ := sectionKind?_of_listing? hq
  have hadds : Adds b (b.enter path (.node p e cs)) _ := enter_listBody hq path b
  have hf := enter_fixed b path (.node p e cs)
  have hspot : (Tree.node p e cs).spot? = some (kind, (Tree.node p e cs).span) := by
    have hnode : p.nodeKind? = some kind := by
      rw [← hsection]
      cases p <;> first | rfl | cases hsection
    exact congrArg (Option.map fun k => (k, (Tree.node p e cs).span)) hnode
  have hplaces : b.frames.map Frame.place = [] := by
    cases h.suited.standing with
    | inSection _ hplaces | leaf _ hplaces => exact hplaces
    | quiet hnone =>
      rw [hsection] at hnone
      cases hnone
    | expression hexpr => cases p <;> first | cases hexpr; done | cases hsection
  obtain ⟨⟨-, ⟨_, _, hsprout, -⟩, -⟩, -, c, hsections, -, hnode⟩ := enter_section_entered hsection
    path e cs h.orderly (host_of_frames_nil hplaces ▸ h.self_fits hspot) (by
      rintro rfl
      cases hq)
  refine ⟨⟨?_, ?_, ⟨hf.source.trans hfixed.1, hf.origin.trans hfixed.2⟩, hsprout.parts_new,
    List.forall_mem_nil _, List.forall_mem_nil _, ?_, (h.enter_augments path).node_lt habout⟩, ?_⟩
  · rw [hadds.nextNode]
    exact Nat.lt_succ_self _
  · rw [hadds.made?, if_pos rfl, made_listBody]
  · exact List.filter_eq_nil_iff.mpr fun x _ hx => by
      obtain ⟨w, hw, -⟩ := isAbout_iff.mp hx
      cases hw
  · rw [AtNode, hsections, List.head?_cons, Option.map_some, hnode]

/-- A walk that is ready for a section, a call or a struct settles its entries. -/
theorem Ready.gathers (h : Ready l b (.node p e cs)) (ht : Grammar.Derived (.node p e cs))
    (hq : p.listing? = some q) (hfixed : b.source = source ∧ b.origin = origin)
    (habout : ∀ x ∈ b.problems, ∀ id, x.node = some id → id < b.forest.nextNode)
    (path : Tree.Path) :
    Gathers b.forest.nextNode (Tree.node p e cs).listBody source origin
      (entriesOfList q path 0 cs (b.enter path (.node p e cs))) (walk path (.node p e cs) b) := by
  obtain ⟨hbegun, hat⟩ := h.gathers_nil hq hfixed habout path
  have hdone := gathers_walkList path 0
    (fun c hc => gathering_of_lists (l := l) (isEntry_of_listing? hq)
      (fun _ ht => lists_listBody hq ht) (ht.lists hq c hc))
    (h.begins path).1 hat hbegun
  exact hdone.augments (exit_augments _ path _) (exit_fixed _ path _)
    ((exit_alike _ path _).parts _)

/-! ## Imports -/

/-- The struct that a clause of an import gives an alias. -/
def aliased (t : Tree) : String := t.childText 0

/-- What is recorded of a clause for a struct that has an alias. -/
def secondClause (origin : Origin) (t : Tree) : DocumentProblem :=
  ⟨.redefinition ("multiple aliases for struct " ++ aliased t), none, some (t.position origin)⟩

/-- The first clause for each struct counts. -/
theorem structAliases_eq (ts : List Tree) : structAliases ts =
    ((firsts aliased ts).map fun t => (aliased t, t.childText 1),
      (repeats aliased ts).map fun t => (t, aliased t)) := by
  induction ts using List.reverseRecOn with
  | nil => rfl
  | append_singleton ts t ih =>
    have hcontains : Assoc.contains (aliased t)
        ((firsts aliased ts).map fun t => (aliased t, t.childText 1)) = true ↔
          aliased t ∈ ts.map aliased := by
      rw [← Bool.not_eq_false, Assoc.contains_eq_false_iff, Decidable.not_not, List.map_map]
      exact mem_map_firsts
    unfold structAliases at ih ⊢
    rw [List.foldl_append, ih, List.foldl_cons, List.foldl_nil, firsts_concat, repeats_concat]
    show (if Assoc.contains (aliased t) _ = true then _ else _) = _
    split
    · next hmem =>
      rw [if_pos (hcontains.mp hmem), if_pos (hcontains.mp hmem), List.map_append]
      rfl
    · next hmem =>
      rw [if_neg (mt hcontains.mpr hmem), if_neg (mt hcontains.mpr hmem), List.map_append]
      rfl

/-- The aliases of an import have been settled: it has those at the first occurrences of their
structs, and the others have been recorded between what was recorded before it and what is recorded
of its own node. -/
structure Aliases (v : Visit) (origin : Origin) (b : Builder) : Prop where
  made : ∃ body : ImportBody, b.forest.made? v.node = some (.importDoc body) ∧
    body.structAliases = (firsts aliased (v.tree.childrenOf .importAlias)).map fun t =>
      (aliased t, t.childText 1)
  problems : ∃ own, (∀ x ∈ own, x.node = some v.node) ∧
    v.after.problems = v.before.problems ++ (repeats aliased (v.tree.childrenOf .importAlias)).map
      (secondClause origin) ++ own ∧ v.after.problems <+: b.problems

theorem Aliases.augments (h : Aliases v origin b) (hlt : v.node < b.forest.nextNode)
    (ha : Augments b b') : Aliases v origin b' where
  made := by
    obtain ⟨body, hmade, haliases⟩ := h.made
    exact ⟨body, (ha.made? _ hlt).trans hmade, haliases⟩
  problems := by
    obtain ⟨own, hown, hafter, hreported⟩ := h.problems
    obtain ⟨problems, heq, -⟩ := ha.problems
    exact ⟨own, hown, hafter, hreported.trans (heq ▸ List.prefix_append _ _)⟩

/-- What an import whose address is legible adds. -/
theorem addImport_settles {literal : Tree} {rest : List Tree} {uri : String}
    (hnodes : t.nodes = literal :: rest) (huri : literalText? literal = some uri) (b : Builder) :
    ∃ body : ImportBody, ∃ own, Adds b (b.addImport t) (.importDoc body) ∧
      body.structAliases = ((firsts aliased (t.childrenOf .importAlias)).map fun t =>
        (aliased t, t.childText 1)) ∧
      (∀ x ∈ own, x.node = some b.forest.nextNode) ∧
      (b.addImport t).problems = b.problems ++ (repeats aliased (t.childrenOf .importAlias)).map
        (secondClause b.origin) ++ own := by
  obtain ⟨errors, body, haliases, himport⟩ := b.addImport_legible hnodes huri
  rw [structAliases_eq] at haliases himport
  let again := (repeats aliased (t.childrenOf .importAlias)).map (secondClause b.origin)
  have hagain : ((repeats aliased (t.childrenOf .importAlias)).map fun t => (t, aliased t)).map
      b.secondAlias = again := List.map_map
  rw [hagain] at himport
  let b₁ := (b.withReports (b.syntaxErrors ++ errors) (b.problems ++ again)).addNode t
    (.importDoc body)
  let binding := if b.isNamespace body.namespaceName && b.current.rooted then
    some (b.scope, body.namespaceName) else none
  have hadds : Adds b b₁ (.importDoc body) :=
    ⟨rfl, fun id => ((b.withReports _ _).addNode_adds t _).made? id⟩
  obtain ⟨own, hown, hall⟩ := attachLeaf_problems b₁ b.forest.nextNode binding
  refine ⟨body, own, ?_, haliases, hall, ?_⟩
  · rw [himport]
    exact hadds.inherits (attachLeaf_inherits b₁ b.forest.nextNode binding)
  · rw [himport]
    exact hown

/-- A walk over an import whose address is legible settles its aliases. -/
theorem aliases_of_import (ht : Grammar.Derived (.node .importDoc e cs)) {literal : Tree}
    {rest : List Tree} {uri : String} (hnodes : (Tree.node .importDoc e cs).nodes = literal :: rest)
    (huri : literalText? literal = some uri) (path : Tree.Path) (b : Builder) :
    b.forest.nextNode < (walk path (.node .importDoc e cs) b).forest.nextNode ∧
      Aliases ⟨path, .node .importDoc e cs, b⟩ b.origin (walk path (.node .importDoc e cs) b) := by
  obtain ⟨body, own, hadds, haliases, hown, hproblems⟩ := addImport_settles hnodes huri b
  -- what stands in it does nothing
  have hidles := idles_walkList path 0 (fun c hc => idles_of_inactive (ht.inactive_of_import c hc))
    (b.addImport (.node .importDoc e cs))
  refine ⟨?_, ⟨body, (hidles.alike.made? _).trans ?_, haliases⟩, own, hown,
    hidles.problems.trans hproblems, List.prefix_refl _⟩
  · refine Nat.lt_of_lt_of_eq ?_ hidles.alike.nextNode.symm
    rw [hadds.nextNode]
    exact Nat.lt_succ_self _
  · rw [hadds.made?]
    exact if_pos rfl

/-! ## Documents -/

/-- The entries that a walk comes to in a section, a call or a struct. -/
def Visit.entries (q : Production) (v : Visit) : List Visit :=
  entriesOfList q v.path 0 v.tree.children v.begun

/-- They are the entries that stand below it, in their order. -/
theorem map_entries (q : Production) (v : Visit) :
    (v.entries q).map (fun w => (w.path, w.tree)) =
      (Tree.preorderList v.path 0 v.tree.children).filter (·.2.isA q) := by
  rw [← map_visitsList v.path 0 v.tree.children v.begun, List.filter_map]
  rfl

theorem finish_fixed (b : Builder) : Fixed b b.finish := by
  obtain ⟨errors, hfinish⟩ := b.finish_eq
  rw [hfinish]
  exact ⟨rfl, rfl⟩

/-- A walk settles the entries of every section, call and struct that it comes to. -/
theorem gathers_of_visit (h : Ready l b t) (ht : Grammar.Derived t)
    (hfixed : b.source = source ∧ b.origin = origin)
    (habout : ∀ x ∈ b.problems, ∀ id, x.node = some id → id < b.forest.nextNode)
    (hv : v ∈ visits path t b) (hq : v.tree.production?.bind Production.listing? = some q) :
    Gathers v.node v.tree.listBody source origin (v.entries q) (walk path t b) := by
  have hderived := ht.of_mem (mem_preorder_of_visit hv)
  have hinside := inside_of_visit h hv
  have hbegan := fixed_of_visit hv
  obtain ⟨hbefore, hafter⟩ := augments_of_visit h hv
  have habout := hbefore.node_lt habout
  have hwalked := walk_fixed path t b
  obtain ⟨at', tree, before⟩ := v
  cases tree with
  | token k => cases hq
  | node p e cs =>
    have hgathers := hinside.ready.gathers hderived hq
      ⟨hbegan.source.trans hfixed.1, hbegan.origin.trans hfixed.2⟩ habout at'
    exact hgathers.augments hafter
      ⟨hwalked.origin.trans (hfixed.2.trans hgathers.fixed.2.symm),
        hwalked.source.trans (hfixed.1.trans hgathers.fixed.1.symm)⟩
      (hinside.parts before.forest.nextNode (Nat.le_refl _) hgathers.lt)

/-- A walk settles the aliases of every import that it comes to. -/
theorem aliases_of_visit (h : Ready l b t) (ht : Grammar.Derived t) (hv : v ∈ visits path t b)
    (himport : v.tree.isA .importDoc = true) {literal : Tree} {rest : List Tree} {uri : String}
    (hnodes : v.tree.nodes = literal :: rest) (huri : literalText? literal = some uri) :
    v.node < (walk path t b).forest.nextNode ∧ Aliases v b.origin (walk path t b) := by
  have hderived := ht.of_mem (mem_preorder_of_visit hv)
  have hbegan := fixed_of_visit hv
  obtain ⟨-, hafter⟩ := augments_of_visit h hv
  obtain ⟨at', tree, before⟩ := v
  cases tree with
  | token k => cases himport
  | node p e cs =>
    obtain rfl := isA_node.mp himport
    obtain ⟨hlt, haliases⟩ := aliases_of_import hderived hnodes huri at' before
    rw [← hbegan.origin]
    exact ⟨Nat.lt_of_lt_of_le hlt hafter.le, haliases.augments hlt hafter⟩

/-- Every group of keyed entries keeps those at the first occurrences of their keys, in their order
and with their texts, and each of the others is a problem, as many as there are more entries than
keys and in the order of the entries.  The entries of a section, a call or a struct stand below it,
and the problems are about their nodes; those with the aliases of an import are about no node, and
are recorded when it begins. -/
theorem first_definitions_kept {t : Tree} (ht : Grammar.IsTree .document t) (hspread : t.Spread)
    (f : Forest) (path : String) (stop : Int) (origin : Origin) (source : List Char)
    (keywords : List String) (errors : List SyntaxError) :
    ∀ v ∈ visits [] t (start f path stop origin source keywords errors),
      (∀ q, v.tree.production?.bind Production.listing? = some q →
        (v.entries q).map (fun w => (w.path, w.tree)) =
            (Tree.preorderList v.path 0 v.tree.children).filter (·.2.isA q) ∧
          Gathers v.node v.tree.listBody source origin (v.entries q)
            (walk [] t (start f path stop origin source keywords errors)).finish ∧
          ((walk [] t (start f path stop origin source keywords errors)).finish.problems.filter
              (isAbout (v.entries q))).length =
            (v.entries q).length - ((v.entries q).map Visit.label).dedup.length) ∧
      (v.tree.isA .importDoc = true →
        ∀ literal rest uri, v.tree.nodes = literal :: rest → literalText? literal = some uri →
          Aliases v origin
              (walk [] t (start f path stop origin source keywords errors)).finish ∧
            (repeats aliased (v.tree.childrenOf .importAlias)).length =
              (v.tree.childrenOf .importAlias).length -
                ((v.tree.childrenOf .importAlias).map aliased).dedup.length) := by
  generalize hb : start f path stop origin source keywords errors = b
  intro v hv
  have hready : Ready .spread b t := by
    rw [← hb]
    exact ⟨start_orderly .., .outer ht.outer ht.allLegible rfl, hspread.laidOut, fun s _ =>
      start_fits f path origin source keywords errors trivial⟩
  have hfixed : b.source = source ∧ b.origin = origin := by
    rw [← hb]
    exact ⟨rfl, rfl⟩
  have habout : ∀ x ∈ b.problems, ∀ id, x.node = some id → id < b.forest.nextNode := by
    rw [← hb]
    exact List.forall_mem_nil _
  refine ⟨fun q hq => ?_, fun himport literal rest uri hnodes huri => ⟨?_, length_repeats _⟩⟩
  · have hwalked := gathers_of_visit hready ht.derived hfixed habout hv hq
    have hgathers := hwalked.augments finish_augments (finish_fixed _) (by rw [finish_forest])
    refine ⟨map_entries q v, hgathers, ?_⟩
    rw [hgathers.problems, List.length_map, length_repeats]
  · rw [← hfixed.2]
    obtain ⟨hlt, haliases⟩ := aliases_of_visit hready ht.derived hv himport hnodes huri
    exact haliases.augments hlt finish_augments

section Example

/-! ### An example: `struct S` with the members `Int a` and `Float a` -/

def recordToken : Token := ⟨.structKw, "struct", ⟨0, 1, 1⟩, ⟨6, 1, 7⟩⟩
def recordNameToken : Token := ⟨.name, "S", ⟨7, 1, 8⟩, ⟨8, 1, 9⟩⟩
def recordOpenToken : Token := ⟨.lbrace, "\x7b", ⟨9, 1, 10⟩, ⟨10, 1, 11⟩⟩
def intToken : Token := ⟨.name, "Int", ⟨11, 1, 12⟩, ⟨14, 1, 15⟩⟩
def intMemberToken : Token := ⟨.name, "a", ⟨15, 1, 16⟩, ⟨16, 1, 17⟩⟩
def floatToken : Token := ⟨.name, "Float", ⟨17, 1, 18⟩, ⟨22, 1, 23⟩⟩
def floatMemberToken : Token := ⟨.name, "a", ⟨23, 1, 24⟩, ⟨24, 1, 25⟩⟩
def recordCloseToken : Token := ⟨.rbrace, "\x7d", ⟨25, 1, 26⟩, ⟨26, 1, 27⟩⟩

def member (type name : Token) : Tree :=
  .node .decl (some ⟨type.start, name.stop⟩)
    [.node .type (some (.ofToken type)) [.token type], .token name]

def recordTree : Tree :=
  .node .struct (some ⟨recordToken.start, recordCloseToken.stop⟩)
    [.token recordNameToken, member intToken intMemberToken, member floatToken floatMemberToken]

def recordDocument : Tree :=
  .node .document (some ⟨recordToken.start, recordCloseToken.stop⟩) [recordTree]

theorem member_makes (type name : Token) (htype : type.terminal = .name)
    (hname : name.terminal = .name) :
    Grammar.Makes (.nonterminal .unboundDecl) (some ⟨type.start, name.stop⟩) [member type name]
      [type, name] := by
  have htoken : ∀ k : Token, k.terminal = .name →
      Grammar.Makes (.terminal .name) (some (.ofToken k)) [.token k] [k] := by
    rintro ⟨terminal, text, start, stop⟩ rfl
    exact Grammar.makes_token _
  have hmakes : Grammar.Makes (.nonterminal .type) (some (.ofToken type))
      [.node .type (some (.ofToken type)) [.token type]] [type] := by
    have hrule : (⟨.type, [.terminal .name], some .type, false⟩ : Rule) ∈ Grammar.rules := by
      decide +kernel
    exact Grammar.makes_node hrule [(_, _, _, _)] rfl
      (List.forall_mem_singleton.mpr (htoken type htype))
  have hrule : (⟨.unboundDecl, [.nonterminal .type, .terminal .name], some .decl, false⟩ : Rule) ∈
      Grammar.rules := by decide +kernel
  exact Grammar.makes_node hrule [(_, _, _, _), (_, _, _, _)] rfl
    (List.forall_mem_cons.mpr ⟨hmakes, List.forall_mem_singleton.mpr (htoken name hname)⟩)

theorem recordTree_makes : Grammar.Makes (.nonterminal .struct)
    (some ⟨recordToken.start, recordCloseToken.stop⟩) [recordTree]
    [recordToken, recordNameToken, recordOpenToken, intToken, intMemberToken, floatToken,
      floatMemberToken, recordCloseToken] := by
  have hfirst := Grammar.makes_chain (member_makes intToken intMemberToken rfl rfl)
    [.structMembers] (by decide +kernel)
  have hrule : (⟨.structMembers, [.nonterminal .structMembers, .nonterminal .unboundDecl], none,
      false⟩ : Rule) ∈ Grammar.rules := by decide +kernel
  have hmembers : Grammar.Makes (.nonterminal .structMembers)
      (some ⟨intToken.start, floatMemberToken.stop⟩)
      [member intToken intMemberToken, member floatToken floatMemberToken]
      [intToken, intMemberToken, floatToken, floatMemberToken] :=
    Grammar.makes_rule hrule rfl [(_, _, _, _), (_, _, _, _)] rfl
      (List.forall_mem_cons.mpr ⟨hfirst, List.forall_mem_singleton.mpr
        (member_makes floatToken floatMemberToken rfl rfl)⟩)
  exact Grammar.makes_struct rfl rfl rfl rfl hmembers

theorem recordDocument_isTree : Grammar.IsTree .document recordDocument := by
  have helements := Grammar.makes_chain recordTree_makes [.documentElement, .documentElements]
    (by decide +kernel)
  have hdocument : (⟨.document, [.nonterminal .documentElements], some .document, false⟩ : Rule) ∈
      Grammar.rules := by decide +kernel
  obtain ⟨e, hd, hs, -, ht⟩ := Grammar.makes_node hdocument
    [(.nonterminal .documentElements, _, _, _)] rfl (List.forall_mem_singleton.mpr helements)
  refine ⟨e, _, hd, hs, ht, ?_⟩
  simp only [List.flatMap_cons, List.flatMap_nil, List.append_nil, List.forall_mem_cons]
  exact ⟨⟨[], by decide +kernel⟩, ⟨[], by decide +kernel⟩, ⟨[], by decide +kernel⟩,
    ⟨[], by decide +kernel⟩, ⟨[], by decide +kernel⟩, ⟨[], by decide +kernel⟩,
    ⟨[], by decide +kernel⟩, ⟨[], by decide +kernel⟩, List.forall_mem_nil _⟩

theorem recordDocument_spread : recordDocument.Spread := by
  unfold Tree.Spread
  decide +kernel

/-- The walk comes to the struct. -/
def recordVisit : Visit :=
  ⟨[0], recordTree, (start {} "" 26 ⟨"", ""⟩ [] [] []).enter [] recordDocument⟩

theorem first_definitions_kept_struct :
    (Grammar.IsTree .document recordDocument ∧ recordDocument.Spread) ∧
      recordVisit ∈ visits [] recordDocument (start {} "" 26 ⟨"", ""⟩ [] [] []) ∧
      ((walk [] recordDocument (start {} "" 26 ⟨"", ""⟩ [] [] [])).finish.problems.filter
        (isAbout (recordVisit.entries .decl))).length = 1 := by
  have hvisit : recordVisit ∈ visits [] recordDocument (start {} "" 26 ⟨"", ""⟩ [] [] []) :=
    List.mem_cons_of_mem _ (List.mem_append_left _ List.mem_cons_self)
  have hlabels : (recordVisit.entries .decl).map Visit.label = ["a", "a"] := by decide +kernel
  have hkept := (first_definitions_kept recordDocument_isTree recordDocument_spread {} "" 26
    ⟨"", ""⟩ [] [] [] recordVisit hvisit).1 .decl rfl
  refine ⟨⟨recordDocument_isTree, recordDocument_spread⟩, hvisit, ?_⟩
  rw [hkept.2.2, ← List.length_map Visit.label, hlabels]
  decide +kernel

end Example

end Builder
end Wdl
