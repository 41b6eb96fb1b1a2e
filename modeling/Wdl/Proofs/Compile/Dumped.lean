import Wdl.Proofs.Compile.Options
import Wdl.Proofs.Compile.Subexpressions
import Wdl.Proofs.Document.Dump

/-!
The data of compiled expressions.

No option of a compiled expression is a file: the options of a placeholder are numbers and strings,
and nothing else gives options to an expression.  So the data of the trees of compiled expressions
determine them, and if a text has no syntax errors, all of its expressions have such trees.
-/

namespace Wdl

namespace Assoc

variable {α : Type} {l : List (String × α)} {x : String × α}

theorem mem_insert {key : String} {v : α} (h : x ∈ insert key v l) : x ∈ l ∨ x.2 = v := by
  induction l with
  | nil =>
    obtain rfl := List.mem_singleton.mp h
    exact .inr rfl
  | cons kv l ih =>
    unfold insert at h
    by_cases hkey : (kv.1 == key) = true
    · rw [if_pos hkey] at h
      obtain rfl | h := List.mem_cons.mp h
      · exact .inr rfl
      · exact .inl (List.mem_cons_of_mem _ h)
    · rw [if_neg hkey] at h
      obtain rfl | h := List.mem_cons.mp h
      · exact .inl List.mem_cons_self
      · exact (ih h).imp_left (List.mem_cons_of_mem _)

/-- The values after an update are old ones and new ones. -/
theorem mem_update {new : List (String × α)} (h : x ∈ update l new) :
    x ∈ l ∨ ∃ y ∈ new, x.2 = y.2 := by
  induction new generalizing l with
  | nil => exact .inl h
  | cons kv new ih =>
    rw [update, List.foldl_cons] at h
    obtain h | ⟨y, hy, heq⟩ := ih h
    · exact (mem_insert h).imp_right fun heq => ⟨kv, List.mem_cons_self, heq⟩
    · exact .inr ⟨y, List.mem_cons_of_mem _ hy, heq⟩

end Assoc

theorem Bindings.fileless_nil : Bindings.Fileless [] :=
  List.forall_mem_nil _

theorem Bindings.Fileless.update {l new : Bindings} (hl : l.Fileless) (hnew : new.Fileless) :
    Bindings.Fileless (Assoc.update l new) := by
  intro x hx s heq
  obtain hx | ⟨y, hy, hvalue⟩ := Assoc.mem_update hx
  · exact hl x hx s heq
  · exact hnew y hy s (hvalue.symm.trans heq)

namespace Builder

open Grammar

variable {b : Builder} {path : Tree.Path} {t : Tree}

/-! ## Options -/

theorem optionValue?_ne_file {v : Value} (h : optionValue? t = some v) (s : String) :
    v ≠ .file s := by
  rintro rfl
  unfold optionValue? at h
  split at h
  · split at h <;> exact nomatch h
  · obtain ⟨x, -, hx⟩ := Option.map_eq_some_iff.mp h
    exact nomatch hx
  · exact nomatch h

/-- The options that are read are numbers and strings. -/
theorem readOptions_fileless {ts : List Tree} {o o' : OptionList}
    (h : (b.readOptions ts o).2 = some o') (ho : Bindings.Fileless o.options) :
    Bindings.Fileless o'.options := by
  induction ts generalizing b o with
  | nil =>
    obtain rfl := Option.some.inj h
    exact ho
  | cons t ts ih =>
    unfold readOptions at h
    dsimp only at h
    split at h
    · exact ih h ho
    · split at h
      · exact ih h ho
      · split at h
        · split at h
          · next v hv =>
            refine ih h fun x hx => ?_
            obtain hx | hx := List.mem_append.mp hx
            · exact ho x hx
            · obtain rfl := List.mem_singleton.mp hx
              exact optionValue?_ne_file hv
          · cases h
        · exact ih h ho

theorem endPlaceholder_fileless {id : NodeId} (h : (b.optionsOf id).Fileless) :
    ((b.endPlaceholder t).optionsOf id).Fileless := by
  obtain ⟨errors, problems, heq⟩ := b.endPlaceholder_eq t
  have hforest := congrArg Builder.forest heq
  unfold optionsOf at h ⊢
  cases htarget : b.placeholderTarget with
  | none =>
    rw [htarget] at hforest
    rwa [show (b.endPlaceholder t).forest = b.forest from hforest]
  | some target =>
    cases hread : (b.readOptions (t.childrenOf .placeholderOption) {}).2 with
    | none =>
      rw [htarget, hread] at hforest
      rwa [show (b.endPlaceholder t).forest = b.forest from hforest]
    | some o =>
      rw [htarget, hread] at hforest
      rw [show (b.endPlaceholder t).forest = giveOptions b.forest target o.options from hforest,
        giveOptions_expr?]
      by_cases hid : target = id
      · rw [if_pos hid, Option.map_map]
        generalize b.forest.expr? id = x at h ⊢
        cases x with
        | none => exact Bindings.fileless_nil
        | some e => exact h.update (readOptions_fileless hread Bindings.fileless_nil)
      · rwa [if_neg hid]

/-- In a walk over a tree of the grammar no expression gets a file for an option. -/
theorem walk_fileless (ht : Derived t) (hb : b.Seated) {id : NodeId}
    (h : (b.optionsOf id).Fileless) : ((walk path t b).optionsOf id).Fileless := by
  refine walk_keeps (I := fun b' => (b'.optionsOf id).Fileless) (fun k b' h => ?_) path t b
    (fun v hv => ⟨fun h => ?_, fun h => ?_⟩) h
  · rwa [optionsOf, visitToken_expr?]
  · have hentered := enter_optionsOf (within_of_visit ht hb hv).seated v.path v.tree id
    rwa [show v.begun.optionsOf id = v.before.optionsOf id from hentered]
  · rw [Visit.after_eq hv]
    by_cases hgiven : v.tree.isA .placeholder = true
    · rw [exit_placeholder hgiven]
      exact endPlaceholder_fileless h
    · rwa [exit_optionsOf v.done v.path v.tree fun h => hgiven h.1]

/-- An expression has the options that the builder has for its node. -/
theorem optionsOf_of_expr? {id : NodeId} {e : Expr} (h : b.forest.expr? id = some e) :
    b.optionsOf id = e.info.options := by
  rw [optionsOf, h]
  rfl

/-! ## Texts -/

theorem start_fileless (f : Forest) (path : String) (stop : Int) (origin : Origin)
    (source : List Char) (keywords : List String) (errors : List SyntaxError) {id : NodeId}
    (hid : f.nextNode ≤ id) :
    ((start f path stop origin source keywords errors).optionsOf id).Fileless := by
  rw [optionsOf, start_expr? f _ _ _ _ _ _ hid]
  exact Bindings.fileless_nil

/-- A walk from the beginning of a document links the nodes that it adds, and gives them no files as
options. -/
theorem walked_fileless (ht : Derived t) (f : Forest) (path : String) (stop : Int) (origin : Origin)
    (source : List Char) (keywords : List String) (errors : List SyntaxError) :
    Forest.Linked f.nextNode
        (walk [] t (start f path stop origin source keywords errors)).forest ∧
      ∀ id e, f.nextNode ≤ id →
        (walk [] t (start f path stop origin source keywords errors)).forest.expr? id = some e →
          Bindings.Fileless e.info.options := by
  have hadvances := walk_advances (start_rooted f path stop origin source keywords errors) [] t
  have hseated : (start f path stop origin source keywords errors).Seated := fun _ h => by cases h
  refine ⟨?_, fun id e hid he => ?_⟩
  · have hlinked := hadvances.rooted.steady.linked
    rwa [hadvances.document] at hlinked
  · rw [← optionsOf_of_expr? he]
    exact walk_fileless ht hseated (start_fileless f path stop origin source keywords errors hid)

theorem ofText_fileless (f : Forest) (text uri abspath : String) (limit : Int) :
    Forest.Linked f.nextNode (ofText f text uri abspath limit).forest ∧
      ∀ id e, f.nextNode ≤ id →
        (ofText f text uri abspath limit).forest.expr? id = some e →
          Bindings.Fileless e.info.options := by
  obtain ⟨errors, tree, hparse⟩ : ∃ errors tree, Parse.parse Language.documents
      (.ofNames uri abspath) limit (lexed text.toList) = (errors, tree) := ⟨_, _, rfl⟩
  rw [ofText_eq f hparse, finish_forest]
  cases tree with
  | none =>
    refine ⟨(start_rooted ..).steady.linked, fun id e hid he => ?_⟩
    rw [Option.elim, id_eq, start_expr? f _ _ _ _ _ _ hid] at he
    exact nomatch he
  | some t =>
    obtain ⟨e, ks, hderives, -, hhead⟩ := Parse.parse_derives (congrArg Prod.snd hparse)
    exact walked_fileless ⟨e, ks, false, hderives, List.mem_of_head? hhead⟩ f ..

end Builder

theorem Compiled.fileless {text : String} {c : Compiled} (h : Compiled.ofText text = .ok c) :
    Forest.Linked 0 c.forest ∧
      ∀ id e, c.forest.expr? id = some e → Bindings.Fileless e.info.options := by
  obtain ⟨t, stop, hparse, -, hforest, -⟩ := Compiled.exists_walk h
  obtain ⟨e, ks, hderives, -, hhead⟩ := Parse.parse_derives (congrArg Prod.snd hparse)
  obtain ⟨hlinked, hfileless⟩ := Builder.walked_fileless
    ⟨e, ks, false, hderives, List.mem_of_head? hhead⟩ {} "" stop (.ofNames "" "") text.toList
    Language.keywords []
  rw [hforest]
  exact ⟨hlinked, fun id e he => hfileless id e (Nat.zero_le id) he⟩

/-! ## Trees -/

namespace Forest

variable {f : Forest} {base : NodeId}

/-- What holds of a node and a depth, and goes over to the children, holds of all trees below. -/
theorem exists_astTo_of_sub? {P : Nat → NodeId → Prop}
    (hP : ∀ depth id, P (depth + 1) id → ∀ c ∈ f.children id, P depth c) {place : List Nat}
    {depth : Nat} {id : NodeId} {a s : Ast} (hid : P depth id) (ha : f.astTo depth id = some a)
    (hs : a.sub? place = some s) :
    ∃ depth' id', P depth' id' ∧ f.astTo depth' id' = some s := by
  induction place generalizing depth id a with
  | nil =>
    obtain rfl := Option.some.inj (a.sub?_nil.symm.trans hs)
    exact ⟨depth, id, hid, ha⟩
  | cons i place ih =>
    obtain ⟨c, hc, hbelow⟩ := Ast.exists_child hs
    cases depth with
    | zero => exact nomatch ha
    | succ depth =>
      obtain ⟨n, hn, rfl⟩ := Option.map_eq_some_iff.mp ha
      obtain ⟨id', hid', hc⟩ := List.mem_filterMap.mp (List.mem_of_getElem? hc)
      exact ih (hP depth id hid id' hid') hc hbelow

theorem expr?_of_astTo {depth : Nat} {id : NodeId} {a : Ast} (h : f.astTo depth id = some a) :
    a.expr? = f.expr? id := by
  cases depth with
  | zero => exact nomatch h
  | succ depth =>
    obtain ⟨n, hn, rfl⟩ := Option.map_eq_some_iff.mp h
    rw [Forest.expr?_eq, hn]
    rfl

theorem fileless_of_exprs (hl : Linked base f)
    (h : ∀ id e, base ≤ id → f.expr? id = some e → Bindings.Fileless e.info.options) {id : NodeId}
    (hid : base ≤ id) {a : Ast} (ha : f.ast? id = some a) : a.Fileless := by
  intro place s e hs he
  have hP (depth : Nat) (id : NodeId) (hid : base ≤ id) : ∀ c ∈ f.children id, base ≤ c :=
    fun c hc => Nat.le_of_lt
      (Nat.lt_of_le_of_lt hid (hl.parent_of_part id c hid (f.mem_children.mp hc)).2)
  obtain ⟨depth, id', hid', hs⟩ := exists_astTo_of_sub? (P := fun _ id => base ≤ id) hP hid ha hs
  rw [expr?_of_astTo hs] at he
  exact h id' e hid' he

theorem exists_astTo {depth : Nat} {id : NodeId} (hdepth : f.nextNode < id + depth)
    (hexpr : (f.expr? id).isSome = true) : ∃ a, f.astTo depth id = some a := by
  obtain ⟨e, he⟩ := Option.isSome_iff_exists.mp hexpr
  have hlt : id < f.nextNode := lt_of_expr? f he
  cases depth with
  | zero => exact absurd hlt (Nat.not_lt_of_lt hdepth)
  | succ depth =>
    obtain ⟨n, hn⟩ := f.exists_node? hlt
    rw [astTo, hn]
    exact ⟨_, rfl⟩

theorem map_expr?_filterMap {depth : Nat} {ids : List NodeId}
    (h : ∀ c ∈ ids, ∃ a, f.astTo depth c = some a) :
    (ids.filterMap (f.astTo depth)).map Ast.expr? = ids.map f.expr? := by
  induction ids with
  | nil => rfl
  | cons id ids ih =>
    obtain ⟨⟨a, ha⟩, h⟩ := List.forall_mem_cons.mp h
    rw [List.filterMap_cons_some ha, List.map_cons, List.map_cons, ih h, expr?_of_astTo ha]

/-- An expression has a tree, and where the nested expressions are the children, this is so in the
whole tree. -/
theorem exists_woven (hl : Linked base f)
    (h : ∀ id e, base ≤ id → f.expr? id = some e → f.Emits id e) {id : NodeId} (hid : base ≤ id)
    (hexpr : (f.expr? id).isSome = true) : ∃ a, f.ast? id = some a ∧ a.Woven := by
  let P (depth : Nat) (id : NodeId) : Prop :=
    base ≤ id ∧ f.nextNode < id + depth ∧ (f.expr? id).isSome = true
  -- no branch is longer than the numbers of the nodes on it allow
  have hP (depth : Nat) (id : NodeId) (hid : P (depth + 1) id) :
      ∀ c ∈ f.children id, P depth c := by
    obtain ⟨hle, hdepth, hexpr⟩ := hid
    obtain ⟨e, he⟩ := Option.isSome_iff_exists.mp hexpr
    intro c hc
    have hlt := (hl.parent_of_part id c hle (f.mem_children.mp hc)).2
    have hmem : f.expr? c ∈ e.nested.map some :=
      (h id e hle he).nested ▸ List.mem_map_of_mem hc
    obtain ⟨x, -, hx⟩ := List.mem_map.mp hmem
    refine ⟨Nat.le_of_lt (Nat.lt_of_le_of_lt hle hlt), Nat.lt_of_lt_of_le hdepth ?_, ?_⟩
    · rw [← Nat.succ_add_eq_add_succ]
      exact Nat.add_le_add_right hlt depth
    · rw [← hx]
      rfl
  have hroot : P (f.nodes.size + 1) id :=
    ⟨hid, Nat.lt_of_lt_of_le (Nat.lt_succ_self _) (Nat.le_add_left _ _), hexpr⟩
  obtain ⟨a, ha⟩ := exists_astTo hroot.2.1 hexpr
  refine ⟨a, ha, fun place s hs => ?_⟩
  obtain ⟨depth, id, hid, hs⟩ := exists_astTo_of_sub? hP hroot ha hs
  obtain ⟨e, he⟩ := Option.isSome_iff_exists.mp hid.2.2
  refine ⟨e, (expr?_of_astTo hs).trans he, ?_⟩
  cases depth with
  | zero => exact nomatch hs
  | succ depth =>
    have hchildren : ∀ c ∈ f.children id, ∃ t, f.astTo depth c = some t := by
      intro c hc
      obtain ⟨-, hdepth, hexpr⟩ := hP depth id hid c hc
      exact exists_astTo hdepth hexpr
    obtain ⟨n, -, rfl⟩ := Option.map_eq_some_iff.mp hs
    exact (h id e hid.1 he).nested.trans (map_expr?_filterMap hchildren).symm

end Forest

namespace Ast

/-- The trees of a document that is parsed into a forest, and of an expression that is compiled by
itself. -/
inductive IsCompiled : Ast → Prop
  | document {f : Forest} {text uri abspath : String} {limit : Int} {id : NodeId} {a : Ast} :
      f.nextNode ≤ id → (Builder.ofText f text uri abspath limit).forest.ast? id = some a →
        IsCompiled a
  | expression {text : String} {c : Compiled} {id : NodeId} {a : Ast} :
      Compiled.ofText text = .ok c → c.forest.ast? id = some a → IsCompiled a

theorem IsCompiled.fileless {a : Ast} (h : a.IsCompiled) : a.Fileless := by
  cases h with
  | document hid ha =>
    obtain ⟨hlinked, hoptions⟩ := Builder.ofText_fileless _ _ _ _ _
    exact Forest.fileless_of_exprs hlinked hoptions hid ha
  | @expression text c id a hc ha =>
    obtain ⟨hlinked, hoptions⟩ := Compiled.fileless hc
    exact Forest.fileless_of_exprs hlinked (fun id e _ he => hoptions id e he) (Nat.zero_le id) ha

/-- The data of the trees of compiled expressions determine them, if the expressions nested among
the items of each are its children in order: data that are the same up to the order of members
belong to trees with expressions in the same places, with the same spans, the same options and the
same items.  All expressions of texts without syntax errors, and those that are compiled by
themselves, have such trees. -/
theorem dumps_lossless :
    (∀ a b : Ast, a.IsCompiled → b.IsCompiled → a.Woven → b.Woven →
      (a.json.Same b.json ↔ a.Alike b)) ∧
    (∀ (f : Forest) (text uri abspath : String) (limit : Int),
      (Builder.ofText f text uri abspath limit).syntaxErrors = [] → ∀ id, f.nextNode ≤ id →
        ((Builder.ofText f text uri abspath limit).forest.expr? id).isSome = true →
          ∃ a, (Builder.ofText f text uri abspath limit).forest.ast? id = some a ∧
            a.IsCompiled ∧ a.Woven) ∧
    ∀ (text : String) (c : Compiled), Compiled.ofText text = .ok c →
      ∃ a, c.forest.ast? c.node = some a ∧ a.IsCompiled ∧ a.Woven := by
  refine ⟨fun a b ha hb hwa hwb => json_same_iff hwa hwb ha.fileless hb.fileless, ?_, ?_⟩
  · intro f text uri abspath limit hclean id hid hexpr
    obtain ⟨hlinked, -⟩ := Builder.ofText_fileless f text uri abspath limit
    obtain ⟨a, ha, hwoven⟩ := Forest.exists_woven hlinked
      (fun _ _ hle he => Builder.ofText_emits hclean hle he) hid hexpr
    exact ⟨a, ha, .document hid ha, hwoven⟩
  · intro text c hc
    obtain ⟨hlinked, -⟩ := Compiled.fileless hc
    obtain ⟨t, stop, -, -, -, hexpr⟩ := Compiled.exists_walk hc
    obtain ⟨a, ha, hwoven⟩ := Forest.exists_woven hlinked (fun _ _ _ he => Compiled.emits hc he)
      (Nat.zero_le c.node) (by rw [hexpr]; rfl)
    exact ⟨a, ha, .expression hc ha, hwoven⟩

/-- The expression in the command of a task against one with brackets that is compiled by itself:
their data tell whether they are alike. -/
theorem dumps_lossless_echo :
    (Builder.ofText {} Builder.echoText "" "" 64).syntaxErrors = [] ∧
      ∃ a c b, (Builder.ofText {} Builder.echoText "" "" 64).forest.ast? 5 = some a ∧
        Compiled.ofText "[x][0] + 1" = .ok c ∧ c.forest.ast? c.node = some b ∧
        (a.json.Same b.json ↔ a.Alike b) := by
  have hecho := Builder.ofText_echoText 64
  obtain ⟨hlossless, hdocument, hcompiled⟩ := dumps_lossless
  obtain ⟨a, ha, hacompiled, hawoven⟩ := hdocument {} Builder.echoText "" "" 64
    hecho.syntaxErrors 5 (Nat.zero_le 5) hecho.expression
  obtain ⟨c, hc⟩ := Compiled.exists_indexed
  obtain ⟨b, hb, hbcompiled, hbwoven⟩ := hcompiled "[x][0] + 1" c hc
  exact ⟨hecho.syntaxErrors, a, c, b, ha, hc, hb,
    hlossless a b hacompiled hbcompiled hawoven hbwoven⟩

end Ast
end Wdl
