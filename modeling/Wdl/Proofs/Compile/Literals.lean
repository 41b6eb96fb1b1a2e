import Wdl.Proofs.Compile.Documents
import Wdl.Proofs.Compile.Restores
import Wdl.Proofs.Expr.Parts
import Wdl.Proofs.Scope.Referent

/-!
Literals of compiled expressions.

Whatever is wrong with a document, none of the expressions that are compiled for it has a literal
that is an integer out of range: a literal that is written out of range is replaced, and an
expression is put together from new items and from other expressions of the document.
-/

namespace Wdl
namespace Builder

/-- No expression with a number from `base` on has a literal out of range, and no other waits to be
put into one. -/
structure InRange (base : NodeId) (b : Builder) : Prop where
  le : base ≤ b.forest.nextNode
  literals : ∀ id e, base ≤ id → b.forest.expr? id = some e → e.LiteralsFit
  pending : ∀ frame ∈ b.frames, ∀ id ∈ frame.pending, base ≤ id

namespace InRange

variable {base : NodeId} {b b' : Builder}

theorem calm (h : InRange base b) (hcalm : Calm b b')
    (hle : b.forest.nextNode ≤ b'.forest.nextNode) : InRange base b' where
  le := Nat.le_trans h.le hle
  literals id e hid he := by
    obtain ⟨old, hold, hitems⟩ := hcalm.items id e he
    have hfit := h.literals id old hid hold
    unfold Expr.LiteralsFit at hfit ⊢
    rwa [← hitems]
  pending := by
    rw [hcalm.frames]
    exact h.pending

/-- Steps that change no expression. -/
theorem still (h : InRange base b) (hframes : b'.frames = b.frames)
    (hforest : b'.forest = b.forest) : InRange base b' :=
  h.calm (.of_expr? hframes fun _ => by rw [hforest]) (by rw [hforest])

theorem checkKeyword (h : InRange base b) (t : Tree) (name : String) :
    InRange base (b.checkKeyword t name) := by
  obtain ⟨errors, heq⟩ := b.checkKeyword_eq t name
  rw [heq]
  exact h.still rfl rfl

/-! ## Items -/

theorem modifyItems (h : InRange base b) (node : NodeId) {g : List Item → List Item}
    (hg : ∀ items, (∀ i ∈ Item.partsOf items, i.LiteralFits) →
      ∀ i ∈ Item.partsOf (g items), i.LiteralFits) :
    InRange base (b.modifyItems node g) where
  le := by
    rw [(modifyItems_rewrites b node g).nextNode]
    exact h.le
  literals id e hid he := by
    rw [modifyItems_expr?] at he
    split at he
    · obtain ⟨old, hold, rfl⟩ := Option.map_eq_some_iff.mp he
      exact hg old.items (h.literals id old hid hold)
    · exact h.literals id e hid he
  pending := h.pending

theorem emit (h : InRange base b) {i : Item} (hi : ∀ j ∈ i.parts, j.LiteralFits) :
    InRange base (b.emit i) := by
  unfold Builder.emit
  split
  · refine h.modifyItems _ fun items hitems j hj => ?_
    rw [Item.partsOf_append, Item.partsOf, Item.partsOf, List.append_nil, List.mem_append] at hj
    exact hj.elim (hitems j) (hi j)
  · exact h

/-- An item that is no expression has no parts but itself. -/
theorem emitLeaf (h : InRange base b) (i : Item) (hparts : i.parts = [i]) (hi : i.LiteralFits) :
    InRange base (b.emit i) :=
  h.emit (by rwa [hparts, List.forall_mem_singleton])

theorem emitPending (h : InRange base b) (n : Nat) : InRange base (b.emitPending n) := by
  unfold Builder.emitPending
  split
  · next frame outer hframes =>
    have hpending := h.pending
    rw [hframes] at hpending
    obtain ⟨hframe, houter⟩ := List.forall_mem_cons.mp hpending
    refine List.foldlRecOn (motive := InRange base) _ _ ⟨h.le, h.literals, ?_⟩
      fun b' hb' id hmem => ?_
    · exact List.forall_mem_cons.mpr ⟨fun id hid => hframe id (List.mem_of_mem_take hid), houter⟩
    · have hid := hframe id (List.mem_of_mem_drop hmem)
      split
      · next e he =>
        refine hb'.emit fun j hj => ?_
        rw [Expr.toItem, Item.parts, List.mem_cons] at hj
        obtain rfl | hj := hj
        · trivial
        · exact hb'.literals id e hid he j hj
      · exact hb'
  · exact h

theorem emitApply (h : InRange base b) (t : Tree) (function : String) :
    InRange base (b.emitApply t function) :=
  (h.emitPending _).emitLeaf _ rfl trivial

theorem emitInt (h : InRange base b) (t : Tree) : InRange base (b.emitInt t) := by
  unfold Builder.emitInt
  dsimp only
  split
  · have herror : InRange base (b.syntaxErrorAt t ("integer literal out of range: " ++
        toString (Text.natOfAscii (t.childText 0)))) := h.still rfl rfl
    exact herror.emitLeaf _ rfl ⟨by decide, by decide⟩
  · next hmax =>
    refine h.emitLeaf _ rfl ?_
    unfold maxInt at hmax
    unfold Item.LiteralFits Value.Fits
    omega

theorem emitStringPart (h : InRange base b) (t : Tree) : InRange base (b.emitStringPart t) := by
  unfold Builder.emitStringPart
  dsimp only
  split
  · exact h.emitLeaf _ rfl trivial
  · exact h.still rfl rfl

theorem endObjectEntry (h : InRange base b) (t : Tree) : InRange base (b.endObjectEntry t) := by
  unfold Builder.endObjectEntry
  split
  · exact ((h.checkKeyword _ _).emitLeaf (.literal (.string _)) rfl trivial).emitPending 1
  · split
    · exact (h.emitLeaf (.literal (.string _)) rfl trivial).emitPending 1
    · exact h.still rfl rfl
  · exact h

theorem endObject (h : InRange base b) (t : Tree) : InRange base (b.endObject t) := by
  unfold Builder.endObject
  dsimp only
  split
  · exact h.emitLeaf _ rfl trivial
  · exact h.emitLeaf _ rfl trivial

theorem beginObject (h : InRange base b) (t : Tree) : InRange base (b.beginObject t) := by
  unfold Builder.beginObject
  dsimp only
  split
  · exact h
  · exact (h.checkKeyword _ _).emitLeaf _ rfl trivial

theorem endMember (h : InRange base b) (t : Tree) : InRange base (b.endMember t) := by
  have hkeyword : ∀ member, InRange base
      (if member == "left" || member == "right" then b else b.checkKeyword t member) := by
    intro member
    split
    · exact h
    · exact h.checkKeyword t member
  unfold Builder.endMember
  dsimp only
  split
  · refine (hkeyword _).modifyItems _ fun items hitems j hj => ?_
    rw [Item.partsOf_append, List.mem_append] at hj
    obtain hj | hj := hj
    · obtain ⟨i, hi, hj⟩ := Item.mem_partsOf.mp hj
      exact hitems j (Item.mem_partsOf.mpr ⟨i, List.dropLast_subset _ hi, hj⟩)
    · obtain rfl := List.mem_singleton.mp hj
      trivial
  · exact ((hkeyword _).emitLeaf (.literal (.string _)) rfl trivial).emitLeaf _ rfl trivial

/-! ## Expressions -/

theorem beginExpr (h : InRange base b) (path : Tree.Path) (t : Tree) :
    InRange base (b.beginExpr path t) where
  le := by
    rw [beginExpr_nextNode]
    exact Nat.le_succ_of_le h.le
  literals id e hid he := by
    rw [beginExpr_expr?, Forest.expr?_eq, addNode, Forest.node?_addNode] at he
    split at he
    · obtain rfl := Option.some.inj he
      exact fun i hi => absurd hi List.not_mem_nil
    · rw [← Forest.expr?_eq] at he
      exact h.literals id e hid he
  pending := by
    rw [beginExpr_frames]
    refine List.forall_mem_cons.mpr ⟨List.forall_mem_nil _, ?_⟩
    unfold framesAround
    split
    · next frame outer hframes =>
      have hpending := h.pending
      rw [hframes] at hpending
      obtain ⟨hframe, houter⟩ := List.forall_mem_cons.mp hpending
      refine List.forall_mem_cons.mpr ⟨fun id hid => ?_, houter⟩
      obtain hid | hid := List.mem_append.mp hid
      · exact hframe id hid
      · exact List.mem_singleton.mp hid ▸ h.le
    · exact List.forall_mem_nil _

theorem endExpr (h : InRange base b) (path : Tree.Path) (t : Tree) :
    InRange base (b.endExpr path t) := by
  unfold Builder.endExpr
  split
  · exact h.still rfl rfl
  · next frame outer hframes =>
    have hpending := h.pending
    split
    · refine ⟨h.le, h.literals, fun f hf => hpending f ?_⟩
      rw [hframes]
      exact List.mem_cons_of_mem _ hf
    · refine ⟨h.le, h.literals, fun f hf => hpending f ?_⟩
      exact (List.dropWhile_sublist _).subset (List.mem_of_mem_tail hf)

/-! ## Events -/

theorem closeSection (h : InRange base b) (path : Tree.Path) (t : Tree) (kind : Kind) :
    InRange base (b.closeSection path t kind) := by
  unfold Builder.closeSection
  dsimp only
  split
  · exact h.still rfl rfl
  · split <;> exact h.still rfl rfl

theorem enter (h : InRange base b) (path : Tree.Path) (t : Tree) :
    InRange base (b.enter path t) := by
  cases t with
  | token k => exact h
  | node p e cs =>
    cases hsection : p.sectionKind? with
    | some kind =>
      exact h.calm (enter_section_calm b hsection path e cs)
        (enter_section_idle b hsection path e cs).le
    | none =>
      cases p
      case document => exact h.still rfl rfl
      case version => exact h.calm (setVersion_calm b _) (setVersion_idle b _).le
      case importDoc => exact h.calm (enter_leaf_calm b rfl path e cs) (addImport_idle b _).le
      case metaEntry => exact h.calm (enter_leaf_calm b rfl path e cs) (addMetaEntry_idle b _).le
      case expr | exprOperand => exact h.beginExpr path _
      case object => exact h.beginObject _
      all_goals first
        | exact h
        | exact nomatch hsection

theorem exit (h : InRange base b) (path : Tree.Path) (t : Tree) :
    InRange base (b.exit path t) := by
  cases t with
  | token k => exact h
  | node p e cs =>
    cases hsection : p.sectionKind? with
    | some kind =>
      rw [exit_section hsection]
      exact h.closeSection path _ kind
    | none =>
      cases p
      case binary op => exact h.emitLeaf _ rfl trivial
      case array | pair | ifThenElse | apply => exact h.emitApply _ _
      case booleanTrue | booleanFalse | null | float | map => exact h.emitLeaf _ rfl trivial
      case int => exact h.emitInt _
      case leftName => exact (h.checkKeyword _ _).emitLeaf _ rfl trivial
      case group | unaryPlus | mapEntry => exact h.emitPending 1
      case negate | unaryMinus | stringExprPart | index =>
        exact (h.emitPending 1).emitLeaf _ rfl trivial
      case stringExprWithPart => exact (h.emitLeaf (.operator _) rfl trivial).emitLeaf _ rfl trivial
      case stringPart => exact h.emitStringPart _
      case placeholder =>
        have hnext := (endPlaceholder_still b (.node .placeholder e cs)).alike.nextNode
        exact h.calm (endPlaceholder_calm b _) (Nat.le_of_eq hnext.symm)
      case objectEntry => exact h.endObjectEntry _
      case object => exact h.endObject _
      case member => exact h.endMember _
      case commandPlaceholder =>
        exact h.calm (addCommandPart_calm b _) (addCommandPart_idle b _).le
      case expr | exprOperand => exact h.endExpr path _
      all_goals first
        | exact h
        | exact nomatch hsection

end InRange

mutual

/-- A walk over any tree keeps literals in range. -/
theorem walk_inRange {base : NodeId} (path : Tree.Path) : (t : Tree) → (b : Builder) →
    InRange base b → InRange base (walk path t b)
  | .token k, b, h => h.calm (visitToken_calm b k) (visitToken_idle b k).le
  | .node _ _ cs, _, h => (walkList_inRange path 0 cs _ (h.enter path _)).exit path _

theorem walkList_inRange {base : NodeId} (path : Tree.Path) (i : Nat) : (ts : List Tree) →
    (b : Builder) → InRange base b → InRange base (walkList path i ts b)
  | [], _, h => h
  | t :: ts, b, h => walkList_inRange path (i + 1) ts _ (walk_inRange (i :: path) t b h)

end

theorem start_inRange (f : Forest) (path : String) (stop : Int) (origin : Origin)
    (source : List Char) (keywords : List String) (errors : List SyntaxError) :
    InRange f.nextNode (start f path stop origin source keywords errors) where
  le := by
    rw [start, Forest.nextNode_addScoped]
    exact Nat.le_succ _
  literals id e hid he := by
    rw [Forest.expr?_eq] at he
    simp only [start, Forest.node?_addScoped] at he
    split at he
    · cases he
    · rw [(Forest.node?_eq_none_iff f).mpr hid] at he
      cases he
  pending := List.forall_mem_nil _

end Builder

/-! ## Documents -/

/-- The literals of an expression are in range; and if the options in it are too, and it applies no
function that rounds, so is its value where all names have such values. -/
def Expr.StaysInRange (e : Expr) : Prop :=
  e.LiteralsFit ∧
    (e.OptionsFit → e.rounds = false → ∀ lookup : Lookup,
      (∀ n ∈ e.names, ∀ site v, lookup site n = .ok v → v.Fits) →
        ∀ v, e.evaluate lookup = .ok v → v.Fits)

theorem Expr.staysInRange_of_literalsFit {e : Expr} (h : e.LiteralsFit) : e.StaysInRange :=
  ⟨h, fun hoptions hrounds _ hnames _ hv => e.evaluate_fits h hoptions hrounds hnames hv⟩

/-- All literal integers of a document are in range, and those of an expression that is compiled by
itself, whatever is wrong with the text; and only an option of a placeholder or a function that
rounds can bring another integer into an evaluation. -/
theorem expressions_stayInRange (f : Forest) (text uri abspath : String) (limit : Int) :
    (∀ id e, f.nextNode ≤ id →
      (Builder.ofText f text uri abspath limit).forest.expr? id = some e → e.StaysInRange) ∧
    ∀ c, Compiled.ofText text = .ok c →
      c.forest.expr? c.node = some c.expr ∧
        ∀ id e, c.forest.expr? id = some e → e.StaysInRange := by
  have hrange {base id : NodeId} {e : Expr} (b : Builder) (h : Builder.InRange base b)
      (hid : base ≤ id) (he : b.finish.forest.expr? id = some e) : e.StaysInRange := by
    rw [Builder.finish_forest] at he
    exact Expr.staysInRange_of_literalsFit (h.literals id e hid he)
  constructor
  · intro id e hid he
    unfold Builder.ofText at he
    dsimp only at he
    split at he
    · refine hrange _ ?_ hid he
      exact Builder.walk_inRange [] _ _ (Builder.start_inRange ..)
    · refine hrange _ ?_ hid he
      exact Builder.start_inRange ..
  · intro c hc
    refine ⟨(Compiled.settled_of_ofText hc).1, fun id e he => ?_⟩
    unfold Compiled.ofText at hc
    dsimp only at hc
    split at hc
    · exact nomatch hc
    · exact nomatch hc
    · obtain rfl := Except.ok.inj hc
      refine hrange _ ?_ (Nat.zero_le id) he
      split
      · split
        · exact Builder.walk_inRange [] _ _ (Builder.start_inRange {} ..)
        · exact Builder.start_inRange {} ..
      · exact Builder.start_inRange {} ..
    · exact nomatch hc

/-! ## An option that is out of range -/

section Example

/-- The parse tree of the string `"~{default=9223372036854775808 x}"`. -/
def optionTree : Tree :=
  .node .expr (loopExtent 0 34)
    [.node .string (loopExtent 0 34)
      [.token (loopToken .doubleQuote "\"" 0), .node .stringPart none [],
        .node .stringExprWithPart (loopExtent 1 33)
          [.node .stringExprPart (loopExtent 1 33)
            [.node .placeholder (loopExtent 3 32)
              [.node .placeholderOption (loopExtent 3 30)
                [.token (loopToken .name "default" 3),
                  .node .placeholderValue (loopExtent 11 30)
                    [.token (loopToken .int "9223372036854775808" 11)]],
                .node .expr (loopExtent 31 32)
                  [.node .leftName (loopExtent 31 32) [.token (loopToken .name "x" 31)]]]],
            .node .stringPart none []],
        .token (loopToken .doubleQuote "\"" 33)]]

def optionBuilder : Builder :=
  (Builder.walk [] optionTree (Builder.start {} "" 33 ⟨"", ""⟩ [] [] [])).finish

/-- The value of an option that is an integer. -/
def Expr.intOption? (e : Expr) (name : String) : Option Int :=
  match e.info.options.lookup name with
  | some (.int n) => some n
  | _ => none

theorem Expr.lookup_of_intOption? {e : Expr} {name : String} {n : Int}
    (h : e.intOption? name = some n) : e.info.options.lookup name = some (.int n) := by
  unfold intOption? at h
  split at h
  · next hlookup => rw [hlookup, Option.some.inj h]
  · exact nomatch h

/-- Nothing is wrong with the string, but the option of its placeholder is an integer out of range,
and the value of the placeholder where `x` has none. -/
theorem optionBuilder_outOfRange :
    optionBuilder.syntaxErrors.isEmpty = true ∧ optionBuilder.problems.isEmpty = true ∧
      ∃ e, optionBuilder.forest.expr? 2 = some e ∧
        e.info.options.lookup "default" = some (.int 0x8000000000000000) ∧
        e.evaluate (Lookup.ofBindings [] [("x", .null)]) = .ok (.int 0x8000000000000000) ∧
        ¬ (Value.int 0x8000000000000000).Fits := by
  refine ⟨by decide +kernel, by decide +kernel, ?_⟩
  have hoption : (optionBuilder.forest.expr? 2).bind (·.intOption? "default") =
      some 0x8000000000000000 := by decide +kernel
  have hvalue : (optionBuilder.forest.expr? 2).bind
      (fun e => intOf? (e.evaluate (Lookup.ofBindings [] [("x", .null)]))) =
      some 0x8000000000000000 := by decide +kernel
  obtain ⟨e, he, hlookup⟩ := Option.bind_eq_some_iff.mp hoption
  rw [he, Option.bind_some] at hvalue
  refine ⟨e, he, Expr.lookup_of_intOption? hlookup, of_intOf? hvalue, fun h => ?_⟩
  exact absurd h.2 (by decide)

end Example

end Wdl
