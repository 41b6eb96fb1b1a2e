import Wdl.Builder.Events
import Wdl.Proofs.Grammar.Legible

/-!
What a tree leaves behind.

A walk over a part of an expression puts items into the expression around it and leaves nested
expressions waiting there.  `Tree.residue` computes both from the tree alone: the productions and
the texts of the tokens.  The places of a tree and the state of the builder do not enter into it, so
nested expressions are `placeless` here.  It follows the events of the builder production by
production, with the innermost open expression as its only state.

Constructs find the nested expressions that they take.  `Tree.Supplied` says that inside every node
that takes a nested expression at its end at least one is left waiting by its children.  Nothing
else is asked of a tree, so it is enough to look at each rule of the grammar by itself:
`Derived.supplied` holds of all trees that the grammar makes, whatever the texts of the tokens.
-/

namespace Wdl

/-! ## Items without places -/

/-- What an expression carries besides its items and does not depend on where it stands. -/
def ExprInfo.placeless (info : ExprInfo) : ExprInfo :=
  { span := ⟨0, 0⟩, options := info.options }

namespace Item

mutual

/-- An item without the places and nodes of nested expressions. -/
def placeless : Item → Item
  | .nested info items => .nested info.placeless (placelessList items)
  | .literal v => .literal v
  | .name n => .name n
  | .operator op => .operator op
  | .apply f n => .apply f n
  | .invalid s => .invalid s

def placelessList : List Item → List Item
  | [] => []
  | i :: is => placeless i :: placelessList is

end

theorem placelessList_eq_map (is : List Item) : placelessList is = is.map placeless := by
  induction is with
  | nil => rfl
  | cons i is ih => rw [placelessList, ih, List.map_cons]

@[simp] theorem placelessList_append (is js : List Item) :
    placelessList (is ++ js) = placelessList is ++ placelessList js := by
  simp only [placelessList_eq_map, List.map_append]

theorem placelessList_dropLast (is : List Item) :
    placelessList is.dropLast = (placelessList is).dropLast := by
  simp only [placelessList_eq_map, List.map_dropLast]

/-- Only a name is a name without its places. -/
theorem placeless_eq_name {i : Item} {n : String} : i.placeless = .name n ↔ i = .name n := by
  cases i <;> simp [placeless]

theorem getLast?_placelessList {is : List Item} {n : String} :
    (placelessList is).getLast? = some (.name n) ↔ is.getLast? = some (.name n) := by
  rw [placelessList_eq_map, List.getLast?_map]
  simp [Option.map_eq_some_iff, placeless_eq_name]

end Item

namespace Expr

/-- An expression without its place and its node, and those of nested expressions. -/
def placeless (e : Expr) : Expr :=
  ⟨e.info.placeless, Item.placelessList e.items⟩

/-- The expression with more options. -/
def give (e : Expr) (options : List (String × Value)) : Expr :=
  { e with info := { e.info with options := Assoc.update e.info.options options } }

end Expr

/-! ## Residues -/

/-- The items that were put into an expression, and the nested expressions that wait in it. -/
structure Residue where
  items : List Item := []
  waiting : List Expr := []

namespace Residue

def append (r s : Residue) : Residue :=
  ⟨r.items ++ s.items, r.waiting ++ s.waiting⟩

@[simp] theorem append_nil (r : Residue) : r.append {} = r := by
  simp [append]

@[simp] theorem nil_append (r : Residue) : ({} : Residue).append r = r := by
  simp [append]

theorem append_assoc (r s u : Residue) : (r.append s).append u = r.append (s.append u) := by
  simp [append]

/-- One item more. -/
def emit (r : Residue) (i : Item) : Residue :=
  { r with items := r.items ++ [i] }

/-- The last expressions that wait become items. -/
def take (r : Residue) (n : Nat) : Residue :=
  { items := r.items ++ (r.waiting.drop (r.waiting.length - n)).map Expr.toItem
    waiting := r.waiting.take (r.waiting.length - n) }

/-- The last expression that waits gets options. -/
def give (r : Residue) (options : List (String × Value)) : Residue :=
  match r.waiting.getLast? with
  | some e => { r with waiting := r.waiting.dropLast ++ [e.give options] }
  | none => r

/-- A name with a member is a longer name. -/
def join (r : Residue) (named : Bool) (member : String) : Residue :=
  match named, r.items.getLast? with
  | true, some (.name n) => { r with items := r.items.dropLast ++ [.name (n ++ "." ++ member)] }
  | _, _ => (r.emit (.literal (.string member))).emit (.apply "_get" 2)

theorem length_waiting_give (r : Residue) (options : List (String × Value)) :
    (r.give options).waiting.length = r.waiting.length := by
  unfold give
  split
  · next e he =>
    have hne : r.waiting ≠ [] := by
      rintro h
      rw [h] at he
      exact nomatch he
    have hpos := List.length_pos_iff.mpr hne
    simp only [List.length_append, List.length_dropLast, List.length_singleton]
    omega
  · rfl

@[simp] theorem waiting_join (r : Residue) (named : Bool) (member : String) :
    (r.join named member).waiting = r.waiting := by
  unfold join
  split <;> rfl

theorem items_join_ne_nil (r : Residue) (named : Bool) (member : String) :
    (r.join named member).items ≠ [] := by
  unfold join
  split
  · exact List.append_ne_nil_of_right_ne_nil _ (List.cons_ne_nil _ _)
  · exact List.append_ne_nil_of_right_ne_nil _ (List.cons_ne_nil _ _)

end Residue

/-- The options that a placeholder gives: of one that is given again the first counts, unknown ones
do not, and with a bad escape there are none. -/
def givenOptions : List Tree → List (String × Value) → Option (List (String × Value))
  | [], options => some options
  | t :: ts, options =>
    let name := t.childText 0
    if !Builder.placeholderOptions.contains name || Assoc.contains name options then
      givenOptions ts options
    else
      match t.children[1]? with
      | some value =>
        match Builder.optionValue? value with
        | some v => givenOptions ts (options ++ [(name, v)])
        | none => none
      | none => givenOptions ts options

theorem readOptions_given (b : Builder) (ts : List Tree) (o : Builder.OptionList) :
    (b.readOptions ts o).2.map Builder.OptionList.options = givenOptions ts o.options := by
  induction ts generalizing b o with
  | nil => rfl
  | cons t ts ih =>
    unfold Builder.readOptions givenOptions
    dsimp only
    by_cases hknown : (!Builder.placeholderOptions.contains (t.childText 0)) = true
    · rw [if_pos hknown, hknown, Bool.true_or, if_pos rfl]
      exact ih _ o
    · rw [if_neg hknown, Bool.eq_false_iff.mpr hknown, Bool.false_or]
      by_cases hagain : Assoc.contains (t.childText 0) o.options = true
      · rw [if_pos hagain, if_pos hagain]
        exact ih b _
      · rw [if_neg hagain, if_neg hagain]
        cases t.children[1]? with
        | none => exact ih b o
        | some value =>
          dsimp only
          cases Builder.optionValue? value with
          | none => rfl
          | some v => exact ih b _

namespace Residue

/-- What a node begins with: a struct literal with the name of the struct. -/
def opened (t : Tree) : Residue :=
  match t.production? with
  | some .object =>
    if t.childText 0 == "object" then {} else { items := [.literal (.string (t.childText 0))] }
  | _ => {}

/-- The end of a member of an object: its key and its value, or nothing if the key cannot be read.
-/
def closeEntry (r : Residue) (cs : List Tree) : Residue :=
  match cs with
  | .token k :: _ => (r.emit (.literal (.string k.text))).take 1
  | literal :: _ =>
    match Builder.literalText? literal with
    | some key => (r.emit (.literal (.string key))).take 1
    | none => r
  | [] => r

/-- What becomes of the residue of its children when a node ends. -/
def close (r : Residue) (t : Tree) : Residue :=
  match t.production? with
  | some .expr => { waiting := [⟨{ span := ⟨0, 0⟩ }, r.items⟩] }
  | some .exprOperand => { waiting := [⟨{ span := ⟨0, 0⟩ }, r.items⟩] }
  | some (.binary op) => r.emit (.operator (.binary op))
  | some .array => (r.take (t.count .expr)).emit (.apply "_array" (t.count .expr))
  | some .pair => (r.take (t.count .expr)).emit (.apply "_pair" (t.count .expr))
  | some .ifThenElse => (r.take (t.count .expr)).emit (.apply "_ifthenelse" (t.count .expr))
  | some .apply => (r.take (t.count .expr)).emit (.apply (t.childText 0) (t.count .expr))
  | some .booleanTrue => r.emit (.literal (.boolean true))
  | some .booleanFalse => r.emit (.literal (.boolean false))
  | some .null => r.emit (.literal .null)
  | some .int =>
    r.emit (.literal (.int (min (Text.natOfAscii (t.childText 0)) Builder.maxInt : Nat)))
  | some .float => r.emit (.literal (.float (Decimal.floatOfNumeral (t.childText 0))))
  | some .leftName => r.emit (.name (t.childText 0))
  | some .group => r.take 1
  | some .unaryPlus => r.take 1
  | some .negate => (r.take 1).emit (.operator .not)
  | some .unaryMinus => (r.take 1).emit (.operator .neg)
  | some .stringPart =>
    if (Text.decodeEscapes? t.tokenText).isSome then r.emit (.literal (.string t.tokenText)) else r
  | some .stringExprPart => (r.take 1).emit (.operator .str)
  | some .stringExprWithPart =>
    (r.emit (.operator (.binary .add))).emit (.operator (.binary .add))
  | some .placeholder =>
    match givenOptions (t.childrenOf .placeholderOption) [] with
    | some options => r.give options
    | none => r
  | some .mapEntry => r.take 1
  | some .map => r.emit (.apply "_map" (2 * t.count .mapEntry))
  | some .objectEntry => r.closeEntry t.children
  | some .object =>
    if t.childText 0 == "object" then r.emit (.apply "_object" (2 * t.count .objectEntry))
    else r.emit (.apply "_struct" (2 * t.count .objectEntry + 1))
  | some .index => (r.take 1).emit (.apply "_at" 2)
  | some .member => r.join ((t.children.head?.map Builder.isName).getD false) (t.childText 1)
  | _ => r

end Residue

namespace Tree

mutual

/-- What a walk over a tree leaves in the expression around it. -/
def residue : Tree → Residue
  | .token _ => {}
  | .node p e cs =>
    ((Residue.opened (.node p e cs)).append (residueList cs)).close (.node p e cs)

def residueList : List Tree → Residue
  | [] => {}
  | c :: cs => (residue c).append (residueList cs)

end

theorem residueList_append (cs ds : List Tree) :
    residueList (cs ++ ds) = (residueList cs).append (residueList ds) := by
  induction cs with
  | nil => rw [List.nil_append, residueList, Residue.nil_append]
  | cons c cs ih => rw [List.cons_append, residueList, residueList, ih, Residue.append_assoc]

/-- A name leaves at least one item. -/
theorem residue_items_ne_nil {t : Tree} (h : Builder.isName t = true) : t.residue.items ≠ [] := by
  cases t with
  | token k => exact nomatch h
  | node p e cs =>
    have hp : p = .leftName ∨ p = .member := by
      simpa [Builder.isName, isA, production?] using h
    rcases hp with rfl | rfl
    · exact List.append_ne_nil_of_right_ne_nil _ (List.cons_ne_nil _ _)
    · exact Residue.items_join_ne_nil _ _ _

end Tree

/-! ## Constructs and the nested expressions that they take -/

/-- The number of nested expressions that a production takes at its end, other than by counting. -/
def Production.demand : Production → Nat
  | .group | .unaryPlus | .negate | .unaryMinus | .stringExprPart | .mapEntry | .index
  | .objectEntry | .placeholder => 1
  | _ => 0

namespace Tree

mutual

/-- All nodes find the nested expressions that they take among those that their children leave. -/
def Supplied : Tree → Prop
  | .token _ => True
  | .node p _ cs => p.demand ≤ (residueList cs).waiting.length ∧ SuppliedList cs

def SuppliedList : List Tree → Prop
  | [] => True
  | c :: cs => Supplied c ∧ SuppliedList cs

end

theorem suppliedList_iff {cs : List Tree} : SuppliedList cs ↔ ∀ c ∈ cs, c.Supplied := by
  induction cs with
  | nil => simp [SuppliedList]
  | cons c cs ih => rw [SuppliedList, ih, List.forall_mem_cons]

/-- Nested expressions that are counted are left waiting, too. -/
theorem count_le_waiting (cs : List Tree) :
    (cs.filter (·.isA .expr)).length ≤ (residueList cs).waiting.length := by
  induction cs with
  | nil => exact Nat.zero_le _
  | cons c cs ih =>
    have hrest : (residueList (c :: cs)).waiting.length =
        c.residue.waiting.length + (residueList cs).waiting.length := by
      simp [residueList, Residue.append]
    rw [hrest, List.filter_cons]
    split
    · next hexpr =>
      have hone : c.residue.waiting.length = 1 := by
        cases c with
        | token k => cases hexpr
        | node p e ds =>
          obtain rfl : p = .expr := by simpa [isA, production?] using hexpr
          rfl
      rw [List.length_cons]
      omega
    · omega

end Tree

namespace Grammar

open Parse

/-- A tree that the grammar makes, for whatever nonterminal and from whatever tokens. -/
def Derived (t : Tree) : Prop :=
  ∃ (e : Parse.Entry) (ks : List Token) (verbatim : Bool), e.Derives rules ks ∧ t ∈ e.trees verbatim

theorem IsTree.derived {n : Nonterminal} {t : Tree} (h : IsTree n t) : Derived t := by
  obtain ⟨e, ks, hd, -, ht, -⟩ := h
  exact ⟨e, ks, false, hd, ht ▸ List.mem_singleton.mpr rfl⟩

/-- A number of nested expressions that the trees of a nonterminal leave waiting at least. -/
def supply : Nonterminal → Nat
  | .expr | .exprOperand | .placeholder => 1
  | _ => 0

def supplyOf : Symbol → Nat
  | .terminal _ => 0
  | .nonterminal n => supply n

/-- Whether a rule meets the demand of its production, and hands on as much as it has to. -/
def meetsDemand (r : Rule) : Bool :=
  match r.production with
  | some p =>
    p.demand ≤ (r.rhs.map supplyOf).sum &&
      (supply r.lhs == 0 ||
        (supply r.lhs == 1 && (p == .expr || p == .exprOperand || p == .placeholder)))
  | none => supply r.lhs ≤ (r.rhs.map supplyOf).sum

theorem rules_meetDemand : rules.all meetsDemand = true := by decide +kernel

/-- The trees of a nonterminal are supplied, and leave as much waiting as they should. -/
def Sated (n : Nonterminal) (ts : List Tree) : Prop :=
  (∀ t ∈ ts, t.Supplied) ∧ supply n ≤ (Tree.residueList ts).waiting.length

variable {good : Token → Prop}

theorem sated_of_handed {v : Bool} {xs : List Symbol} {ts : List Tree}
    (h : HandedAll good Sated v xs ts) :
    (xs.map supplyOf).sum ≤ (Tree.residueList ts).waiting.length := by
  induction xs generalizing ts with
  | nil => exact Nat.zero_le _
  | cons x xs ih =>
    obtain ⟨front, back, hfront, hback, rfl⟩ := h
    have hone : supplyOf x ≤ (Tree.residueList front).waiting.length := by
      cases x with
      | terminal a => exact Nat.zero_le _
      | nonterminal n => exact hfront.2
    have hrest := ih hback
    have hlength : (Tree.residueList (front ++ back)).waiting.length =
        (Tree.residueList front).waiting.length + (Tree.residueList back).waiting.length := by
      simp [Tree.residueList_append, Residue.append]
    rw [List.map_cons, List.sum_cons, hlength]
    omega

theorem closed_sated : Closed good Sated rules := by
  intro rule hrule ts extent hts
  have hmeets := List.all_eq_true.mp rules_meetDemand rule hrule
  have hsupplied := forall_of_handed (P := Tree.Supplied) (fun _ => trivial) (fun _ _ h => h.1) hts
  have hsum := sated_of_handed hts
  unfold meetsDemand at hmeets
  unfold wrap
  cases hp : rule.production with
  | none =>
    rw [hp] at hmeets
    have hmeets : supply rule.lhs ≤ (rule.rhs.map supplyOf).sum := by simpa using hmeets
    exact ⟨hsupplied, Nat.le_trans hmeets hsum⟩
  | some p =>
    rw [hp] at hmeets
    simp only [Bool.and_eq_true, Bool.or_eq_true, decide_eq_true_eq, beq_iff_eq] at hmeets
    obtain ⟨hdemand, hhands⟩ := hmeets
    have hdemand := Nat.le_trans hdemand hsum
    refine ⟨List.forall_mem_singleton.mpr ⟨hdemand, Tree.suppliedList_iff.mpr hsupplied⟩, ?_⟩
    rw [Tree.residueList, Tree.residueList, Residue.append_nil]
    rcases hhands with hzero | ⟨hone, (rfl | rfl) | rfl⟩
    · rw [hzero]
      exact Nat.zero_le _
    · exact Nat.le_of_eq hone
    · exact Nat.le_of_eq hone
    · rw [hone]
      have hwaiting : (Tree.node .placeholder extent ts).residue.waiting.length =
          (Tree.residueList ts).waiting.length := by
        rw [Tree.residue]
        show (((Residue.append {} (Tree.residueList ts)).close _).waiting).length = _
        rw [Residue.nil_append]
        unfold Residue.close
        dsimp only [Tree.production?]
        split
        · exact Residue.length_waiting_give _ _
        · rfl
      rw [hwaiting]
      exact hdemand

/-- Constructs find the nested expressions that they take in all trees that the grammar makes. -/
theorem Derived.supplied {t : Tree} (h : Derived t) : t.Supplied := by
  obtain ⟨e, ks, verbatim, hd, ht⟩ := h
  have hclosed : Closed (fun _ => True) Sated rules := closed_sated
  have hshape := hd.shape hclosed (fun _ _ => trivial) verbatim
  cases e with
  | token k => exact Entry.forall_trees_token (P := Tree.Supplied) trivial verbatim t ht
  | reduced n extent ts => exact hshape.1 t ht

end Grammar

end Wdl
