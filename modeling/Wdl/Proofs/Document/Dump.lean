import Mathlib.Data.List.Forall2
import Mathlib.Data.List.Perm.Basic
import Wdl.Document.Dump
import Wdl.Proofs.Compile.Emission
import Wdl.Proofs.Document.Traversal
import Wdl.Value.Datum

/-!
What the data of an expression tell.

In the data of a tree a nested expression is shown twice: among the items of the expression around
it, without its span and its options, and as a child, with them.  Put together the two give back the
whole tree, provided that the nested expressions are the children: from the children, which are
smaller trees, come the nested expressions in their order, and the data of the items say where among
the other items they stand.
-/

namespace Wdl

/-! ## Lists that go together -/

theorem rel_congr {α : Type} {R S : α → α → Prop} {x y : Option α}
    (h : ∀ c ∈ x, ∀ d ∈ y, R c d ↔ S c d) : Option.Rel R x y ↔ Option.Rel S x y := by
  constructor
  · intro hR
    cases hR with
    | none => exact .none
    | some hR => exact .some ((h _ rfl _ rfl).mp hR)
  · intro hS
    cases hS with
    | none => exact .none
    | some hS => exact .some ((h _ rfl _ rfl).mpr hS)

/-- Lists go together if they do so in all places. -/
theorem forall₂_iff_getElem? {α : Type} {R : α → α → Prop} {xs ys : List α} :
    List.Forall₂ R xs ys ↔ ∀ i : Nat, Option.Rel R xs[i]? ys[i]? := by
  constructor
  · intro h i
    induction h generalizing i with
    | nil => exact .none
    | cons hxy _ ih =>
      cases i with
      | zero => exact .some hxy
      | succ i => exact ih i
  · intro h
    induction xs generalizing ys with
    | nil =>
      cases ys with
      | nil => exact .nil
      | cons y ys => exact nomatch h 0
    | cons x xs ih =>
      cases ys with
      | nil => exact nomatch h 0
      | cons y ys =>
        cases h 0 with
        | some hxy => exact .cons hxy (ih fun i => h (i + 1))

/-! ## Data up to the order of members -/

namespace Json

/-- Data that are the same up to the order in which objects have their members. -/
inductive Same : Json → Json → Prop
  | null : Same .null .null
  | bool (b : Bool) : Same (.bool b) (.bool b)
  | int (n : Int) : Same (.int n) (.int n)
  | float (x : Float) : Same (.float x) (.float x)
  | str (s : String) : Same (.str s) (.str s)
  | arr {xs ys : List Json} : List.Forall₂ Same xs ys → Same (.arr xs) (.arr ys)
  | obj {xs ys zs : List (String × Json)} : zs.Perm ys → xs.map Prod.fst = zs.map Prod.fst →
      List.Forall₂ Same (xs.map Prod.snd) (zs.map Prod.snd) → Same (.obj xs) (.obj ys)

mutual

theorem Same.refl : (j : Json) → Same j j
  | .null => .null
  | .bool b => .bool b
  | .int n => .int n
  | .float x => .float x
  | .str s => .str s
  | .arr xs => .arr (refl_items xs)
  | .obj xs => .obj (.refl xs) rfl (refl_members xs)

theorem Same.refl_items : (xs : List Json) → List.Forall₂ Same xs xs
  | [] => .nil
  | x :: xs => .cons (refl x) (refl_items xs)

theorem Same.refl_members : (xs : List (String × Json)) →
    List.Forall₂ Same (xs.map Prod.snd) (xs.map Prod.snd)
  | [] => .nil
  | (_, x) :: xs => .cons (refl x) (refl_members xs)

end

theorem Same.str_inj {s t : String} (h : Same (.str s) (.str t)) : s = t := by
  cases h
  rfl

theorem Same.int_inj {m n : Int} (h : Same (.int m) (.int n)) : m = n := by
  cases h
  rfl

variable {xs ys : List (String × Json)} {k : String}

/-- The members of the same data have the same keys and the same values. -/
theorem Same.exists_member (h : Same (.obj xs) (.obj ys)) {x : Json} (hx : (k, x) ∈ xs) :
    ∃ y, (k, y) ∈ ys ∧ Same x y := by
  cases h with
  | @obj _ _ zs hperm hkeys hvalues =>
    have hz : ∃ z, (k, z) ∈ zs ∧ Same x z := by
      clear hperm
      induction xs generalizing zs with
      | nil => exact absurd hx List.not_mem_nil
      | cons m xs ih =>
        obtain ⟨m', zs, rfl⟩ : ∃ m' zs', zs = m' :: zs' := by
          cases zs with
          | nil => exact nomatch hkeys
          | cons m' zs => exact ⟨m', zs, rfl⟩
        obtain ⟨hkey, hkeys⟩ := List.cons.inj hkeys
        rw [List.map_cons, List.map_cons, List.forall₂_cons] at hvalues
        obtain rfl | hx := List.mem_cons.mp hx
        · refine ⟨m'.2, ?_, hvalues.1⟩
          rw [show k = m'.1 from hkey]
          exact List.mem_cons_self
        · obtain ⟨z, hz, hsame⟩ := ih hx hkeys hvalues.2
          exact ⟨z, List.mem_cons_of_mem _ hz, hsame⟩
    obtain ⟨z, hz, hsame⟩ := hz
    exact ⟨z, hperm.mem_iff.mp hz, hsame⟩

theorem Same.keys (h : Same (.obj xs) (.obj ys)) :
    (xs.map Prod.fst).Perm (ys.map Prod.fst) := by
  cases h with
  | obj hperm hkeys hvalues =>
    rw [hkeys]
    exact hperm.map Prod.fst

/-- The values of members whose keys are those of no others. -/
theorem Same.member (h : Same (.obj xs) (.obj ys)) {x y : Json} (hx : (k, x) ∈ xs)
    (hy : ∀ z, (k, z) ∈ ys → z = y) : Same x y := by
  obtain ⟨z, hz, hsame⟩ := h.exists_member hx
  exact hy z hz ▸ hsame

end Json

/-! ## Values -/

/-- The content of a value, if it is no file, suggests the value. -/
theorem Value.infer_json {v : Value} (h : ∀ s, v ≠ .file s) : infer v.json = .ok v := by
  cases v with
  | file s => exact absurd rfl (h s)
  | _ => rfl

/-- The content of a value, up to the order of members, is just that. -/
theorem Value.json_same {v : Value} {j : Json} (h : v.json.Same j) : v.json = j := by
  cases v <;> cases h <;> rfl

/-- A value is given by its content and its type. -/
theorem Value.eq_of_json {v w : Value} (htype : v.type.text = w.type.text)
    (hjson : v.json = w.json) : v = w := by
  cases v <;> cases w <;>
    simp_all [Value.type, Value.json, Ty.boolean, Ty.int, Ty.float, Ty.string, Ty.file, Ty.null,
      Ty.text, Base.name]

theorem BinaryOp.ofName?_name (op : BinaryOp) : Operator.ofName? op.name = some (.binary op) := by
  cases op <;> decide

/-- An operator is given by its name. -/
theorem Operator.name_injective {op op' : Operator} (h : op.name = op'.name) : op = op' := by
  have hname (op : Operator) : ofName? op.name = some op := by
    cases op with
    | binary op => exact op.ofName?_name
    | _ => decide
  have heq := (hname op).symm.trans ((congrArg ofName? h).trans (hname op'))
  exact Option.some.inj heq

/-! ## Expressions -/

/-- The span and the options of two expressions are the same; options are in any order. -/
structure ExprInfo.Alike (i j : ExprInfo) : Prop where
  span : i.span = j.span
  options : i.options.Perm j.options

/-- Items that are equal, or nested expressions with the same spans and options and with items of
which the same is true. -/
inductive Item.Alike : Item → Item → Prop
  | leaf {i : Item} : i.nested? = none → Alike i i
  | nested {i j : ExprInfo} {xs ys : List Item} :
      i.Alike j → List.Forall₂ Alike xs ys → Alike (.nested i xs) (.nested j ys)

/-- Two expressions that differ at most in their positions and in the order of options. -/
def Expr.Alike (d e : Expr) : Prop := d.toItem.Alike e.toItem

theorem Expr.alike_iff {d e : Expr} :
    d.Alike e ↔ d.info.Alike e.info ∧ List.Forall₂ Item.Alike d.items e.items := by
  obtain ⟨info, items⟩ := d
  obtain ⟨info', items'⟩ := e
  constructor
  · intro h
    cases h with
    | leaf h => exact nomatch h
    | nested hinfo hitems => exact ⟨hinfo, hitems⟩
  · rintro ⟨hinfo, hitems⟩
    exact .nested hinfo hitems

theorem Item.jsonList_eq_map (items : List Item) : jsonList items = items.map json := by
  induction items with
  | nil => rfl
  | cons i items ih => rw [jsonList, ih, List.map_cons]

namespace Item

/-- The first key of the data of an item, which tells one kind of items from another. -/
def key : Item → String
  | .literal _ => "value"
  | .name _ => "identifier"
  | .operator _ => "operator"
  | .apply _ _ => "apply"
  | .nested _ _ => "expression"
  | .invalid _ => ""

variable {i j : Item}

/-- Items with the same data are of one kind. -/
theorem key_of_json (h : i.json.Same j.json) : i.key = j.key := by
  cases i with
  | invalid s =>
    cases j with
    | invalid t => rfl
    | _ => exact nomatch h
  | _ =>
    cases j with
    | invalid t => exact nomatch h
    | _ =>
      -- the data of items of two kinds have no first key in common
      first
        | rfl
        | obtain ⟨y, hy, -⟩ := h.exists_member List.mem_cons_self
          simp at hy

/-- An item that is no nested expression is given by its data. -/
theorem eq_of_json (hi : i.nested? = none) (h : i.json.Same j.json) : i = j := by
  have hkey := key_of_json h
  cases i with
  | nested info items => exact nomatch hi
  | literal v =>
    cases j with
    | literal w =>
      have hvalue : v.json.Same w.json :=
        h.member (k := "value") (by simp) (by simp)
      have htype : Json.Same (.str v.type.text) (.str w.type.text) :=
        h.member (k := "type") (by simp) (by simp)
      rw [Value.eq_of_json htype.str_inj (Value.json_same hvalue)]
    | _ => simp [key] at hkey
  | name n =>
    cases j with
    | name m =>
      have hname : Json.Same (.str n) (.str m) :=
        h.member (k := "identifier") (by simp) (by simp)
      rw [hname.str_inj]
    | _ => simp [key] at hkey
  | operator op =>
    cases j with
    | operator op' =>
      have hname : Json.Same (.str op.name) (.str op'.name) :=
        h.member (k := "operator") (by simp) (by simp)
      rw [Operator.name_injective hname.str_inj]
    | _ => simp [key] at hkey
  | apply f n =>
    cases j with
    | apply g m =>
      have hfunction : Json.Same (.str f) (.str g) :=
        h.member (k := "apply") (by simp) (by simp)
      have harity : Json.Same (.int n) (.int m) :=
        h.member (k := "arity") (by simp) (by simp)
      rw [hfunction.str_inj, Int.ofNat.inj harity.int_inj]
    | _ => simp [key] at hkey
  | invalid s =>
    cases j with
    | invalid t => rw [Json.Same.str_inj h]
    | _ => simp [key] at hkey

/-- The data of a nested expression are those of a nested expression only. -/
theorem exists_nested_of_json {info : ExprInfo} {items : List Item}
    (h : (nested info items).json.Same j.json) : ∃ info' items', j = .nested info' items' := by
  have hkey := key_of_json h
  cases j with
  | nested info' items' => exact ⟨info', items', rfl⟩
  | _ => simp [key] at hkey

/-- Where the items of two expressions have the same data, and those nested among them are alike,
all are alike. -/
theorem alike_of_json {xs ys : List Item}
    (h : List.Forall₂ Json.Same (xs.map json) (ys.map json))
    (hnested : List.Forall₂ Expr.Alike (xs.filterMap nested?) (ys.filterMap nested?)) :
    List.Forall₂ Item.Alike xs ys := by
  induction xs generalizing ys with
  | nil =>
    cases ys with
    | nil => exact .nil
    | cons y ys => exact nomatch h
  | cons x xs ih =>
    cases ys with
    | nil => exact nomatch h
    | cons y ys =>
      rw [List.map_cons, List.map_cons, List.forall₂_cons] at h
      obtain ⟨hxy, h⟩ := h
      cases hx : x.nested? with
      | none =>
        obtain rfl := eq_of_json hx hxy
        rw [List.filterMap_cons_none hx, List.filterMap_cons_none hx] at hnested
        exact .cons (.leaf hx) (ih h hnested)
      | some e =>
        cases x with
        | nested info items =>
          obtain ⟨info', items', rfl⟩ := exists_nested_of_json hxy
          rw [List.filterMap_cons_some (f := nested?) (b := ⟨info, items⟩) rfl,
            List.filterMap_cons_some (f := nested?) (b := ⟨info', items'⟩) rfl,
            List.forall₂_cons] at hnested
          exact .cons hnested.1 (ih h hnested.2)
        | _ => exact nomatch hx

mutual

/-- Items that are alike have the same data. -/
theorem Alike.json : (i : Item) → {j : Item} → i.Alike j → i.json.Same j.json
  | .nested _ items, _, h => by
    cases h with
    | leaf h => exact nomatch h
    | nested hinfo hitems =>
      have hsame := Alike.json_items items hitems
      refine .obj (.refl _) rfl (.cons (.arr ?_) .nil)
      rwa [jsonList_eq_map, jsonList_eq_map]
  | .literal v, _, h => by
    cases h
    exact .refl _
  | .name n, _, h => by
    cases h
    exact .refl _
  | .operator op, _, h => by
    cases h
    exact .refl _
  | .apply f n, _, h => by
    cases h
    exact .refl _
  | .invalid s, _, h => by
    cases h
    exact .refl _

theorem Alike.json_items : (xs : List Item) → {ys : List Item} → List.Forall₂ Item.Alike xs ys →
    List.Forall₂ Json.Same (xs.map Item.json) (ys.map Item.json)
  | [], _, h => by
    cases h
    exact .nil
  | x :: xs, _, h => by
    cases h with
    | cons hx hxs => exact .cons (Alike.json x hx) (Alike.json_items xs hxs)

end

end Item

/-! ## Nodes -/

/-- The data of an expression with the given data below it. -/
def Expr.dumped (e : Expr) (below : List Json) : List (String × Json) :=
  [("kind", .str Kind.expression.label), ("start", .int e.info.span.start),
    ("end", .int e.info.span.stop), ("rpn", .arr (e.items.map Item.json))] ++
  ((if e.info.options.isEmpty then []
    else [("placeholder_options", .obj (e.info.options.map fun o => (o.1, o.2.json)))]) ++
  if below.isEmpty then [] else [("children", .arr below)])

/-- None of some options is a file. -/
def Bindings.Fileless (options : Bindings) : Prop :=
  ∀ o ∈ options, ∀ s, o.2 ≠ .file s

namespace Expr

variable {d e : Expr} {xs ys : List Json}

/-- Members with the contents of values are the same as other members only if they are equal. -/
theorem members_eq {xs zs : List (String × Json)} (hxs : ∀ m ∈ xs, ∃ v : Value, m.2 = v.json)
    (hkeys : xs.map Prod.fst = zs.map Prod.fst)
    (hvalues : List.Forall₂ Json.Same (xs.map Prod.snd) (zs.map Prod.snd)) : xs = zs := by
  induction xs generalizing zs with
  | nil => exact (List.map_eq_nil_iff.mp hkeys.symm).symm
  | cons m xs ih =>
    obtain ⟨⟨v, hv⟩, hxs⟩ := List.forall_mem_cons.mp hxs
    cases zs with
    | nil => exact nomatch hkeys
    | cons m' zs =>
      obtain ⟨hkey, hkeys⟩ := List.cons.inj hkeys
      rw [List.map_cons, List.map_cons, List.forall₂_cons] at hvalues
      have hvalue : m.2 = m'.2 := hv.trans (Value.json_same (hv ▸ hvalues.1))
      rw [Prod.ext hkey hvalue, ih hxs hkeys hvalues.2]

/-- Options other than files are given by their data. -/
theorem options_of_json {options options' : Bindings} (hfileless : options.Fileless)
    (hfileless' : options'.Fileless)
    (h : Json.Same (.obj (options.map fun o => (o.1, o.2.json)))
      (.obj (options'.map fun o => (o.1, o.2.json)))) : options.Perm options' := by
  cases h with
  | @obj _ _ zs hperm hkeys hvalues =>
    have hvalue : ∀ m ∈ options.map fun o => (o.1, o.2.json), ∃ v : Value, m.2 = v.json := by
      intro m hm
      obtain ⟨o, -, rfl⟩ := List.mem_map.mp hm
      exact ⟨o.2, rfl⟩
    obtain rfl := members_eq hvalue hkeys hvalues
    -- the values can be inferred from the data
    have hread {l : Bindings} (hl : l.Fileless) :
        (l.map fun o => (o.1, o.2.json)).map (fun m => (m.1, Value.infer m.2)) =
          l.map fun o => (o.1, .ok o.2) := by
      rw [List.map_map]
      exact List.map_congr_left fun o ho => congrArg _ (Value.infer_json (hl o ho))
    have hinferred := hperm.map fun m => (m.1, Value.infer m.2)
    rw [hread hfileless, hread hfileless'] at hinferred
    refine (List.map_perm_map_iff fun o o' heq => ?_).mp hinferred
    obtain ⟨hname, hvalue⟩ := Prod.mk.inj heq
    exact Prod.ext hname (Except.ok.inj hvalue)

/-- The data of an expression tell its span, its options, the data of its items and those below. -/
theorem alike_of_dumped (hd : Bindings.Fileless d.info.options)
    (he : Bindings.Fileless e.info.options)
    (h : Json.Same (.obj (d.dumped xs)) (.obj (e.dumped ys))) :
    d.info.Alike e.info ∧
      List.Forall₂ Json.Same (d.items.map Item.json) (e.items.map Item.json) ∧
      List.Forall₂ Json.Same xs ys := by
  have hstart : Json.Same (.int d.info.span.start) (.int e.info.span.start) :=
    h.member (k := "start") (by simp [dumped]) (by simp [dumped])
  have hstop : Json.Same (.int d.info.span.stop) (.int e.info.span.stop) :=
    h.member (k := "end") (by simp [dumped]) (by simp [dumped])
  have hrpn : Json.Same (.arr (d.items.map Item.json)) (.arr (e.items.map Item.json)) :=
    h.member (k := "rpn") (by simp [dumped]) (by simp [dumped])
  have hoptions : d.info.options = [] ↔ e.info.options = [] := by
    have := h.keys.mem_iff (a := "placeholder_options")
    simpa [dumped, not_iff_not] using this
  have hbelow : xs = [] ↔ ys = [] := by
    have := h.keys.mem_iff (a := "children")
    simpa [dumped, not_iff_not] using this
  refine ⟨⟨congrArg₂ Span.mk hstart.int_inj hstop.int_inj, ?_⟩, ?_, ?_⟩
  · by_cases hnone : d.info.options = []
    · rw [hnone, hoptions.mp hnone]
    · exact options_of_json hd he (h.member (k := "placeholder_options") (by simp [dumped, hnone])
        (by simp [dumped]))
  · cases hrpn with
    | arr hitems => exact hitems
  · by_cases hnone : xs = []
    · rw [hnone, hbelow.mp hnone]
      exact .nil
    · have hchildren : Json.Same (.arr xs) (.arr ys) :=
        h.member (k := "children") (by simp [dumped, hnone]) (by simp [dumped])
      cases hchildren with
      | arr hbelow => exact hbelow

/-- The data of an expression are determined by these. -/
theorem dumped_of_alike (hinfo : d.info.Alike e.info)
    (hitems : List.Forall₂ Json.Same (d.items.map Item.json) (e.items.map Item.json))
    (hbelow : List.Forall₂ Json.Same xs ys) :
    Json.Same (.obj (d.dumped xs)) (.obj (e.dumped ys)) := by
  obtain ⟨hspan, hoptions⟩ := hinfo
  have hempty : e.info.options.isEmpty = d.info.options.isEmpty := by
    rw [Bool.eq_iff_iff, List.isEmpty_iff_length_eq_zero, List.isEmpty_iff_length_eq_zero,
      hoptions.length_eq]
  have hlast : ys.isEmpty = xs.isEmpty := by
    rw [Bool.eq_iff_iff, List.isEmpty_iff_length_eq_zero, List.isEmpty_iff_length_eq_zero,
      hbelow.length_eq]
  have hdata : Json.Same (.obj (d.info.options.map fun o => (o.1, o.2.json)))
      (.obj (e.info.options.map fun o => (o.1, o.2.json))) :=
    .obj (hoptions.map _) rfl (Json.Same.refl_members _)
  unfold dumped
  rw [hempty, hlast, ← hspan]
  refine .obj (.refl _) ?_
    (.cons (.str _) (.cons (.int _) (.cons (.int _) (.cons (.arr hitems) ?_))))
  · cases d.info.options.isEmpty <;> cases xs.isEmpty <;> rfl
  · cases d.info.options.isEmpty <;> cases xs.isEmpty
    · exact .cons hdata (.cons (.arr hbelow) .nil)
    · exact .cons hdata .nil
    · exact .cons (.arr hbelow) .nil
    · exact .nil

end Expr

namespace Ast

/-- The expression of a node that is one. -/
def expr? (a : Ast) : Option Expr :=
  a.node.expr?.map fun e => { e with info := { e.info with node := some a.id } }

/-- All nodes of a tree are expressions, and those nested among the items of each are its children
in order. -/
def Woven (a : Ast) : Prop :=
  ∀ place s, a.sub? place = some s →
    ∃ e, s.expr? = some e ∧ e.nested.map some = s.children.map expr?

/-- No option of an expression in a tree is a file. -/
def Fileless (a : Ast) : Prop :=
  ∀ place s e, a.sub? place = some s → s.expr? = some e → Bindings.Fileless e.info.options

/-- Two trees have expressions in the same places, and they are alike. -/
def Alike (a b : Ast) : Prop :=
  ∀ place, Option.Rel Expr.Alike ((a.sub? place).bind expr?) ((b.sub? place).bind expr?)

variable {a b : Ast} {e : Expr}

theorem jsonList_eq_map (cs : List Ast) : jsonList cs = cs.map json := by
  induction cs with
  | nil => rfl
  | cons c cs ih => rw [jsonList, ih, List.map_cons]

theorem json_of_expr? (h : a.expr? = some e) : a.json = .obj (e.dumped (a.children.map json)) := by
  obtain ⟨id, ⟨body, span, position, parent⟩, cs⟩ := a
  cases body with
  | expression x =>
    obtain ⟨items, options, parts⟩ := x
    obtain rfl := Option.some.inj h
    rw [json, jsonList_eq_map]
    unfold Expr.dumped
    rw [← Item.jsonList_eq_map]
    cases options <;> cases cs <;> rfl
  | _ => exact nomatch h

/-! ## Trees -/

theorem Woven.child (h : a.Woven) {c : Ast} (hc : c ∈ a.children) : c.Woven :=
  ((forall_sub?_iff.mp h).2 c hc)

theorem Fileless.child (h : a.Fileless) {c : Ast} (hc : c ∈ a.children) : c.Fileless := by
  obtain ⟨i, hi⟩ := List.mem_iff_getElem?.mp hc
  intro place s e hs he
  exact h (i :: place) s e (by rw [sub?_cons, hi, Option.bind_some, hs]) he

/-- Trees are alike if their expressions are and the trees below them. -/
theorem alike_iff {d : Expr} (hd : a.expr? = some d) (he : b.expr? = some e)
    (ha : ∀ c ∈ a.children, c.expr?.isSome = true)
    (hb : ∀ c ∈ b.children, c.expr?.isSome = true) :
    a.Alike b ↔ d.Alike e ∧ List.Forall₂ Alike a.children b.children := by
  have hroot : Option.Rel Expr.Alike ((a.sub? []).bind expr?) ((b.sub? []).bind expr?) ↔
      d.Alike e := by
    rw [sub?_nil, sub?_nil, Option.bind_some, Option.bind_some, hd, he]
    exact ⟨fun h => by cases h; assumption, .some⟩
  have hbelow (a : Ast) (i : Nat) (place : List Nat) : (a.sub? (i :: place)).bind expr? =
      a.children[i]?.bind fun c => (c.sub? place).bind expr? := by
    rw [sub?_cons, Option.bind_assoc]
  rw [forall₂_iff_getElem?]
  constructor
  · intro h
    refine ⟨hroot.mp (h []), fun i => ?_⟩
    have hchild (place : List Nat) := h (i :: place)
    simp only [hbelow] at hchild
    cases hc : a.children[i]? with
    | none =>
      cases hc' : b.children[i]? with
      | none => exact .none
      | some c' =>
        obtain ⟨x, hx⟩ := Option.isSome_iff_exists.mp (hb c' (List.mem_of_getElem? hc'))
        have hnone := hchild []
        rw [hc, hc', Option.bind_some, sub?_nil, Option.bind_some, hx] at hnone
        exact nomatch hnone
    | some c =>
      cases hc' : b.children[i]? with
      | none =>
        obtain ⟨x, hx⟩ := Option.isSome_iff_exists.mp (ha c (List.mem_of_getElem? hc))
        have hnone := hchild []
        rw [hc, hc', Option.bind_some, sub?_nil, Option.bind_some, hx] at hnone
        exact nomatch hnone
      | some c' =>
        refine .some fun place => ?_
        have hsome := hchild place
        rwa [hc, hc'] at hsome
  · rintro ⟨hroot', hchildren⟩ place
    cases place with
    | nil => exact hroot.mpr hroot'
    | cons i place =>
      rw [hbelow, hbelow]
      have hi := hchildren i
      generalize a.children[i]? = x, b.children[i]? = y at hi
      cases hi with
      | none => exact .none
      | some hcd => exact hcd place

/-- The children of a node are expressions if they are nested among its items. -/
theorem isSome_of_nested {d : Expr} (h : d.nested.map some = a.children.map expr?) :
    ∀ c ∈ a.children, c.expr?.isSome = true := by
  intro c hc
  have hmem : c.expr? ∈ d.nested.map some := h ▸ List.mem_map_of_mem hc
  obtain ⟨x, -, hx⟩ := List.mem_map.mp hmem
  rw [← hx]
  rfl

/-- Where children are alike, so are the expressions nested among the items. -/
theorem nested_alike {d : Expr} (hd : d.nested.map some = a.children.map expr?)
    (he : e.nested.map some = b.children.map expr?)
    (h : List.Forall₂ Alike a.children b.children) :
    List.Forall₂ Expr.Alike d.nested e.nested := by
  have hexprs : List.Forall₂ (Option.Rel Expr.Alike) (a.children.map expr?)
      (b.children.map expr?) := by
    rw [List.forall₂_map_left_iff, List.forall₂_map_right_iff]
    refine h.imp fun c c' hcc => ?_
    have hroot := hcc []
    rwa [sub?_nil, sub?_nil, Option.bind_some, Option.bind_some] at hroot
  rw [← hd, ← he, List.forall₂_map_left_iff, List.forall₂_map_right_iff] at hexprs
  exact hexprs.imp fun _ _ h => by
    cases h
    assumption

/-- The data of a tree of expressions determine it. -/
theorem json_same_iff (ha : a.Woven) (hb : b.Woven) (hfa : a.Fileless) (hfb : b.Fileless) :
    a.json.Same b.json ↔ a.Alike b := by
  induction a using childrenInduction generalizing b with
  | h a ih =>
    obtain ⟨d, hd, hnested⟩ := ha [] a a.sub?_nil
    obtain ⟨e, he, hnested'⟩ := hb [] b b.sub?_nil
    have hchildren : List.Forall₂ Json.Same (a.children.map json) (b.children.map json) ↔
        List.Forall₂ Alike a.children b.children := by
      rw [List.forall₂_map_left_iff, List.forall₂_map_right_iff, forall₂_iff_getElem?,
        forall₂_iff_getElem?]
      refine forall_congr' fun i => rel_congr fun c hc c' hc' => ?_
      have hmem := List.mem_of_getElem? hc
      have hmem' := List.mem_of_getElem? hc'
      exact ih c hmem (ha.child hmem) (hb.child hmem') (hfa.child hmem) (hfb.child hmem')
    rw [json_of_expr? hd, json_of_expr? he,
      alike_iff hd he (isSome_of_nested hnested) (isSome_of_nested hnested'), Expr.alike_iff]
    constructor
    · intro h
      obtain ⟨hinfo, hrpn, hbelow⟩ :=
        Expr.alike_of_dumped (hfa [] a d a.sub?_nil hd) (hfb [] b e b.sub?_nil he) h
      have halike := hchildren.mp hbelow
      exact ⟨⟨hinfo, Item.alike_of_json hrpn (nested_alike hnested hnested' halike)⟩, halike⟩
    · rintro ⟨⟨hinfo, hitems⟩, halike⟩
      exact Expr.dumped_of_alike hinfo (Item.Alike.json_items _ hitems) (hchildren.mpr halike)

end Ast
end Wdl
