import Wdl.Proofs.Compile.Simulation
import Wdl.Proofs.Occurrences

/-!
Strings and their placeholders.

The options of a placeholder are read after its expression has been compiled, and are given to that
expression while it still waits.  Of an option that is given more than once the first counts, as in
a list of bindings.
-/

namespace Wdl

open Builder

/-! ## Options -/

/-- A binding of a key that is bound already does not count. -/
theorem lookup_skip {α : Type} {name : String} {l : List (String × α)}
    (h : Assoc.contains name l = true) (v : Option α) (r : List (String × α)) (key : String) :
    (l ++ ((v.map (name, ·)).toList ++ r)).lookup key = (l ++ r).lookup key := by
  rw [List.lookup_append, List.lookup_append, List.lookup_append]
  by_cases hk : key = name
  · subst hk
    obtain ⟨w, hw⟩ := Option.isSome_iff_exists.mp (Assoc.lookup_of_contains h)
    rw [hw, Option.some_or, Option.some_or]
  · have hnone : (v.map (name, ·)).toList.lookup key = none := by
      cases v with
      | none => rfl
      | some w => simp [List.lookup_cons, beq_eq_false_iff_ne.mpr hk]
    rw [hnone, Option.none_or]

/-- Options are only ever looked up. -/
theorem applyOptions_congr {a b : Bindings} (h : ∀ key, a.lookup key = b.lookup key) (v : Value) :
    applyOptions a v = applyOptions b v := by
  unfold applyOptions
  simp only [h]

/-- An option that can be read, or a repeated one. -/
theorem Phrase.option_value {t : Tree} (h : Phrase .placeholderOption t) :
    ∃ value c, t.children[1]? = some value ∧ value.children.head? = some c := by
  cases h with
  | placeholderOption k hx =>
    cases hx with
    | literalValue hx => exact ⟨_, _, rfl, rfl⟩
    | numberValue k => exact ⟨_, _, rfl, rfl⟩

theorem Tree.optionList_cons (t : Tree) (ts : List Tree) :
    Tree.optionList (t :: ts) =
      ((t.children[1]?.bind optionValue?).map (t.childText 0, ·)).toList ++ Tree.optionList ts := by
  unfold Tree.optionList
  rw [List.filterMap_cons]
  split <;> simp_all

/-- Options that are read without an error are those of the tree, of which the first counts. -/
theorem readOptions_clean {ts : List Tree} (hts : ∀ t ∈ ts, Phrase .placeholderOption t)
    (b : Builder) (o : OptionList) (hnodup : (o.options.map Prod.fst).Nodup)
    (hclean : (b.readOptions ts o).1.syntaxErrors = b.syntaxErrors) :
    ∃ o', (b.readOptions ts o).2 = some o' ∧ (o'.options.map Prod.fst).Nodup ∧
      ∀ key, o'.options.lookup key = (o.options ++ Tree.optionList ts).lookup key := by
  induction ts generalizing o with
  | nil => exact ⟨o, rfl, hnodup, fun key => by rw [Tree.optionList, List.filterMap_nil,
      List.append_nil]⟩
  | cons t ts ih =>
    obtain ⟨ht, hts⟩ := List.forall_mem_cons.mp hts
    obtain ⟨value, c, hvalue, hc⟩ := ht.option_value
    unfold readOptions at hclean ⊢
    dsimp only at hclean ⊢
    rw [Tree.optionList_cons, hvalue, Option.bind_some]
    split at hclean
    · -- an unknown option would have been an error
      exact absurd ((b.syntaxErrorAt_grows t _).eq_left (readOptions_grows _ ts o) hclean)
        (b.syntaxErrorAt_ne t _)
    · next hknown =>
      rw [if_neg hknown]
      by_cases hagain : Assoc.contains (t.childText 0) o.options = true
      · rw [if_pos hagain] at hclean ⊢
        obtain ⟨o', ho', hn, hlookup⟩ := ih hts
          { o with repeated := o.repeated ++ [(t, t.childText 0)] } hnodup hclean
        refine ⟨o', ho', hn, fun key => ?_⟩
        rw [hlookup, lookup_skip hagain]
      · rw [if_neg hagain] at hclean ⊢
        rw [hvalue] at hclean
        cases hv : optionValue? value with
        | none =>
          -- a value with a bad escape would have been an error
          simp only [hv, hc] at hclean
          exact absurd hclean (b.syntaxErrorAt_ne c _)
        | some v =>
          simp only [hv] at hclean ⊢
          have hnodup' : ((o.options ++ [(t.childText 0, v)]).map Prod.fst).Nodup := by
            rw [List.map_append]
            refine List.nodup_append.mpr ⟨hnodup, List.pairwise_singleton _ _, ?_⟩
            intro x hx y hy hxy
            rw [hxy, List.mem_singleton.mp hy] at hx
            obtain ⟨kv, hkv, hname⟩ := List.mem_map.mp hx
            exact hagain (List.any_eq_true.mpr ⟨kv, hkv, beq_iff_eq.mpr hname⟩)
          obtain ⟨o', ho', hn, hlookup⟩ := ih hts
            { o with options := o.options ++ [(t.childText 0, v)] } hnodup' hclean
          refine ⟨o', ho', hn, fun key => ?_⟩
          rw [hlookup, List.append_assoc]
          rfl

/-! ## Placeholders -/

theorem giveOptions_expr? (f : Forest) (id : NodeId) (options : List (String × Value))
    (i : NodeId) :
    (giveOptions f id options).expr? i =
      if id = i then (f.expr? i).map fun e =>
        { e with info := { e.info with options := Assoc.update e.info.options options } }
      else f.expr? i := by
  unfold giveOptions
  split
  · next h =>
    rw [Forest.expr?_eq, Forest.expr?_eq, Forest.node?_modifyBody, if_pos h]
    cases f.node? i with
    | none => rfl
    | some n =>
      obtain ⟨body, span, position, parent⟩ := n
      cases body <;> rfl
  · next h => exact Forest.expr?_modifyBody_of_ne _ h

/-- The expression that waits last gets the options. -/
theorem Builder.Walked.giveOptions {j : Job} {b b₁ b₂ : Builder} {js : List Item} {id : NodeId}
    {e : Expr} (hb : b.Compiling j) (h : Walked j b b₁ js [id] [e]) {options : List (String × Value)}
    (hforest : b₂.forest = Builder.giveOptions b₁.forest id options)
    (hframes : b₂.frames = b₁.frames) (hstandalone : b₂.standalone = b₁.standalone) :
    Walked j b b₂ js [id]
      [{ e with info := { e.info with options := Assoc.update e.info.options options } }] := by
  have he : b₁.forest.expr? id = some e := by simpa using h.waits
  have hfresh : b.forest.nextNode ≤ id := h.fresh id (List.mem_singleton.mpr rfl)
  have hne : id ≠ j.node := h.ne_of_mem hb (List.mem_singleton.mpr rfl)
  have hexpr (i : NodeId) (hi : id ≠ i) : b₂.forest.expr? i = b₁.forest.expr? i := by
    rw [hforest, giveOptions_expr?, if_neg hi]
  have hnew : b₂.forest.expr? id = some
      { e with info := { e.info with options := Assoc.update e.info.options options } } := by
    rw [hforest, giveOptions_expr?, if_pos rfl, he]
    rfl
  refine ⟨⟨?_, hframes.trans h.compiling.frames⟩, ⟨?_, ?_, ?_⟩, h.fresh, ?_,
    hstandalone.trans h.standalone⟩
  · exact (hexpr j.node hne).trans h.compiling.current
  · rw [hforest, Builder.giveOptions, Forest.nextNode_modifyBody]
    exact h.keeps.le
  · intro i hi hnode
    rw [hexpr i (Nat.ne_of_gt (Nat.lt_of_lt_of_le hi hfresh))]
    exact h.keeps.old i hi hnode
  · intro i e' hi he'
    by_cases hid : id = i
    · subst hid
      rw [hnew] at he'
      obtain rfl := Option.some.inj he'
      exact h.keeps.new id e hfresh he
    · rw [hexpr i hid] at he'
      exact h.keeps.new i e' hi he'
  · rw [List.map_singleton, hnew]
    rfl

theorem childrenOf_placeholder {xs : List Tree} {y : Tree} {extent : Option Extent}
    (hxs : ∀ x ∈ xs, Phrase .placeholderOption x) (hy : Phrase .expr y) :
    (Tree.node .placeholder extent (xs ++ [y])).childrenOf .placeholderOption = xs := by
  have hlast : [y].filter (·.isA .placeholderOption) = [] := by
    cases hy
    rfl
  rw [Tree.childrenOf, Tree.children, List.filter_append, hlast, List.append_nil]
  refine List.filter_eq_self.mpr fun x hx => ?_
  cases hxs x hx
  rfl

theorem value_placeholder {xs : List Tree} {y : Tree} {extent : Option Extent}
    (hy : Phrase .expr y) (resolve : String → Outcome Value) :
    (Tree.node .placeholder extent (xs ++ [y])).value resolve =
      y.value resolve >>= fun v => (applyOptions (Tree.optionList xs) v).mapError .failure := by
  have hlast : Tree.lastValue resolve (xs ++ [y]) = y.value resolve := by
    induction xs with
    | nil => rfl
    | cons x xs ih =>
      cases xs with
      | nil => rfl
      | cons x' xs => exact ih
  have hoptions : Tree.optionList (xs ++ [y]) = Tree.optionList xs := by
    have hnone : Tree.optionList [y] = [] := by
      cases hy
      rfl
    rw [Tree.optionList, List.filterMap_append]
    exact (congrArg (Tree.optionList xs ++ ·) hnone).trans (List.append_nil _)
  rw [Tree.value, hlast, hoptions]

theorem sim_placeholder {xs : List Tree} {y : Tree} (hpxs : ∀ x ∈ xs, Phrase .placeholderOption x)
    (hxs : ∀ x ∈ xs, Sim .placeholderOption x) (hpy : Phrase .expr y) (hy : Sim .expr y)
    (extent : Option Extent) : Sim .placeholder (.node .placeholder extent (xs ++ [y])) := by
  intro path b j hb hclean
  have hall : ∀ ft ∈ allOf .placeholderOption xs ++ [(.expr, y)], Sim ft.1 ft.2 :=
    List.forall_mem_append.mpr ⟨sim_allOf hxs, List.forall_mem_singleton.mpr hy⟩
  obtain ⟨b₁, js, ids, es, hw, hc, hwalk, hclean⟩ := walk_node _ hall hb rfl hclean
    (by rw [List.map_append, allOf_snd]; rfl)
  obtain ⟨_, _, _, _, hoptions, ⟨_, _, _, _, ⟨rfl, e, rfl, hr⟩, ⟨rfl, rfl⟩, rfl, rfl⟩, rfl, rfl⟩ :=
    hc.append
  obtain ⟨rfl, rfl⟩ := hoptions.options
  have hexit : b₁.exit path (.node .placeholder extent (xs ++ [y])) =
      b₁.endPlaceholder (.node .placeholder extent (xs ++ [y])) := rfl
  -- the one expression that waits is that of the placeholder
  obtain ⟨id, rfl⟩ : ∃ id, ids = [id] := by
    have hlen := congrArg List.length hw.waits
    simp only [List.length_map] at hlen
    exact List.length_eq_one_iff.mp hlen
  have htarget : b₁.placeholderTarget = some id := by
    have hframes : b₁.frames = ⟨j.path, j.node, j.pending ++ [id]⟩ :: j.outer :=
      hw.compiling.frames
    rw [placeholderTarget, hframes]
    exact List.getLast?_concat
  have hread : (b₁.readOptions xs {}).1.syntaxErrors = b₁.syntaxErrors := by
    rw [hexit, endPlaceholder_errors, childrenOf_placeholder hpxs hpy] at hclean
    exact hclean
  obtain ⟨o, ho, hnodup, hlookup⟩ := readOptions_clean hpxs b₁ {} List.nodup_nil hread
  obtain ⟨errors, problems, hend⟩ :=
    b₁.endPlaceholder_eq (.node .placeholder extent (xs ++ [y]))
  rw [childrenOf_placeholder hpxs hpy, htarget, ho] at hend
  rw [hwalk, hexit, hend]
  refine ⟨_, _, _, hw.giveOptions hb rfl rfl rfl, rfl, _, rfl, Moves.isBalanced hr.moves _, ?_⟩
  intro lookup resolve hl
  refine (YieldsOne.means hr.yields _ lookup resolve hl).trans ?_
  dsimp only
  rw [value_placeholder hpy, hr.options, Assoc.update_of_nodup (l := []) hnodup, List.nil_append]
  congr 1
  funext v
  rw [applyOptions_congr hlookup]
  rfl

/-- What stands in an option is compiled with the placeholder. -/
theorem sim_option (k : Token) {x : Tree} (hx : Sim .optionValue x) (extent : Option Extent) :
    Sim .placeholderOption (.node .placeholderOption extent [.token k, x]) := by
  intro path b j hb hclean
  obtain ⟨b₁, js, ids, es, hw, hc, hwalk, -⟩ := walk_node [(.literal, .token k), (.optionValue, x)]
    (List.forall_mem_cons.mpr ⟨sim_token k, List.forall_mem_singleton.mpr hx⟩) hb rfl hclean rfl
  obtain ⟨_, _, _, _, ⟨rfl, rfl⟩, ⟨_, _, _, _, ⟨rfl, rfl⟩, ⟨rfl, rfl⟩, rfl, rfl⟩, rfl, rfl⟩ := hc
  rw [hwalk]
  exact ⟨_, _, _, hw, rfl, rfl⟩

theorem sim_optionValue {x : Tree} (hx : Sim .literal x) (extent : Option Extent) :
    Sim .optionValue (.node .placeholderValue extent [x]) := by
  intro path b j hb hclean
  obtain ⟨b₁, js, ids, es, hw, hc, hwalk, -⟩ := walk_node [(.literal, x)]
    (List.forall_mem_singleton.mpr hx) hb rfl hclean rfl
  obtain ⟨_, _, _, _, ⟨rfl, rfl⟩, ⟨rfl, rfl⟩, rfl, rfl⟩ := hc
  rw [hwalk]
  exact ⟨_, _, _, hw, rfl, rfl⟩

/-! ## Strings -/

theorem sim_fragment (front : List Token) (extent : Option Extent) :
    Sim .fragment (.node .stringPart extent (front.map .token)) := by
  intro path b j hb hclean
  have hall : ∀ ft ∈ allOf .literal (front.map .token), Sim ft.1 ft.2 := by
    refine sim_allOf fun t ht => ?_
    obtain ⟨k, -, rfl⟩ := List.mem_map.mp ht
    exact sim_token k
  obtain ⟨b₁, js, ids, es, hw, hc, hwalk, hclean⟩ := walk_node _ hall hb rfl hclean (allOf_snd _ _)
  obtain ⟨rfl, rfl⟩ := hc.tokens
  rw [hwalk]
  have hexit : b₁.exit path (.node .stringPart extent (front.map .token)) =
      b₁.emitStringPart (.node .stringPart extent (front.map .token)) := rfl
  rw [hexit, emitStringPart] at hclean ⊢
  split at hclean
  · next hescape =>
    rw [if_pos hescape]
    exact ⟨_, _, _, hw.emit hb _, rfl, rfl⟩
  · exact absurd hclean (b₁.syntaxErrorAt_ne _ _)

theorem sim_exprPart {x : Tree} (hx : Sim .placeholder x) (extent : Option Extent) :
    Sim .exprPart (.node .stringExprPart extent [x]) := by
  intro path b j hb hclean
  obtain ⟨b₁, js, ids, es, hw, hc, hwalk, -⟩ := walk_node [(.placeholder, x)]
    (List.forall_mem_singleton.mpr hx) hb rfl hclean rfl
  obtain ⟨_, _, _, _, ⟨rfl, e, rfl, hbalanced, hmeans⟩, ⟨rfl, rfl⟩, rfl, rfl⟩ := hc
  rw [hwalk]
  refine ⟨_, _, _, (hw.emitPending hb rfl).emit hb (.operator .str), rfl,
    (Moves.nested hbalanced).append (Moves.operator .str), extent, x, rfl, ?_⟩
  refine (hmeans.yields.unary rfl).congr fun resolve => ?_
  cases x.value resolve <;> rfl

theorem sim_interpolation {x y : Tree} (hx : Sim .exprPart x) (hy : Sim .fragment y)
    (extent : Option Extent) : Sim .interpolation (.node .stringExprWithPart extent [x, y]) := by
  intro path b j hb hclean
  obtain ⟨b₁, js, ids, es, hw, hc, hwalk, -⟩ := walk_node [(.exprPart, x), (.fragment, y)]
    (List.forall_mem_cons.mpr ⟨hx, List.forall_mem_singleton.mpr hy⟩) hb rfl hclean rfl
  obtain ⟨js₁, _, _, _, ⟨rfl, hm, extent', x', rfl, hyields⟩, ⟨_, _, _, _, ⟨rfl, rfl⟩, ⟨rfl, rfl⟩,
    rfl, rfl⟩, rfl, rfl⟩ := hc
  rw [hwalk]
  refine ⟨_, _, _, (hw.emit hb (.operator (.binary .add))).emit hb (.operator (.binary .add)), rfl,
    ?_, ?_⟩
  · intro lookup resolve hl site s stack
    simp only [List.append_assoc, List.append_nil, List.singleton_append]
    rw [Item.runAll_append, outcome_bind, hyields.run hl, Tree.text]
    cases x'.value resolve with
    | error cause => rfl
    | ok v =>
      change outcome (Except.ok (Value.string (s ++ (v.text ++ y.tokenText)) :: stack)) =
        Except.ok (Value.string (s ++ (v.text ++ (y.tokenText ++ ""))) :: stack)
      rw [String.append_empty]
      rfl
  · rw [List.append_nil]
    have htwo := (hm.add (Moves.literal (.string y.tokenText))).above 1
    exact (htwo.append ((Moves.operator (.binary .add)).above 1)).append
      (Moves.operator (.binary .add))

theorem text_string (resolve : String → Outcome Value) (k l : Token) {x : Tree} {xs : List Tree}
    (hx : Phrase .fragment x) (hxs : ∀ y ∈ xs, Phrase .interpolation y) :
    Tree.text resolve (.token k :: x :: (xs ++ [.token l])) =
      Tree.text resolve xs >>= fun s => .ok (x.tokenText ++ s) := by
  rw [← Tree.text_append_token resolve hxs l]
  cases hx <;> rfl

theorem sim_string (k l : Token) {x : Tree} {xs : List Tree} (hpx : Phrase .fragment x)
    (hx : Sim .fragment x) (hpxs : ∀ y ∈ xs, Phrase .interpolation y)
    (hxs : ∀ y ∈ xs, Sim .interpolation y) (extent : Option Extent) :
    Sim .term (.node .string extent (.token k :: x :: (xs ++ [.token l]))) := by
  intro path b j hb hclean
  have hall : ∀ ft ∈ (Form.literal, Tree.token k) :: (.fragment, x) ::
      (allOf .interpolation xs ++ [(.literal, .token l)]), Sim ft.1 ft.2 := by
    refine List.forall_mem_cons.mpr ⟨sim_token k, List.forall_mem_cons.mpr ⟨hx, ?_⟩⟩
    exact List.forall_mem_append.mpr
      ⟨sim_allOf hxs, List.forall_mem_singleton.mpr (sim_token l)⟩
  obtain ⟨b₁, js, ids, es, hw, hc, hwalk, -⟩ := walk_node _ hall hb rfl hclean
    (by rw [List.map_cons, List.map_cons, List.map_append, allOf_snd]; rfl)
  obtain ⟨_, _, _, _, ⟨rfl, rfl⟩, ⟨_, _, _, _, ⟨rfl, rfl⟩, hrest, rfl, rfl⟩, rfl, rfl⟩ := hc
  obtain ⟨js, _, _, _, hparts, ⟨_, _, _, _, ⟨rfl, rfl⟩, ⟨rfl, rfl⟩, rfl, rfl⟩, rfl, rfl⟩ :=
    hrest.append
  obtain ⟨rfl, hl⟩ := hparts.interpolations hpxs
  rw [hwalk]
  refine ⟨_, _, _, hw, rfl, .plain ?_ ?_ rfl⟩
  · intro lookup resolve hagree site stack
    change outcome (Item.runAll lookup site
      ([.literal (.string x.tokenText)] ++ (js ++ [])) stack) = _
    rw [List.append_nil, Item.runAll_append]
    change outcome (Item.runAll lookup site js (.string x.tokenText :: stack)) = _
    rw [hl.runs lookup resolve hagree]
    dsimp only
    rw [Tree.value, text_string resolve k l hpx hpxs]
    cases Tree.text resolve xs <;> rfl
  · change Moves 0 1 ([.literal (.string x.tokenText)] ++ (js ++ []))
    rw [List.append_nil]
    exact (Moves.literal _).append hl.moves

/-! ## All phrases -/

/-- Every phrase is compiled as direct evaluation says. -/
theorem Phrase.sim {f : Form} {t : Tree} (h : Phrase f t) : Sim f t := by
  induction h with
  | expr _ ih => exact sim_expr ih _
  | operand _ ih => exact sim_operand ih _
  | binary op _ _ ihx ihy => exact sim_binary op ihx ihy _
  | group _ ih =>
    exact sim_transparent (.inl rfl) ih _ (fun _ _ => rfl) (fun _ _ => rfl) (fun _ => rfl) rfl
  | unaryPlus _ ih =>
    exact sim_transparent (.inr rfl) ih _ (fun _ _ => rfl) (fun _ _ => rfl) (fun _ => rfl) rfl
  | negate _ ih => exact sim_unary rfl ih _ (fun _ _ => rfl) (fun _ _ => rfl) (fun _ => rfl) rfl
  | unaryMinus _ ih => exact sim_unary rfl ih _ (fun _ _ => rfl) (fun _ _ => rfl) (fun _ => rfl) rfl
  | array hxs ih =>
    exact sim_application .array [] hxs ih _ (fun _ _ => rfl) (fun _ _ => rfl) (fun _ => rfl) rfl
  | index hx hi ihx ihi => exact sim_index hx hi ihx ihi _
  | pair hx hy ihx ihy =>
    exact sim_application .pair [] (List.forall_mem_cons.mpr ⟨hx, List.forall_mem_singleton.mpr hy⟩)
      (List.forall_mem_cons.mpr ⟨ihx, List.forall_mem_singleton.mpr ihy⟩) _
      (fun _ _ => rfl) (fun _ _ => rfl) (fun _ => rfl) rfl
  | map hxs ih => exact sim_map hxs ih _
  | ifThenElse hc hx hy ihc ihx ihy =>
    exact sim_application .ifThenElse [] (List.forall_mem_cons.mpr
        ⟨hc, List.forall_mem_cons.mpr ⟨hx, List.forall_mem_singleton.mpr hy⟩⟩)
      (List.forall_mem_cons.mpr
        ⟨ihc, List.forall_mem_cons.mpr ⟨ihx, List.forall_mem_singleton.mpr ihy⟩⟩) _
      (fun _ _ => rfl) (fun _ _ => rfl) (fun _ => rfl) rfl
  | apply k hxs ih =>
    exact sim_application .apply [k] hxs ih _ (fun _ _ => rfl) (fun _ _ => rfl) (fun _ => rfl) rfl
  | object k hxs ih => exact sim_object k hxs ih _
  | leftName k => exact sim_leftName k _
  | member k _ ih => exact sim_member ih k _
  | booleanTrue =>
    exact sim_constant _ (fun _ _ => rfl) (fun _ _ => rfl) (fun _ => rfl) rfl
  | booleanFalse =>
    exact sim_constant _ (fun _ _ => rfl) (fun _ _ => rfl) (fun _ => rfl) rfl
  | null => exact sim_constant _ (fun _ _ => rfl) (fun _ _ => rfl) (fun _ => rfl) rfl
  | int k => exact sim_int k _
  | float k => exact sim_float k _
  | string k l hx hxs ihx ihxs => exact sim_string k l hx ihx hxs ihxs _
  | mapEntry _ _ ihx ihy => exact sim_mapEntry ihx ihy _
  | nameEntry k _ ih => exact sim_nameEntry k ih _
  | literalEntry hx _ ihx ihy => exact sim_literalEntry hx ihx ihy _
  | literal k => exact sim_literal k _
  | noFragment => exact sim_fragment [] _
  | fragment k => exact sim_fragment [k] _
  | exprPart _ ih => exact sim_exprPart ih _
  | interpolation _ _ ihx ihy => exact sim_interpolation ihx ihy _
  | placeholder hxs hy ihxs ihy => exact sim_placeholder hxs ihxs hy ihy _
  | placeholderOption k _ ih => exact sim_option k ih _
  | literalValue _ ih => exact sim_optionValue ih _
  | numberValue k => exact sim_optionValue (sim_token k) _

end Wdl
