import Wdl.Proofs.Compile.Phrases

/-!
Compilation is correct.

`Sim f t` says that a walk over `t`, in the middle of any expression, leaves what `Compiles` asks
for in the job at hand, provided that the walk records no syntax error.  There is one lemma for each
construct; `Phrase.sim` puts them together by induction on the phrase.
-/

namespace Wdl

open Builder

/-- A walk over the phrase compiles it. -/
def Sim (f : Form) (t : Tree) : Prop :=
  ∀ (path : Tree.Path) (b : Builder) (j : Job), b.Compiling j →
    (walk path t b).syntaxErrors = b.syntaxErrors →
      ∃ js ids es, Walked j b (walk path t b) js ids es ∧ Compiles f t js es

/-- A walk over phrases one after another compiles them. -/
def SimAll (fts : List (Form × Tree)) : Prop :=
  ∀ (path : Tree.Path) (i : Nat) (b : Builder) (j : Job), b.Compiling j →
    (walkList path i (fts.map Prod.snd) b).syntaxErrors = b.syntaxErrors →
      ∃ js ids es, Walked j b (walkList path i (fts.map Prod.snd) b) js ids es ∧
        CompilesAll fts js es

theorem simAll {fts : List (Form × Tree)} (h : ∀ ft ∈ fts, Sim ft.1 ft.2) : SimAll fts := by
  induction fts with
  | nil =>
    intro path i b j hb _
    exact ⟨[], [], [], .refl hb, rfl, rfl⟩
  | cons ft fts ih =>
    obtain ⟨f, t⟩ := ft
    obtain ⟨ht, hts⟩ := List.forall_mem_cons.mp h
    intro path i b j hb hclean
    rw [List.map_cons, walkList] at hclean ⊢
    have hfirst := walk_errors (i :: path) t b
    have hrest := walkList_errors path (i + 1) (fts.map Prod.snd) (walk (i :: path) t b)
    obtain ⟨js₁, ids₁, es₁, hw₁, hc₁⟩ := ht (i :: path) b j hb (hfirst.eq_left hrest hclean)
    obtain ⟨js₂, ids₂, es₂, hw₂, hc₂⟩ := ih hts path (i + 1) _ _ hw₁.compiling
      (hfirst.eq_right hrest hclean)
    exact ⟨_, _, _, hw₁.trans hb hw₂, js₁, es₁, js₂, es₂, hc₁, hc₂, rfl, rfl⟩

/-- Tokens in expressions are compiled with the constructs around them. -/
theorem sim_token (k : Token) : Sim .literal (.token k) := by
  intro path b j hb _
  refine ⟨[], [], [], (Walked.refl hb).congr ?_ ?_ ?_ ?_, rfl, rfl⟩
  · exact visitToken_nextNode b k
  · exact visitToken_expr? b k
  · exact visitToken_frames b k
  · exact visitToken_standalone b k

/-- The children of a node are compiled between its beginning and its end. -/
theorem walk_node (fts : List (Form × Tree)) (h : ∀ ft ∈ fts, Sim ft.1 ft.2) {p : Production}
    {e : Option Extent} {cs : List Tree} {path : Tree.Path} {b b' : Builder} {j : Job}
    (hb : b'.Compiling j) (henter : b.enter path (.node p e cs) = b')
    (hclean : (walk path (.node p e cs) b).syntaxErrors = b'.syntaxErrors)
    (hcs : fts.map Prod.snd = cs) :
    ∃ b₁ js ids es, Walked j b' b₁ js ids es ∧ CompilesAll fts js es ∧
      walk path (.node p e cs) b = b₁.exit path (.node p e cs) ∧
      (b₁.exit path (.node p e cs)).syntaxErrors = b₁.syntaxErrors := by
  subst hcs
  rw [walk, henter] at hclean ⊢
  have hlist := walkList_errors path 0 (fts.map Prod.snd) b'
  have hexit := exit_grows (walkList path 0 (fts.map Prod.snd) b') path
    (.node p e (fts.map Prod.snd))
  obtain ⟨js, ids, es, hw, hc⟩ := simAll h path 0 b' j hb (hlist.eq_left hexit hclean)
  exact ⟨_, js, ids, es, hw, hc, rfl, hlist.eq_right hexit hclean⟩

/-- A node whose walk records no error records none at its beginning. -/
theorem enter_clean {p : Production} {e : Option Extent} {cs : List Tree} {path : Tree.Path}
    {b : Builder} (hclean : (walk path (.node p e cs) b).syntaxErrors = b.syntaxErrors) :
    (b.enter path (.node p e cs)).syntaxErrors = b.syntaxErrors := by
  rw [walk] at hclean
  exact (b.enter_grows path _).eq_left
    ((walkList_errors path 0 cs _).trans (exit_grows _ path _)) hclean

theorem allOf_snd (f : Form) (ts : List Tree) : (allOf f ts).map Prod.snd = ts := by
  rw [allOf, List.map_map]
  exact List.map_id' ts

theorem sim_allOf {f : Form} {ts : List Tree} (h : ∀ t ∈ ts, Sim f t) :
    ∀ ft ∈ allOf f ts, Sim ft.1 ft.2 := by
  intro ft hft
  obtain ⟨t, ht, rfl⟩ := List.mem_map.mp hft
  exact h t ht

/-! ## Expressions -/

/-- A walk over an expression that stands anywhere: a new node holds what it compiles to. -/
theorem walk_expr {p : Production} (hp : p = .expr ∨ p = .exprOperand) {x : Tree}
    (hx : Sim .term x) (extent : Option Extent) (path : Tree.Path) (b : Builder)
    (hclean : (walk path (.node p extent [x]) b).syntaxErrors = b.syntaxErrors) :
    ∃ e, (walk path (.node p extent [x]) b).forest.expr? b.forest.nextNode = some e ∧
      e.Renders x ∧ (walk path (.node p extent [x]) b).frames = b.framesAround ∧
      Keeps b.forest.nextNode b (walk path (.node p extent [x]) b) ∧
      (walk path (.node p extent [x]) b).standalone =
        (b.beginExpr path (.node p extent [x])).standalone := by
  have henter : b.enter path (.node p extent [x]) = b.beginExpr path (.node p extent [x]) := by
    rcases hp with rfl | rfl <;> rfl
  have hb := b.beginExpr_compiling path (.node p extent [x])
  have hnext := b.beginExpr_nextNode path (.node p extent [x])
  rw [← b.beginExpr_errors path (.node p extent [x])] at hclean
  obtain ⟨b₁, js, ids, es, hw, hc, hwalk, -⟩ := walk_node [(.term, x)]
    (List.forall_mem_singleton.mpr hx) hb henter hclean rfl
  obtain ⟨js, _, _, _, ⟨rfl, hr⟩, ⟨rfl, rfl⟩, rfl, rfl⟩ := hc
  have hexit : b₁.exit path (.node p extent [x]) = { b₁ with frames := b.framesAround } := by
    rcases hp with rfl | rfl <;> exact endExpr_eq hw.compiling _
  have hwalk : walk path (.node p extent [x]) b = { b₁ with frames := b.framesAround } :=
    hwalk.trans hexit
  have hcurrent : b₁.forest.expr? b.forest.nextNode =
      some ⟨(b.jobOf path (.node p extent [x])).info, js⟩ := by
    have := hw.compiling.current
    rwa [List.append_nil] at this
  rw [hwalk]
  refine ⟨_, hcurrent, ⟨rfl, hr.yields, hr.moves⟩, rfl, ⟨?_, ?_, ?_⟩, hw.standalone⟩
  · exact Nat.le_of_lt (Nat.lt_of_lt_of_le (by rw [hnext]; exact Nat.lt_succ_self _) hw.keeps.le)
  · intro id hid hne
    rw [← Forest.expr?_addNode_of_lt b.forest _ hid]
    have hold := hw.keeps.old id (by rw [hnext]; exact Nat.lt_succ_of_lt hid) hne
    exact hold.trans (b.beginExpr_expr? path _ id)
  · intro id e hid he
    rcases Nat.eq_or_lt_of_le hid with rfl | hlt
    · obtain rfl := Option.some.inj (hcurrent.symm.trans he)
      exact hr.moves.isBalanced _
    · exact hw.keeps.new id e (by rw [hnext]; exact hlt) he

/-- An expression inside another waits there. -/
theorem walked_expr {p : Production} (hp : p = .expr ∨ p = .exprOperand) {x : Tree}
    (hx : Sim .term x) (extent : Option Extent) (path : Tree.Path) (b : Builder) {j : Job}
    (hb : b.Compiling j)
    (hclean : (walk path (.node p extent [x]) b).syntaxErrors = b.syntaxErrors) :
    ∃ e, Walked j b (walk path (.node p extent [x]) b) [] [b.forest.nextNode] [e] ∧
      e.Renders x := by
  obtain ⟨e, he, hr, hframes, hk, hstandalone⟩ := walk_expr hp hx extent path b hclean
  refine ⟨e, ⟨⟨?_, ?_⟩, ⟨hk.le, ?_, hk.new⟩, ?_, ?_, ?_⟩, hr⟩
  · refine (hk.old j.node hb.node_lt (Nat.ne_of_lt hb.node_lt)).trans (hb.current.trans ?_)
    simp [Job.add]
  · rw [hframes, framesAround, hb.frames]
    rfl
  · exact fun id hid _ => hk.old id hid (Nat.ne_of_lt hid)
  · exact List.forall_mem_singleton.mpr (Nat.le_refl _)
  · rw [List.map_singleton, he]
    rfl
  · rw [hstandalone, beginExpr_standalone, hb.frames]
    rfl

theorem sim_expr {x : Tree} (hx : Sim .term x) (extent : Option Extent) :
    Sim .expr (.node .expr extent [x]) := by
  intro path b j hb hclean
  obtain ⟨e, hw, hr⟩ := walked_expr (.inl rfl) hx extent path b hb hclean
  exact ⟨_, _, _, hw, rfl, e, rfl, hr.options, hr.yields, hr.moves⟩

theorem sim_operand {x : Tree} (hx : Sim .term x) (extent : Option Extent) :
    Sim .operand (.node .exprOperand extent [x]) := by
  intro path b j hb hclean
  obtain ⟨e, hw, hr⟩ := walked_expr (.inr rfl) hx extent path b hb hclean
  exact ⟨_, _, _, hw, rfl, e, rfl, hr.options, hr.yields, hr.moves⟩

/-! ## Operators -/

theorem sim_binary (op : BinaryOp) {x y : Tree} (hx : Sim .term x) (hy : Sim .term y)
    (extent : Option Extent) : Sim .term (.node (.binary op) extent [x, y]) := by
  intro path b j hb hclean
  obtain ⟨b₁, js, ids, es, hw, hc, hwalk, -⟩ := walk_node [(.term, x), (.term, y)]
    (List.forall_mem_cons.mpr ⟨hx, List.forall_mem_singleton.mpr hy⟩) hb rfl hclean rfl
  obtain ⟨js₁, _, _, _, ⟨rfl, hrx⟩, ⟨js₂, _, _, _, ⟨rfl, hry⟩, ⟨rfl, rfl⟩, rfl, rfl⟩, rfl, rfl⟩ := hc
  rw [hwalk]
  refine ⟨_, _, _, hw.emit hb (.operator (.binary op)), rfl, ?_⟩
  rw [List.append_nil]
  exact .plain (hrx.yields.binary hry.yields op)
    ((hrx.moves.add hry.moves).append (Moves.operator (.binary op))) rfl

/-- A unary operator is put in after its operand. -/
theorem sim_unary {p : Production} {op : Operator} (hop : op.arity = 1) {x : Tree}
    (hx : Sim .operand x) (extent : Option Extent)
    (hexit : ∀ (b : Builder) (path : Tree.Path), b.exit path (.node p extent [x]) =
      (b.emitPending 1).emit (.operator op))
    (henter : ∀ (b : Builder) (path : Tree.Path), b.enter path (.node p extent [x]) = b)
    (hvalue : ∀ resolve, (Tree.node p extent [x]).value resolve =
      x.value resolve >>= fun v => op.outcome [v])
    (hname : isName (.node p extent [x]) = false) : Sim .term (.node p extent [x]) := by
  intro path b j hb hclean
  obtain ⟨b₁, js, ids, es, hw, hc, hwalk, -⟩ := walk_node [(.operand, x)]
    (List.forall_mem_singleton.mpr hx) hb (henter b path) hclean rfl
  obtain ⟨_, _, _, _, ⟨rfl, e, rfl, hr⟩, ⟨rfl, rfl⟩, rfl, rfl⟩ := hc
  rw [hwalk, hexit]
  refine ⟨_, _, _, (hw.emitPending hb rfl).emit hb (.operator op), rfl, ?_⟩
  refine .plain ((hr.means.yields.unary hop).congr fun resolve => (hvalue resolve).symm) ?_ hname
  have hmoves := Moves.operator op
  rw [hop] at hmoves
  exact (Moves.nested hr.isBalanced).append hmoves

/-- A group, or an operand after a plus sign, is what it holds. -/
theorem sim_transparent {f : Form} (hf : f = .expr ∨ f = .operand) {p : Production} {x : Tree}
    (hx : Sim f x) (extent : Option Extent)
    (hexit : ∀ (b : Builder) (path : Tree.Path), b.exit path (.node p extent [x]) =
      b.emitPending 1)
    (henter : ∀ (b : Builder) (path : Tree.Path), b.enter path (.node p extent [x]) = b)
    (hvalue : ∀ resolve, (Tree.node p extent [x]).value resolve = x.value resolve)
    (hname : isName (.node p extent [x]) = false) : Sim .term (.node p extent [x]) := by
  intro path b j hb hclean
  obtain ⟨b₁, js, ids, es, hw, hc, hwalk, -⟩ := walk_node [(f, x)]
    (List.forall_mem_singleton.mpr hx) hb (henter b path) hclean rfl
  obtain ⟨js₁, es₁, _, _, hone, ⟨rfl, rfl⟩, rfl, rfl⟩ := hc
  have hone : js₁ = [] ∧ ∃ e, es₁ = [e] ∧ e.Renders x := by
    rcases hf with rfl | rfl <;> exact hone
  obtain ⟨rfl, e, rfl, hr⟩ := hone
  rw [hwalk, hexit]
  exact ⟨_, _, _, hw.emitPending hb rfl, rfl, hr.item (fun resolve => (hvalue resolve).symm) hname⟩

/-! ## Applications -/

theorem Phrase.isA_expr {t : Tree} (h : Phrase .expr t) : t.isA .expr = true := by
  cases h
  rfl

/-- The operands of a construct are counted right. -/
theorem count_exprs {ts : List Tree} (hts : ∀ t ∈ ts, Phrase .expr t) (front : List Token)
    (p : Production) (extent : Option Extent) :
    (Tree.node p extent (front.map .token ++ ts)).count .expr = ts.length := by
  have hfront : (front.map Tree.token).filter (·.isA .expr) = [] := by
    rw [List.filter_map]
    simp [Function.comp_def, Tree.isA, Tree.production?]
  rw [Tree.count, Tree.childrenOf, Tree.children, List.filter_append, hfront, List.nil_append,
    List.filter_eq_self.mpr fun t ht => (hts t ht).isA_expr]

theorem CompilesAll.tokens {front : List Token} {js : List Item} {es : List Expr}
    (h : CompilesAll (allOf .literal (front.map .token)) js es) : js = [] ∧ es = [] := by
  induction front generalizing js es with
  | nil => exact h
  | cons k front ih =>
    obtain ⟨_, _, _, _, ⟨rfl, rfl⟩, hrest, rfl, rfl⟩ := h
    exact ih hrest

/-- A construct whose operands wait until it ends, possibly with the name of a function in front. -/
theorem sim_application (p : Production) (front : List Token) {ts : List Tree} {function : String}
    (hts : ∀ t ∈ ts, Phrase .expr t) (hsim : ∀ t ∈ ts, Sim .expr t) (extent : Option Extent)
    (hexit : ∀ (b : Builder) (path : Tree.Path),
      b.exit path (.node p extent (front.map .token ++ ts)) =
        b.emitApply (.node p extent (front.map .token ++ ts)) function)
    (henter : ∀ (b : Builder) (path : Tree.Path),
      b.enter path (.node p extent (front.map .token ++ ts)) = b)
    (hvalue : ∀ resolve, (Tree.node p extent (front.map .token ++ ts)).value resolve =
      Tree.values resolve ts >>= Library.outcome function)
    (hname : isName (.node p extent (front.map .token ++ ts)) = false) :
    Sim .term (.node p extent (front.map .token ++ ts)) := by
  intro path b j hb hclean
  have hall : ∀ ft ∈ allOf .literal (front.map .token) ++ allOf .expr ts, Sim ft.1 ft.2 := by
    refine List.forall_mem_append.mpr ⟨sim_allOf ?_, sim_allOf hsim⟩
    intro t ht
    obtain ⟨k, -, rfl⟩ := List.mem_map.mp ht
    exact sim_token k
  obtain ⟨b₁, js, ids, es, hw, hc, hwalk, -⟩ := walk_node
    (allOf .literal (front.map .token) ++ allOf .expr ts) hall hb (henter b path) hclean
    (by rw [List.map_append, allOf_snd, allOf_snd])
  obtain ⟨_, _, _, _, hfront, hrest, rfl, rfl⟩ := hc.append
  obtain ⟨rfl, rfl⟩ := hfront.tokens
  obtain ⟨rfl, hlen, hy, hm⟩ := hrest.exprs hts
  rw [hwalk, hexit, emitApply, count_exprs hts]
  refine ⟨_, _, _, (hw.emitPending hb hlen).emit hb (.apply function ts.length), rfl, ?_⟩
  refine .plain ?_ (hm.append (Moves.apply function ts.length)) hname
  exact (hy.apply fun resolve a ha => values_exprs_length hts ha).congr fun resolve =>
    (hvalue resolve).symm

theorem sim_index {x i : Tree} (hpx : Phrase .term x) (hpi : Phrase .expr i) (hx : Sim .term x)
    (hi : Sim .expr i) (extent : Option Extent) : Sim .term (.node .index extent [x, i]) := by
  intro path b j hb hclean
  obtain ⟨b₁, js, ids, es, hw, hc, hwalk, -⟩ := walk_node [(.term, x), (.expr, i)]
    (List.forall_mem_cons.mpr ⟨hx, List.forall_mem_singleton.mpr hi⟩) hb rfl hclean rfl
  obtain ⟨js₁, _, _, _, ⟨rfl, hr⟩, ⟨_, _, _, _, ⟨rfl, e, rfl, he⟩, ⟨rfl, rfl⟩, rfl, rfl⟩, rfl,
    rfl⟩ := hc
  rw [List.append_nil, List.append_nil] at hw
  rw [hwalk]
  refine ⟨_, _, _, (hw.emitPending hb rfl).emit hb (.apply "_at" 2), rfl, ?_⟩
  refine .plain ?_ ((hr.moves.add (Moves.nested he.isBalanced)).append (Moves.apply "_at" 2)) rfl
  refine ((hr.yields.two he.means.yields).apply fun resolve a ha => ?_).congr fun resolve => ?_
  · obtain ⟨v, -, ha⟩ := bind_ok ha
    obtain ⟨w, -, ha⟩ := bind_ok ha
    rw [← Except.ok.inj ha]
    rfl
  · rw [Tree.value, Tree.values_cons resolve hpx, Tree.values_one resolve hpx (.inr rfl),
      Tree.values_one resolve hpi (.inl rfl)]
    cases x.value resolve with
    | error cause => rfl
    | ok v => cases i.value resolve <;> rfl

/-! ## Maps and objects -/

theorem count_entries {f : Form} {p : Production} (hp : ∀ t, Phrase f t → t.isA p = true)
    {ts : List Tree} (hts : ∀ t ∈ ts, Phrase f t) : (ts.filter (·.isA p)).length = ts.length := by
  rw [List.filter_eq_self.mpr fun t ht => hp t (hts t ht)]

theorem sim_map {ts : List Tree} (hts : ∀ t ∈ ts, Phrase .mapEntry t)
    (hsim : ∀ t ∈ ts, Sim .mapEntry t) (extent : Option Extent) :
    Sim .term (.node .map extent ts) := by
  intro path b j hb hclean
  obtain ⟨b₁, js, ids, es, hw, hc, hwalk, -⟩ := walk_node (allOf .mapEntry ts) (sim_allOf hsim) hb
    rfl hclean (allOf_snd _ ts)
  obtain ⟨rfl, hy, hm⟩ := hc.entries (.inl rfl) hts
  have hcount : (Tree.node .map extent ts).count .mapEntry = ts.length :=
    count_entries (fun t ht => by cases ht; rfl) hts
  have hexit : b₁.exit path (.node .map extent ts) =
      b₁.emit (.apply "_map" (2 * ts.length)) := by
    rw [← hcount]
    rfl
  rw [hwalk, hexit]
  refine ⟨_, _, _, hw.emit hb (.apply "_map" (2 * ts.length)), rfl, ?_⟩
  refine .plain ?_ (hm.append (Moves.apply "_map" _)) rfl
  exact hy.apply fun resolve a ha => values_entries_length (.inl rfl) hts ha

theorem sim_mapEntry {x y : Tree} (hx : Sim .term x) (hy : Sim .expr y) (extent : Option Extent) :
    Sim .mapEntry (.node .mapEntry extent [x, y]) := by
  intro path b j hb hclean
  obtain ⟨b₁, js, ids, es, hw, hc, hwalk, -⟩ := walk_node [(.term, x), (.expr, y)]
    (List.forall_mem_cons.mpr ⟨hx, List.forall_mem_singleton.mpr hy⟩) hb rfl hclean rfl
  obtain ⟨js₁, _, _, _, ⟨rfl, hr⟩, ⟨_, _, _, _, ⟨rfl, e, rfl, he⟩, ⟨rfl, rfl⟩, rfl, rfl⟩, rfl,
    rfl⟩ := hc
  rw [List.append_nil, List.append_nil] at hw
  rw [hwalk]
  refine ⟨_, _, _, hw.emitPending hb rfl, rfl, ?_, hr.moves.add (Moves.nested he.isBalanced)⟩
  refine (hr.yields.two he.means.yields).congr fun resolve => ?_
  rw [Tree.values, Tree.values]
  cases x.value resolve with
  | error cause => rfl
  | ok v => cases y.value resolve <;> rfl

/-- The key of a member of an object is put in, and then its value. -/
theorem objectEntry_yields {e : Expr} {x y : Tree} {extent : Option Extent} {key : String}
    (he : e.Renders y) (hkey : x.keyText = key) :
    Yields [.literal (.string key), e.toItem]
      (fun r => Tree.values r [.node .objectEntry extent [x, y]]) := by
  have hlit : YieldsOne [.literal (.string key)] fun _ => .ok (.string key) := Yields.literal _
  refine (hlit.two he.means.yields).congr fun resolve => ?_
  rw [Tree.values, Tree.values, hkey]
  cases y.value resolve <;> rfl

theorem checkKeyword_walked {j : Job} {b b₁ : Builder} {is : List Item} {ids : List NodeId}
    {es : List Expr} (h : Walked j b b₁ is ids es) (t : Tree) (name : String) :
    Walked j b (b₁.checkKeyword t name) is ids es := by
  obtain ⟨errors, heq⟩ := b₁.checkKeyword_eq t name
  rw [heq]
  exact h.congr rfl (fun _ => rfl) rfl rfl

theorem sim_nameEntry (k : Token) {y : Tree} (hy : Sim .expr y) (extent : Option Extent) :
    Sim .objectEntry (.node .objectEntry extent [.token k, y]) := by
  intro path b j hb hclean
  obtain ⟨b₁, js, ids, es, hw, hc, hwalk, -⟩ := walk_node [(.literal, .token k), (.expr, y)]
    (List.forall_mem_cons.mpr ⟨sim_token k, List.forall_mem_singleton.mpr hy⟩) hb rfl hclean rfl
  obtain ⟨_, _, _, _, ⟨rfl, rfl⟩, ⟨_, _, _, _, ⟨rfl, e, rfl, he⟩, ⟨rfl, rfl⟩, rfl, rfl⟩, rfl,
    rfl⟩ := hc
  rw [hwalk]
  have hw := ((checkKeyword_walked hw (.token k) k.text).emit hb
    (.literal (.string k.text))).emitPending hb rfl
  exact ⟨_, _, _, hw, rfl, objectEntry_yields he rfl,
    (Moves.literal _).add (Moves.nested he.isBalanced)⟩

theorem sim_literal (k : Token) (extent : Option Extent) :
    Sim .literal (.node .stringLiteral extent [.token k]) := by
  intro path b j hb hclean
  obtain ⟨b₁, js, ids, es, hw, hc, hwalk, -⟩ := walk_node [(.literal, .token k)]
    (List.forall_mem_singleton.mpr (sim_token k)) hb rfl hclean rfl
  obtain ⟨_, _, _, _, ⟨rfl, rfl⟩, ⟨rfl, rfl⟩, rfl, rfl⟩ := hc
  rw [hwalk]
  exact ⟨_, _, _, hw, rfl, rfl⟩

theorem keyText_literal {extent : Option Extent} {cs : List Tree} {key : String}
    (h : literalText? (.node .stringLiteral extent cs) = some key) :
    Tree.keyText (.node .stringLiteral extent cs) = key := by
  rw [Tree.keyText, h]
  · rfl
  · exact fun _ h => by cases h

theorem exit_literalEntry (b : Builder) (path : Tree.Path) (extent extent' : Option Extent)
    (cs : List Tree) (y : Tree) :
    b.exit path (.node .objectEntry extent [.node .stringLiteral extent' cs, y]) =
      match literalText? (.node .stringLiteral extent' cs) with
      | some key => (b.emit (.literal (.string key))).emitPending 1
      | none => b.badEscape (.node .stringLiteral extent' cs) := by
  show b.endObjectEntry (.node .objectEntry extent [.node .stringLiteral extent' cs, y]) = _
  cases h : literalText? (.node .stringLiteral extent' cs) with
  | none =>
    unfold endObjectEntry
    simp only [Tree.children, h]
  | some key =>
    unfold endObjectEntry
    simp only [Tree.children, h]

theorem sim_literalEntry {x y : Tree} (hpx : Phrase .literal x) (hx : Sim .literal x)
    (hy : Sim .expr y) (extent : Option Extent) :
    Sim .objectEntry (.node .objectEntry extent [x, y]) := by
  intro path b j hb hclean
  obtain ⟨b₁, js, ids, es, hw, hc, hwalk, hexit⟩ := walk_node [(.literal, x), (.expr, y)]
    (List.forall_mem_cons.mpr ⟨hx, List.forall_mem_singleton.mpr hy⟩) hb rfl hclean rfl
  obtain ⟨_, _, _, _, ⟨rfl, rfl⟩, ⟨_, _, _, _, ⟨rfl, e, rfl, he⟩, ⟨rfl, rfl⟩, rfl, rfl⟩, rfl,
    rfl⟩ := hc
  obtain ⟨extent', k, rfl⟩ : ∃ extent' k, x = .node .stringLiteral extent' [.token k] := by
    cases hpx with
    | literal k => exact ⟨_, k, rfl⟩
  rw [exit_literalEntry] at hexit hwalk
  rw [hwalk]
  generalize htext : literalText? (.node .stringLiteral extent' [.token k]) = text at hexit ⊢
  cases text with
  | none =>
    -- a key with a bad escape would have been an error
    exact absurd hexit (b₁.syntaxErrorAt_ne _ _)
  | some key =>
    exact ⟨_, _, _, (hw.emit hb (.literal (.string key))).emitPending hb rfl, rfl,
      objectEntry_yields he (keyText_literal htext),
      (Moves.literal _).add (Moves.nested he.isBalanced)⟩

theorem sim_object (k : Token) {ts : List Tree} (hts : ∀ t ∈ ts, Phrase .objectEntry t)
    (hsim : ∀ t ∈ ts, Sim .objectEntry t) (extent : Option Extent) :
    Sim .term (.node .object extent (.token k :: ts)) := by
  intro path b j hb hclean
  have hcount : (Tree.node .object extent (.token k :: ts)).count .objectEntry = ts.length :=
    count_entries (fun t ht => by cases ht <;> rfl) hts
  have hall : ∀ ft ∈ (.literal, .token k) :: allOf .objectEntry ts, Sim ft.1 ft.2 :=
    List.forall_mem_cons.mpr ⟨sim_token k, sim_allOf hsim⟩
  have hsnd : ((.literal, .token k) :: allOf .objectEntry ts).map Prod.snd = .token k :: ts := by
    rw [List.map_cons, allOf_snd]
  by_cases hk : (k.text == "object") = true
  · -- an object has no name to begin with
    have henter : b.enter path (.node .object extent (.token k :: ts)) = b := if_pos hk
    obtain ⟨b₁, js, ids, es, hw, hc, hwalk, -⟩ := walk_node _ hall hb henter hclean hsnd
    obtain ⟨_, _, _, _, ⟨rfl, rfl⟩, hentries, rfl, rfl⟩ := hc
    obtain ⟨rfl, hy, hm⟩ := hentries.entries (.inr rfl) hts
    have hexit : b₁.exit path (.node .object extent (.token k :: ts)) =
        b₁.emit (.apply "_object" (2 * ts.length)) := by
      rw [← hcount]
      exact if_pos hk
    rw [hwalk, hexit]
    refine ⟨_, _, _, hw.emit hb (.apply "_object" (2 * ts.length)), rfl, ?_⟩
    refine .plain ?_ (hm.append (Moves.apply "_object" _)) rfl
    refine (hy.apply fun resolve a ha => values_entries_length (.inr rfl) hts ha).congr
      fun resolve => ?_
    rw [Tree.value, hk]
    rfl
  · have henter : b.enter path (.node .object extent (.token k :: ts)) =
        (b.checkKeyword (.node .object extent (.token k :: ts)) k.text).emit
          (.literal (.string k.text)) := if_neg hk
    have hbegin := (checkKeyword_walked (Walked.refl hb) (.node .object extent (.token k :: ts))
      k.text).emit hb (.literal (.string k.text))
    have hclean' := hclean.trans (enter_clean hclean).symm
    rw [henter] at hclean'
    obtain ⟨b₁, js, ids, es, hw, hc, hwalk, -⟩ :=
      walk_node _ hall hbegin.compiling henter hclean' hsnd
    obtain ⟨_, _, _, _, ⟨rfl, rfl⟩, hentries, rfl, rfl⟩ := hc
    obtain ⟨rfl, hy, hm⟩ := hentries.entries (.inr rfl) hts
    have hexit : b₁.exit path (.node .object extent (.token k :: ts)) =
        b₁.emit (.apply "_struct" (2 * ts.length + 1)) := by
      rw [← hcount]
      exact if_neg hk
    rw [hwalk, hexit]
    refine ⟨_, _, _, (hbegin.trans hb hw).emit hb (.apply "_struct" (2 * ts.length + 1)), rfl, ?_⟩
    have hmoves := (Moves.literal (.string k.text)).add hm
    rw [Nat.add_comm] at hmoves
    refine .plain ?_ (hmoves.append (Moves.apply "_struct" _)) rfl
    refine (((Yields.literal (.string k.text)).append hy).apply fun resolve a ha => ?_).congr
      fun resolve => ?_
    · obtain ⟨_, hname, ha⟩ := bind_ok ha
      obtain ⟨vs, hvs, ha⟩ := bind_ok ha
      rw [← Except.ok.inj hname] at ha
      rw [← Except.ok.inj ha, List.length_append, values_entries_length (.inr rfl) hts hvs,
        Nat.add_comm]
      rfl
    · rw [Tree.value, Bool.eq_false_iff.mpr hk]
      cases Tree.values resolve ts <;> rfl

/-! ## Names -/

theorem sim_leftName (k : Token) (extent : Option Extent) :
    Sim .term (.node .leftName extent [.token k]) := by
  intro path b j hb hclean
  obtain ⟨b₁, js, ids, es, hw, hc, hwalk, -⟩ := walk_node [(.literal, .token k)]
    (List.forall_mem_singleton.mpr (sim_token k)) hb rfl hclean rfl
  obtain ⟨_, _, _, _, ⟨rfl, rfl⟩, ⟨rfl, rfl⟩, rfl, rfl⟩ := hc
  have hexit : b₁.exit path (.node .leftName extent [.token k]) =
      (b₁.checkKeyword (.node .leftName extent [.token k]) k.text).emit (.name k.text) := rfl
  rw [hwalk, hexit]
  refine ⟨_, _, _, (checkKeyword_walked hw _ k.text).emit hb (.name k.text), rfl, ?_⟩
  refine ⟨Yields.name k.text, Moves.name k.text, fun n hn => ?_, fun _ h => by cases h⟩
  rw [← Option.some.inj hn]
  rfl

/-- Items that put a value on the stack are not empty. -/
theorem Moves.ne_nil {is : List Item} (h : Moves 0 1 is) : is ≠ [] := by
  rintro rfl
  cases h.scan 0

/-- The last item of a job is the last of those that were put in last. -/
theorem lastItem?_eq {j : Job} {b b₁ : Builder} {js : List Item} {ids : List NodeId}
    {es : List Expr} (h : Walked j b b₁ js ids es) (hjs : js ≠ []) :
    b₁.lastItem? = js.getLast? := by
  have hcurrent : b₁.forest.expr? j.node = some ⟨j.info, j.items ++ js⟩ := h.compiling.current
  have hframes : b₁.frames = ⟨j.path, j.node, j.pending ++ ids⟩ :: j.outer := h.compiling.frames
  rw [lastItem?, hframes]
  dsimp only
  rw [hcurrent]
  rw [Option.bind_some, List.getLast?_append, List.getLast?_eq_some_getLast hjs, Option.some_or]

/-- Joins a member to a name, or gets it from a value. -/
def joinMember (b : Builder) (named : Bool) (member : String) : Builder :=
  match b.frames, named, b.lastItem? with
  | frame :: _, true, some (.name n) =>
    b.modifyItems frame.node fun items => items.dropLast ++ [.name (n ++ "." ++ member)]
  | _, _, _ => (b.emit (.literal (.string member))).emit (.apply "_get" 2)

theorem endMember_eq (b : Builder) (x : Tree) (k : Token) (extent : Option Extent) :
    ∃ errors, b.endMember (.node .member extent [x, .token k]) =
      joinMember (b.withReports (b.syntaxErrors ++ errors) b.problems) (isName x) k.text := by
  rw [endMember]
  by_cases hk : (k.text == "left" || k.text == "right") = true
  · refine ⟨[], ?_⟩
    rw [b.withReports_nil]
    exact congrArg (joinMember · (isName x) k.text) (if_pos hk)
  · obtain ⟨errors, h⟩ := b.checkKeyword_eq (.node .member extent [x, .token k]) k.text
    refine ⟨errors, ?_⟩
    rw [← h]
    exact congrArg (joinMember · (isName x) k.text) (if_neg hk)

theorem sim_member {x : Tree} (hx : Sim .term x) (k : Token) (extent : Option Extent) :
    Sim .term (.node .member extent [x, .token k]) := by
  intro path b j hb hclean
  obtain ⟨b₁, js, ids, es, hw, hc, hwalk, -⟩ := walk_node [(.term, x), (.literal, .token k)]
    (List.forall_mem_cons.mpr ⟨hx, List.forall_mem_singleton.mpr (sim_token k)⟩) hb rfl hclean rfl
  obtain ⟨js₁, _, _, _, ⟨rfl, hr⟩, ⟨_, _, _, _, ⟨rfl, rfl⟩, ⟨rfl, rfl⟩, rfl, rfl⟩, rfl, rfl⟩ := hc
  rw [List.append_nil, List.append_nil] at hw
  obtain ⟨errors, hmember⟩ := endMember_eq b₁ x k extent
  have hexit : b₁.exit path (.node .member extent [x, .token k]) =
      b₁.endMember (.node .member extent [x, .token k]) := rfl
  rw [hwalk, hexit, hmember]
  have hw : Walked j b (b₁.withReports (b₁.syntaxErrors ++ errors) b₁.problems) js₁ ids _ :=
    hw.congr rfl (fun _ => rfl) rfl rfl
  generalize b₁.withReports (b₁.syntaxErrors ++ errors) b₁.problems = b₂ at hw ⊢
  have hlast := lastItem?_eq hw hr.moves.ne_nil
  have hframes : b₂.frames = ⟨j.path, j.node, j.pending ++ ids⟩ :: j.outer := hw.compiling.frames
  cases hdotted : x.dotted? with
  | some n =>
    obtain rfl := hr.name n hdotted
    unfold joinMember
    rw [hframes, hlast, Tree.isName_of_dotted? hdotted]
    refine ⟨[.name (n ++ "." ++ k.text)], ids, [], hw.modifyItems hb ?_, rfl, ?_⟩
    · rw [List.dropLast_concat]
    · have hvalue : ∀ resolve, (Tree.node .member extent [x, .token k]).value resolve =
          resolve (n ++ "." ++ k.text) := by
        intro resolve
        rw [Tree.value, hdotted]
      have hlonger : (Tree.node .member extent [x, .token k]).dotted? =
          some (n ++ "." ++ k.text) := by
        rw [Tree.dotted?, hdotted]
        rfl
      refine ⟨(Yields.name _).congr fun r => (hvalue r).symm, Moves.name _, fun m hm => ?_,
        fun _ h => ?_⟩
      · rw [hlonger] at hm
        rw [Option.some.inj hm]
      · rw [hlonger] at h
        cases h
  | none =>
    have hjoin : joinMember b₂ (isName x) k.text =
        (b₂.emit (.literal (.string k.text))).emit (.apply "_get" 2) := by
      unfold joinMember
      split
      · next frame _ n _ hname hitem =>
        rw [hlast] at hitem
        exact absurd hitem (hr.noName hname hdotted n)
      · rfl
    rw [hjoin]
    refine ⟨_, _, _, (hw.emit hb (.literal (.string k.text))).emit hb (.apply "_get" 2), rfl, ?_⟩
    have hlit : YieldsOne [.literal (.string k.text)] fun _ => .ok (.string k.text) :=
      Yields.literal _
    refine ⟨((hr.yields.two hlit).apply fun resolve a ha => ?_).congr fun resolve => ?_,
      (hr.moves.add (Moves.literal _)).append (Moves.apply "_get" 2), fun n hn => ?_, fun _ _ n => ?_⟩
    · obtain ⟨v, -, ha⟩ := bind_ok ha
      rw [← Except.ok.inj ha]
      rfl
    · rw [Tree.value, hdotted]
      cases x.value resolve <;> rfl
    · rw [Tree.dotted?, hdotted] at hn
      cases hn
    · rw [List.getLast?_concat]
      exact fun h => by cases h

/-! ## Literals -/

/-- A literal without children. -/
theorem sim_constant {p : Production} {v : Value} (extent : Option Extent)
    (hexit : ∀ (b : Builder) (path : Tree.Path), b.exit path (.node p extent []) =
      b.emit (.literal v))
    (henter : ∀ (b : Builder) (path : Tree.Path), b.enter path (.node p extent []) = b)
    (hvalue : ∀ resolve, (Tree.node p extent []).value resolve = .ok v)
    (hname : isName (.node p extent []) = false) : Sim .term (.node p extent []) := by
  intro path b j hb hclean
  obtain ⟨b₁, js, ids, es, hw, hc, hwalk, -⟩ := walk_node [] (List.forall_mem_nil _) hb
    (henter b path) hclean rfl
  obtain ⟨rfl, rfl⟩ := hc
  rw [hwalk, hexit]
  exact ⟨_, _, _, hw.emit hb (.literal v), rfl, .literal hvalue hname⟩

theorem sim_int (k : Token) (extent : Option Extent) :
    Sim .term (.node .int extent [.token k]) := by
  intro path b j hb hclean
  obtain ⟨b₁, js, ids, es, hw, hc, hwalk, hclean⟩ := walk_node [(.literal, .token k)]
    (List.forall_mem_singleton.mpr (sim_token k)) hb rfl hclean rfl
  obtain ⟨_, _, _, _, ⟨rfl, rfl⟩, ⟨rfl, rfl⟩, rfl, rfl⟩ := hc
  rw [hwalk]
  by_cases hbig : maxInt < Text.natOfAscii k.text
  · -- out of range would have been an error
    have hexit : b₁.exit path (.node .int extent [.token k]) =
        (b₁.syntaxErrorAt (.node .int extent [.token k])
          ("integer literal out of range: " ++ toString (Text.natOfAscii k.text))).emit
            (.literal (.int maxInt)) := if_pos hbig
    rw [hexit, emit_errors] at hclean
    exact absurd hclean (b₁.syntaxErrorAt_ne _ _)
  · have hexit : b₁.exit path (.node .int extent [.token k]) =
        b₁.emit (.literal (.int (Text.natOfAscii k.text))) := if_neg hbig
    rw [hexit]
    exact ⟨_, _, _, hw.emit hb _, rfl, .literal (fun _ => rfl) rfl⟩

theorem sim_float (k : Token) (extent : Option Extent) :
    Sim .term (.node .float extent [.token k]) := by
  intro path b j hb hclean
  obtain ⟨b₁, js, ids, es, hw, hc, hwalk, -⟩ := walk_node [(.literal, .token k)]
    (List.forall_mem_singleton.mpr (sim_token k)) hb rfl hclean rfl
  obtain ⟨_, _, _, _, ⟨rfl, rfl⟩, ⟨rfl, rfl⟩, rfl, rfl⟩ := hc
  rw [hwalk]
  exact ⟨_, _, _, hw.emit hb (.literal (.float (Decimal.floatOfNumeral k.text))), rfl,
    .literal (fun _ => rfl) rfl⟩

end Wdl
