import Wdl.Proofs.Compile.Documents
import Wdl.Proofs.Compile.Kept

/-!
Interpolation is concatenation.

A string is compiled to the text before its first placeholder and, for every placeholder, to its
expression, the conversion of the value to a text, the text after it and two additions.  The first
addition joins the two texts and the second one puts them behind the string that has been made so
far; `run_interpolations` says that this is all that happens, whatever is on the stack below.

`string_puts` says that these are the items of every string in a tree of the grammar, with the
expressions of its own placeholders in order.
-/

namespace Wdl

open Builder

namespace Tree

/-- The text that stands in a string before its first placeholder, or after the placeholder of an
interpolation, as written. -/
def ownText (t : Tree) : String :=
  String.join ((t.childrenOf .stringPart).map tokenText)

/-- The texts of a string after each of its placeholders. -/
def laterTexts (t : Tree) : List String :=
  (t.childrenOf .stringExprWithPart).map ownText

end Tree

/-- The expressions of the placeholder of an interpolation: there is one. -/
def Builder.Visit.hole (v : Visit) : List Visit :=
  (v.parts .stringExprPart).flatMap fun u => (u.parts .placeholder).flatMap (·.parts .expr)

/-- The expressions of the placeholders of a string, in order; those of strings inside them are not
among them. -/
def Builder.Visit.holes (v : Visit) : List Visit :=
  (v.parts .stringExprWithPart).flatMap Visit.hole

/-! ## Evaluation -/

/-- What puts the values of expressions and the texts after them behind a string. -/
def interpolationItems (parts : List (Expr × String)) : List Item :=
  parts.flatMap fun part =>
    [part.1.toItem, .operator .str, .literal (.string part.2), .operator (.binary .add),
      .operator (.binary .add)]

/-- What a string is compiled to: the text before the placeholders, and what comes after it. -/
def stringItems (text : String) (parts : List (Expr × String)) : List Item :=
  .literal (.string text) :: interpolationItems parts

/-- The texts of values, each with the text after it. -/
def interleave (values : List Value) (texts : List String) : String :=
  String.join (values.zipWith (fun v text => v.text ++ text) texts)

/-- The values of placeholders in order, or the fault of the first that has none. -/
def evaluateAll (lookup : Lookup) (parts : List (Expr × String)) : Except Fault (List Value) :=
  parts.mapM fun part => part.1.evaluate lookup

theorem evaluateAll_cons (lookup : Lookup) (part : Expr × String) (parts : List (Expr × String)) :
    evaluateAll lookup (part :: parts) =
      part.1.evaluate lookup >>= fun v => evaluateAll lookup parts >>= fun values =>
        .ok (v :: values) :=
  List.mapM_cons

theorem Item.run_toItem (lookup : Lookup) (site : Option Site) (e : Expr) (stack : List Value) :
    Item.run lookup site e.toItem stack =
      e.evaluate lookup >>= fun v => .ok (v :: stack) := by
  rw [Expr.toItem, Item.run]
  rfl

/-- One placeholder: its value is put behind the string with the text after it. -/
theorem run_interpolation (lookup : Lookup) (site : Option Site) (part : Expr × String)
    (s : String) (stack : List Value) :
    Item.runAll lookup site (interpolationItems [part]) (.string s :: stack) =
      part.1.evaluate lookup >>= fun v =>
        .ok (.string (s ++ (v.text ++ part.2)) :: stack) := by
  rw [interpolationItems, List.flatMap_singleton, Item.runAll, Item.run_toItem]
  cases part.1.evaluate lookup <;> rfl

/-- The values of placeholders are put behind the string one after the other; the first one that
cannot be computed ends it. -/
theorem run_interpolations (lookup : Lookup) (site : Option Site) (parts : List (Expr × String))
    (s : String) (stack : List Value) :
    Item.runAll lookup site (interpolationItems parts) (.string s :: stack) =
      evaluateAll lookup parts >>= fun values =>
        .ok (.string (s ++ interleave values (parts.map Prod.snd)) :: stack) := by
  induction parts generalizing s with
  | nil =>
    show Except.ok (.string s :: stack) = Except.ok (.string (s ++ "") :: stack)
    rw [String.append_empty]
  | cons part parts ih =>
    have hsplit : interpolationItems (part :: parts) =
        interpolationItems [part] ++ interpolationItems parts := by
      rw [interpolationItems, List.flatMap_cons, interpolationItems, interpolationItems,
        List.flatMap_singleton]
    rw [hsplit, Item.runAll_append, run_interpolation, evaluateAll_cons]
    cases part.1.evaluate lookup with
    | error fault => rfl
    | ok v =>
      show Item.runAll lookup site (interpolationItems parts)
        (.string (s ++ (v.text ++ part.2)) :: stack) = _
      rw [ih]
      cases evaluateAll lookup parts with
      | error fault => rfl
      | ok values =>
        show Except.ok _ = Except.ok _
        rw [List.map_cons, interleave, interleave, List.zipWith_cons_cons, String.join_cons,
          String.append_assoc]

/-- A string runs to its text with the texts of the values in their places. -/
theorem run_string (lookup : Lookup) (site : Option Site) (text : String)
    (parts : List (Expr × String)) (stack : List Value) :
    Item.runAll lookup site (stringItems text parts) stack =
      evaluateAll lookup parts >>= fun values =>
        .ok (.string (text ++ interleave values (parts.map Prod.snd)) :: stack) :=
  run_interpolations lookup site parts text stack

/-- An expression that is nothing but a string. -/
theorem evaluate_string (lookup : Lookup) {e : Expr} {text : String} {parts : List (Expr × String)}
    (he : e.items = stringItems text parts) :
    e.evaluate lookup =
      ((evaluateAll lookup parts).map fun values =>
        .string (text ++ interleave values (parts.map Prod.snd))).mapError
          (·.orAt (.expression e)) := by
  rw [Expr.evaluate, he, run_string]
  cases evaluateAll lookup parts <;> rfl

/-! ## What a placeholder leaves -/

theorem Phrase.residue_option {t : Tree} (h : Phrase .placeholderOption t) : t.residue = {} := by
  cases h with
  | placeholderOption k hx =>
    cases hx with
    | literalValue hx =>
      cases hx
      rfl
    | numberValue k => rfl

/-- A placeholder leaves its expression and puts nothing in. -/
theorem Phrase.residue_placeholder {t : Tree} (h : Phrase .placeholder t) :
    t.residue.items = [] ∧ t.residue.waiting.length = 1 := by
  cases h with
  | @placeholder e xs y hxs hy =>
    have hnone : Tree.residueList xs = {} := by
      induction xs with
      | nil => rfl
      | cons x xs ih =>
        obtain ⟨hx, hxs⟩ := List.forall_mem_cons.mp hxs
        rw [Tree.residueList, hx.residue_option, ih hxs]
        rfl
    cases hy with
    | expr hx =>
      rw [Tree.residue, Tree.residueList_append, hnone, Residue.nil_append, Tree.residueList,
        residue_expression rfl]
      unfold Residue.close
      dsimp only [Tree.production?]
      split <;> exact ⟨rfl, rfl⟩

namespace Builder

open Grammar

/-! ## Strings -/

/-- A walk puts items into the innermost open expression and leaves nothing waiting. -/
structure Puts (js : List Item) (b b' : Builder) : Prop where
  frames : b'.frames = b.frames
  items : ∀ id e, b.focus? = some id → b.forest.expr? id = some e →
    b'.forest.expr? id = some { e with items := e.items ++ js }

namespace Puts

variable {js ks : List Item} {b b' b'' : Builder}

theorem focus? (h : Puts js b b') : b'.focus? = b.focus? := by
  rw [Builder.focus?, Builder.focus?, h.frames]

theorem of_expr? (hframes : b'.frames = b.frames)
    (hexpr : ∀ id, b'.forest.expr? id = b.forest.expr? id) : Puts [] b b' where
  frames := hframes
  items id e _ he := by rw [hexpr, he, List.append_nil]

theorem trans (h : Puts js b b') (h' : Puts ks b' b'') : Puts (js ++ ks) b b'' where
  frames := h'.frames.trans h.frames
  items id e hid he := by
    rw [h'.items id _ (h.focus?.trans hid) (h.items id e hid he), List.append_assoc]

theorem emit (b : Builder) (i : Item) : Puts [i] b (b.emit i) := by
  cases hframes : b.frames with
  | nil =>
    refine ⟨by rw [emit_of_nil hframes], fun id e hid _ => ?_⟩
    rw [Builder.focus?, hframes] at hid
    cases hid
  | cons frame outer =>
    have hrewrites := emit_rewrites hframes i
    refine ⟨hrewrites.frames, fun id e hid he => ?_⟩
    obtain rfl := Option.some.inj ((Leaves.focus?_of_frames hframes).symm.trans hid)
    rw [hrewrites.self, he]
    rfl

theorem seated (h : Puts js b b') (hb : b.Seated) : b'.Seated := by
  intro id hid
  rw [h.focus?] at hid
  obtain ⟨e, he⟩ := hb id hid
  exact ⟨_, h.items id e hid he⟩

end Puts

variable {b : Builder} {path : Tree.Path} {t : Tree} {v : Visit} {id : NodeId}

/-- The text of a fragment is put in. -/
theorem stringPart_puts {c : Tree} (ht : Derived c) (hc : c.isA .stringPart = true)
    (hlegible : (Text.decodeEscapes? c.tokenText).isSome = true) (path : Tree.Path) (b : Builder) :
    Puts [.literal (.string c.tokenText)] b (walk path c b) := by
  cases c with
  | token k => cases hc
  | node p e cs =>
    obtain rfl : p = .stringPart := by simpa [Tree.isA, Tree.production?] using hc
    have hinner : Puts [] b (walkList path 0 cs b) := by
      cases ht.phrase rfl with
      | noFragment => exact .of_expr? rfl fun _ => rfl
      | fragment k => exact .of_expr? (b.visitToken_frames k) (b.visitToken_expr? k)
    have hexit : walk path (.node .stringPart e cs) b =
        (walkList path 0 cs b).emit (.literal (.string (Tree.node .stringPart e cs).tokenText)) :=
      if_pos hlegible
    rw [hexit]
    exact hinner.trans (.emit _ _)

/-- The placeholder of a string: its expression is put in, and its value becomes a text. -/
theorem exprPart_puts (ht : Derived v.tree) (hv : v.tree.isA .stringExprPart = true)
    (hb : v.before.Seated) (hfocus : v.before.focus?.isSome = true) :
    ∃ w x, (v.parts .placeholder).flatMap (·.parts .expr) = [w] ∧ v.node ≤ w.node ∧
      v.after.forest.expr? w.node = some x ∧ Puts [x.toItem, .operator .str] v.before v.after := by
  obtain ⟨path, tree, b⟩ := v
  cases tree with
  | token k => cases hv
  | node p extent cs =>
    obtain rfl : p = .stringExprPart := by simpa [Tree.isA, Tree.production?] using hv
    cases ht.phrase rfl with
    | @exprPart _ z hz =>
      let u : Visit := ⟨0 :: path, z, b⟩
      have hderived : Derived z := ht.children z List.mem_cons_self
      have hplaceholder : z.isA .placeholder = true := by cases hz; rfl
      obtain ⟨w, howns, -, hbefore, htarget, ⟨x, hx, -⟩, others, hvisits, -⟩ :=
        exists_own (v := u) hplaceholder hderived hb
      have hle : u.node ≤ w.node := by
        have hmem := mem_visitsList_of_parts howns.mem_parts
        have hmem : w ∈ visits u.path u.tree u.before := by
          rw [visits_eq (v := u) hplaceholder]
          exact List.mem_cons_of_mem u hmem
        exact (within_of_visit hderived hb hmem).le
      -- the placeholder leaves one expression waiting, and it is its own
      obtain ⟨hitems, hwaiting⟩ := hz.residue_placeholder
      have hleaves : Leaves z.residue b u.after := walk_leaves hderived _ hb
      cases hleaves.contributes with
      | outside frames =>
        rw [focus?, frames] at hfocus
        cases hfocus
      | @inside frame outer e js ids frames frames' last current current' items waits =>
        obtain rfl : js = [] := by
          rw [hitems, Item.placelessList_eq_map] at items
          exact List.map_eq_nil_iff.mp items
        obtain ⟨i, rfl⟩ := List.length_eq_one_iff.mp (waits.length.trans hwaiting)
        obtain rfl : i = w.node := by
          have hend : u.after.frames = u.done.frames := by
            obtain ⟨errors, problems, h⟩ := u.done.endPlaceholder_eq u.tree
            rw [u.after_eq_done hplaceholder, exit_placeholder hplaceholder, h]
            rfl
          rw [placeholderTarget, ← hend, frames'] at htarget
          exact Option.some.inj ((List.getLast?_concat).symm.trans htarget)
        obtain ⟨x, hx⟩ := waits.exists_expr? (List.mem_singleton.mpr rfl)
        have hne : w.node ≠ frame.node :=
          Nat.ne_of_gt (Nat.lt_of_lt_of_le (Forest.lt_of_expr? _ current) hle)
        have hlast : [w.node].map u.after.forest.expr? = [x].map some := by
          rw [List.map_singleton, hx, List.map_singleton]
        obtain ⟨htaken, hrewrites⟩ := emitPending_rewrites frames' hlast
          (List.forall_mem_singleton.mpr hne)
        rw [List.length_singleton] at htaken hrewrites
        have hputs : Puts [x.toItem] b (u.after.emitPending 1) := by
          refine ⟨htaken.trans frames.symm, fun id e' hid he' => ?_⟩
          obtain rfl := Option.some.inj ((Leaves.focus?_of_frames frames).symm.trans hid)
          obtain rfl := Option.some.inj (current.symm.trans he')
          rw [hrewrites.self]
          show (u.after.forest.expr? frame.node).map _ = _
          rw [current', List.append_nil]
          rfl
        refine ⟨w, x, ?_, hle, ?_, hputs.trans (.emit _ _)⟩
        · have hparts : Visit.parts ⟨path, .node .stringExprPart extent [z], b⟩ .placeholder = [u] :=
            List.filter_cons_of_pos hplaceholder
          rw [hparts, List.flatMap_singleton, howns.own]
        · have hemit := emit_rewrites htaken (.operator .str)
          exact (hemit.other _ hne).trans ((hrewrites.other _ hne).trans hx)

theorem emit_expr?_of_ne (b : Builder) (i : Item) (hid : b.focus? ≠ some id) :
    (b.emit i).forest.expr? id = b.forest.expr? id :=
  have halters : Alters none b (b.emit i) := emit_alters b i
  Expr.Altered.rel_eq (halters.exprs id) hid fun h => Option.some_ne_none id h.symm

/-- An interpolation: the placeholder and the text after it, put behind the string before. -/
theorem interpolation_puts (ht : Derived v.tree) (hv : v.tree.isA .stringExprWithPart = true)
    (hb : v.before.Seated) (hfocus : v.before.focus?.isSome = true)
    (hlegible : (Text.decodeEscapes? v.tree.ownText).isSome = true) :
    ∃ w x, v.hole = [w] ∧ v.node ≤ w.node ∧ v.after.forest.expr? w.node = some x ∧
      Puts (interpolationItems [(x, v.tree.ownText)]) v.before v.after := by
  obtain ⟨path, tree, b⟩ := v
  cases tree with
  | token k => cases hv
  | node p extent cs =>
    obtain rfl : p = .stringExprWithPart := by simpa [Tree.isA, Tree.production?] using hv
    cases ht.phrase rfl with
    | @interpolation _ x y hx hy =>
      let u : Visit := ⟨0 :: path, x, b⟩
      have hpart : x.isA .stringExprPart = true := by cases hx; rfl
      have hfragment : y.isA .stringPart = true := by cases hy <;> rfl
      have hnotText : x.isA .stringPart = false := by cases hx; rfl
      have hnotPart : y.isA .stringExprPart = false := by cases hy <;> rfl
      have htext : (Tree.node .stringExprWithPart extent [x, y]).ownText = y.tokenText := by
        have hchildren : (Tree.node .stringExprWithPart extent [x, y]).childrenOf .stringPart =
            [y] := by
          simp [Tree.childrenOf, Tree.children, hnotText, hfragment]
        rw [Tree.ownText, hchildren, List.map_singleton, String.join_cons, String.join_nil,
          String.append_empty]
      dsimp only at hlegible ⊢
      rw [htext] at hlegible ⊢
      have hy : Derived y := ht.children y (List.mem_cons_of_mem _ List.mem_cons_self)
      obtain ⟨w, e, hhole, hle, he, hfirst⟩ :=
        exprPart_puts (v := u) (ht.children x List.mem_cons_self) hpart hb hfocus
      have hputs := hfirst.trans (stringPart_puts hy hfragment hlegible (1 :: path) u.after)
      have hnot : u.after.focus? ≠ some w.node := by
        rw [hfirst.focus?]
        intro hid
        obtain ⟨x, hx⟩ := hb _ hid
        exact Nat.not_lt_of_le hle (Forest.lt_of_expr? _ hx)
      refine ⟨w, e, ?_, hle, ?_, ?_⟩
      · have hparts : Visit.parts ⟨path, .node .stringExprWithPart extent [x, y], b⟩
            .stringExprPart = [u] := by
          simp only [Visit.parts, Tree.children, rowVisits, List.filter_cons, hpart, hnotPart,
            List.filter_nil]
          rfl
        rw [Visit.hole, hparts, List.flatMap_singleton, hhole]
      · have hkept := (walk_leaves hy (1 :: path) (hfirst.seated hb)).old w.node
          (Forest.lt_of_expr? _ he) hnot
        have hnot' : (walk (1 :: path) y u.after).focus? ≠ some w.node := by
          rwa [hputs.focus?, ← hfirst.focus?]
        have hlast := (emit_expr?_of_ne (Builder.emit _ (.operator (.binary .add)))
          (.operator (.binary .add)) ((Puts.emit _ _).focus?.symm ▸ hnot')).trans
            (emit_expr?_of_ne _ (.operator (.binary .add)) hnot')
        exact hlast.trans (hkept.trans he)
      · exact (hputs.trans (.emit _ _)).trans (.emit _ _)

/-- The interpolation of a visit was compiled from its own placeholder. -/
def Holds (u : Visit) (part : Expr × String) : Prop :=
  ∃ w, u.hole = [w] ∧ u.node ≤ w.node ∧ u.after.forest.expr? w.node = some part.1

theorem interpolations_puts {ys : List Tree} (hys : ∀ y ∈ ys, Derived y)
    (hkind : ∀ y ∈ ys, y.isA .stringExprWithPart = true)
    (hlegible : ∀ y ∈ ys, (Text.decodeEscapes? y.ownText).isSome = true) (path : Tree.Path)
    (i : Nat) (hb : b.Seated) (hfocus : b.focus?.isSome = true) :
    ∃ parts : List (Expr × String), parts.map Prod.snd = ys.map Tree.ownText ∧
      List.Forall₂ Holds (rowVisits path i ys b) parts ∧
      Puts (interpolationItems parts) b (walkList path i ys b) := by
  induction ys generalizing i b with
  | nil => exact ⟨[], rfl, .nil, .of_expr? rfl fun _ => rfl⟩
  | cons y ys ih =>
    obtain ⟨hy, hys⟩ := List.forall_mem_cons.mp hys
    obtain ⟨hone, hkind⟩ := List.forall_mem_cons.mp hkind
    obtain ⟨htext, hlegible⟩ := List.forall_mem_cons.mp hlegible
    let u : Visit := ⟨i :: path, y, b⟩
    obtain ⟨w, x, hhole, hle, hx, hputs⟩ := interpolation_puts (v := u) hy hone hb hfocus htext
    obtain ⟨parts, htexts, hholds, hrest⟩ := ih hys hkind hlegible (i + 1) (b := u.after)
      (hputs.seated hb) (hputs.focus?.symm ▸ hfocus)
    refine ⟨(x, y.ownText) :: parts, congrArg (y.ownText :: ·) htexts,
      .cons ⟨w, hhole, hle, hx⟩ hholds, hputs.trans hrest⟩

/-- A string: its first text and its interpolations. -/
theorem string_puts (ht : Derived v.tree) (hv : v.tree.isA .string = true) (hb : v.before.Seated)
    (hfocus : v.before.focus?.isSome = true)
    (htext : (Text.decodeEscapes? v.tree.ownText).isSome = true)
    (hlegible : ∀ s ∈ v.tree.laterTexts, (Text.decodeEscapes? s).isSome = true) :
    ∃ parts : List (Expr × String), parts.map Prod.snd = v.tree.laterTexts ∧
      List.Forall₂ Holds (v.parts .stringExprWithPart) parts ∧
      Puts (stringItems v.tree.ownText parts) v.before v.after := by
  obtain ⟨path, tree, b⟩ := v
  cases tree with
  | token k => cases hv
  | node p extent cs =>
    obtain rfl : p = .string := by simpa [Tree.isA, Tree.production?] using hv
    cases ht.phrase rfl with
    | @string _ x xs k l hx hxs =>
      have hx : x.isA .stringPart = true ∧ x.isA .stringExprWithPart = false := by
        cases hx <;> exact ⟨rfl, rfl⟩
      have hxs : ∀ y ∈ xs, y.isA .stringPart = false ∧ y.isA .stringExprWithPart = true := by
        intro y hy
        cases hxs y hy
        exact ⟨rfl, rfl⟩
      have hfront : ∀ c ∈ [.token k, x], c.isA .stringExprWithPart = false :=
        List.forall_mem_cons.mpr ⟨rfl, List.forall_mem_singleton.mpr hx.2⟩
      have hback : ∀ c ∈ [Tree.token l], c.isA .stringExprWithPart = false :=
        List.forall_mem_singleton.mpr rfl
      have hparts : Visit.parts ⟨path, .node .string extent (.token k :: x :: (xs ++ [.token l])), b⟩
          .stringExprWithPart = rowVisits path 2 xs (walk (1 :: path) x (b.visitToken k)) :=
        parts_eq_row hfront (fun y hy => (hxs y hy).2) hback
      have hchildren : (Tree.node .string extent (.token k :: x :: (xs ++ [.token l]))).childrenOf
          .stringExprWithPart = xs :=
        childrenOf_eq_row hfront (fun y hy => (hxs y hy).2) hback
      have hown : (Tree.node .string extent (.token k :: x :: (xs ++ [.token l]))).childrenOf
          .stringPart = [x] := by
        have hfront : ∀ c ∈ [Tree.token k], c.isA .stringPart = false :=
          List.forall_mem_singleton.mpr rfl
        have hmid : ∀ c ∈ [x], c.isA .stringPart = true := List.forall_mem_singleton.mpr hx.1
        have hback : ∀ c ∈ xs ++ [Tree.token l], c.isA .stringPart = false :=
          List.forall_mem_append.mpr ⟨fun y hy => (hxs y hy).1, List.forall_mem_singleton.mpr rfl⟩
        exact childrenOf_eq_row hfront hmid hback
      have hstart : (Tree.node .string extent (.token k :: x :: (xs ++ [.token l]))).ownText =
          x.tokenText := by
        rw [Tree.ownText, hown, List.map_singleton, String.join_cons, String.join_nil,
          String.append_empty]
      obtain ⟨-, hx', hrest⟩ : _ ∧ Derived x ∧ _ := by
        simpa only [List.forall_mem_cons] using ht.children
      dsimp only at htext hlegible ⊢
      rw [Tree.laterTexts, hchildren] at hlegible ⊢
      rw [hstart] at htext ⊢
      rw [hparts]
      have htoken : Puts [] b (b.visitToken k) :=
        .of_expr? (b.visitToken_frames k) (b.visitToken_expr? k)
      have hfirst := htoken.trans (stringPart_puts hx' hx.1 htext (1 :: path) _)
      obtain ⟨parts, htexts, hholds, hputs⟩ := interpolations_puts
        (fun y hy => hrest y (List.mem_append_left _ hy)) (fun y hy => (hxs y hy).2)
        (fun y hy => hlegible _ (List.mem_map_of_mem hy)) path 2 (hfirst.seated hb)
        (hfirst.focus?.symm ▸ hfocus)
      have hend : Visit.after ⟨path, .node .string extent (.token k :: x :: (xs ++ [.token l])), b⟩ =
          (walkList path 2 xs (walk (1 :: path) x (b.visitToken k))).visitToken l := by
        show walkList path 2 (xs ++ [.token l]) _ = _
        rw [walkList_append]
        rfl
      rw [hend]
      have hlast := (hfirst.trans hputs).trans (.of_expr? (visitToken_frames _ l)
        (visitToken_expr? _ l))
      rw [List.append_nil] at hlast
      exact ⟨parts, htexts, hholds, hlast⟩

/-- A string does not end with a name that could become longer. -/
theorem getLast?_stringItems (front : List Item) (text : String) (parts : List (Expr × String))
    (n : String) : (front ++ stringItems text parts).getLast? ≠ some (.name n) := by
  intro hlast
  rw [stringItems, List.getLast?_append_of_ne_nil _ (List.cons_ne_nil _ _)] at hlast
  rcases List.mem_cons.mp (List.mem_of_getLast? hlast) with h | h
  · cases h
  · obtain ⟨part, -, hpart⟩ := List.mem_flatMap.mp h
    simp [Expr.toItem] at hpart

/-! ## Walks -/

/-- The expressions of placeholders stay as they were put in. -/
theorem holes_kept (ht : Derived t) (hb : b.Seated) {us : List Visit}
    (hus : us ⊆ visits path t b) (hkind : ∀ u ∈ us, u.tree.isA .stringExprWithPart = true)
    {parts : List (Expr × String)} (h : List.Forall₂ Holds us parts) :
    (us.flatMap Visit.hole).map (fun w => (walk path t b).forest.expr? w.node) =
      parts.map fun part => some part.1 := by
  induction h with
  | nil => rfl
  | @cons u part us parts hone hrest ih =>
    obtain ⟨hu, hus⟩ := List.cons_subset.mp hus
    obtain ⟨hu', hkind⟩ := List.forall_mem_cons.mp hkind
    obtain ⟨w, hhole, hle, hx⟩ := hone
    have hbegun : u.begun = u.before := begun_eq (fun _ _ _ _ => rfl) hu'
    have hkept : (walk path t b).forest.expr? w.node = u.after.forest.expr? w.node :=
      Expr.Altered.rel_eq (walk_alters ht hb hu (Forest.lt_of_expr? _ hx)) (Nat.not_lt_of_le hle)
        (by rw [hbegun]; exact Nat.not_lt_of_le hle)
    rw [List.flatMap_cons, hhole, List.map_append, List.map_singleton, hkept, hx, ih hus hkind]
    rfl

/-- The items of a string stay in the expression that it stands in. -/
theorem string_kept (ht : Derived t) (hb : b.Seated) (hv : v ∈ visits path t b)
    (hid : v.before.focus? = some id) {text : String} {parts : List (Expr × String)}
    (hputs : Puts (stringItems text parts) v.before v.after) :
    ∃ x x', v.before.forest.expr? id = some x ∧ (walk path t b).forest.expr? id = some x' ∧
      x.items ++ stringItems text parts <+: x'.items := by
  have hwithin := within_of_visit ht hb hv
  obtain ⟨x, hx⟩ := hwithin.seated id hid
  have hafter := hputs.items id x hid hx
  have hlt := Forest.lt_of_expr? _ hafter
  have hrel := walk_alters ht hb hv hlt
  rw [hafter] at hrel
  generalize (walk path t b).forest.expr? id = y at hrel
  cases hrel with
  | @some _ x' h =>
    exact ⟨x, x', hx, rfl, h.grows _ (getLast?_stringItems _ _ _) (List.prefix_refl _)⟩

/-- An expression that is nothing but a string has the items of the string. -/
theorem string_whole (ht : Derived t) (hb : b.Seated) {w : Visit} (hw : w ∈ visits path t b)
    (hwhole : w.tree.isA .expr = true ∨ w.tree.isA .exprOperand = true)
    (hv : v ∈ w.parts .string) {text : String} {parts : List (Expr × String)}
    (hputs : Puts (stringItems text parts) v.before v.after) :
    ∃ e, (walk path t b).forest.expr? w.node = some e ∧ e.items = stringItems text parts := by
  have hwithin := within_of_visit ht hb hw
  obtain ⟨path', tree, b'⟩ := w
  cases tree with
  | token k => rcases hwhole with h | h <;> cases h
  | node p extent cs =>
    -- both productions stand for an expression with one child
    obtain ⟨hbegin, hexpr, x, rfl⟩ : enter b' path' (.node p extent cs) =
        b'.beginExpr path' (.node p extent cs) ∧ p.isExpression = true ∧ ∃ x, cs = [x] := by
      have hone : p = .expr ∨ p = .exprOperand := by
        simpa [Tree.isA, Tree.production?] using hwhole
      rcases hone with rfl | rfl
      · cases hwithin.derived.phrase rfl with
        | expr hx => exact ⟨rfl, rfl, _, rfl⟩
      · cases hwithin.derived.phrase rfl with
        | operand hx => exact ⟨rfl, rfl, _, rfl⟩
    let w : Visit := ⟨path', .node p extent [x], b'⟩
    have hcompiling := b'.beginExpr_compiling path' (.node p extent [x])
    have hbegun : w.begun = b'.beginExpr path' (.node p extent [x]) := hbegin
    obtain rfl : v = ⟨0 :: path', x, w.begun⟩ :=
      List.mem_singleton.mp (List.mem_filter.mp hv).1
    have hfocus : w.begun.focus? = some w.node := by
      rw [hbegun]
      exact Leaves.focus?_of_frames hcompiling.frames
    have hbuilt := hputs.items w.node _ hfocus (hbegun ▸ hcompiling.current)
    have hafter : w.after.forest = w.done.forest :=
      (exit_forest (.inr hexpr) w.done path' extent [x]).1
    have hbuilt : w.after.forest.expr? w.node =
        some ⟨(b'.jobOf path' w.tree).info, stringItems text parts⟩ := by
      rw [hafter]
      exact hbuilt
    have hrel := walk_alters ht hb hw (Forest.lt_of_expr? _ hbuilt)
    rw [hbuilt] at hrel
    generalize (walk path t b).forest.expr? w.node = y at hrel
    cases hrel with
    | @some _ e h => exact ⟨e, rfl, h.items (Nat.lt_irrefl _)⟩

/-- Interpolation is concatenation.  A string without bad escapes, in whichever expression it stands,
puts into it the text before its placeholders and, for each of its own placeholders in order, the
expression of the placeholder and the text after it; and these items stay there.  When they are run,
the string is the texts as written with the texts of the values between them, and the fault is that
of the first placeholder that has no value; a missing value is no text.  An expression that is
nothing but the string evaluates to it. -/
theorem strings_concatenate (ht : Derived t) (hb : b.Framed) (path : Tree.Path)
    (hv : v ∈ visits path t b) (hstring : v.tree.isA .string = true)
    (hlegible : ∀ s ∈ v.tree.ownText :: v.tree.laterTexts, (Text.decodeEscapes? s).isSome = true)
    (hid : v.before.focus? = some id) :
    ∃ parts : List (Expr × String),
      parts.map Prod.snd = v.tree.laterTexts ∧
      v.holes.map (fun w => (walk path t b).forest.expr? w.node) =
        parts.map (fun part => some part.1) ∧
      (∃ x x', v.before.forest.expr? id = some x ∧ (walk path t b).forest.expr? id = some x' ∧
        x.items ++ stringItems v.tree.ownText parts <+: x'.items) ∧
      (∀ lookup site stack, Item.runAll lookup site (stringItems v.tree.ownText parts) stack =
        evaluateAll lookup parts >>= fun values =>
          .ok (.string (v.tree.ownText ++ interleave values v.tree.laterTexts) :: stack)) ∧
      (∀ w ∈ visits path t b, w.tree.isA .expr = true ∨ w.tree.isA .exprOperand = true →
        v ∈ w.parts .string →
          ∃ e, (walk path t b).forest.expr? w.node = some e ∧
            ∀ lookup, e.evaluate lookup =
              ((evaluateAll lookup parts).map fun values =>
                .string (v.tree.ownText ++ interleave values v.tree.laterTexts)).mapError
                  (·.orAt (.expression e))) ∧
      Value.null.text = "" := by
  obtain ⟨htext, hlegible⟩ := List.forall_mem_cons.mp hlegible
  have hwithin := within_of_visit ht hb.seated hv
  obtain ⟨parts, htexts, hholds, hputs⟩ := string_puts hwithin.derived hstring hwithin.seated
    (Option.isSome_of_mem hid) htext hlegible
  refine ⟨parts, htexts, ?_, string_kept ht hb.seated hv hid hputs, ?_,
    fun w hw hwhole hown => ?_, rfl⟩
  · exact holes_kept ht hb.seated (parts_subset hv .stringExprWithPart)
      (fun u hu => (List.mem_filter.mp hu).2) hholds
  · intro lookup site stack
    rw [run_string, htexts]
  · obtain ⟨e, he, hitems⟩ := string_whole ht hb.seated hw hwhole hown hputs
    exact ⟨e, he, fun lookup => by rw [evaluate_string lookup hitems, htexts]⟩

section Example

/-! ### An example: `"a~{x}b"` -/

def openingToken : Token := ⟨.doubleQuote, "\"", ⟨0, 1, 1⟩, ⟨1, 1, 2⟩⟩
def frontToken : Token := ⟨.doubleFragment, "a", ⟨1, 1, 2⟩, ⟨2, 1, 3⟩⟩
def holeToken : Token := ⟨.placeholderOpen, "~\x7b", ⟨2, 1, 3⟩, ⟨4, 1, 5⟩⟩
def innerToken : Token := ⟨.name, "x", ⟨4, 1, 5⟩, ⟨5, 1, 6⟩⟩
def braceToken : Token := ⟨.rbrace, "\x7d", ⟨5, 1, 6⟩, ⟨6, 1, 7⟩⟩
def backToken : Token := ⟨.doubleFragment, "b", ⟨6, 1, 7⟩, ⟨7, 1, 8⟩⟩
def closingToken : Token := ⟨.doubleQuote, "\"", ⟨7, 1, 8⟩, ⟨8, 1, 9⟩⟩

def innerExpr : Tree :=
  .node .expr (some (.ofToken innerToken))
    [.node .leftName (some (.ofToken innerToken)) [.token innerToken]]

def holeTree : Tree :=
  .node .stringExprWithPart (some ⟨holeToken.start, backToken.stop⟩)
    [.node .stringExprPart (some ⟨holeToken.start, braceToken.stop⟩)
      [.node .placeholder (some (.ofToken innerToken)) [innerExpr]],
      .node .stringPart (some (.ofToken backToken)) [.token backToken]]

def stringTree : Tree :=
  .node .string (some ⟨openingToken.start, closingToken.stop⟩)
    [.token openingToken, .node .stringPart (some (.ofToken frontToken)) [.token frontToken],
      holeTree, .token closingToken]

def stringExpr : Tree := .node .expr (some ⟨openingToken.start, closingToken.stop⟩) [stringTree]

theorem part_makes {k : Token} (hk : k.terminal = .doubleFragment) :
    Makes (.nonterminal .doublePart) (some (.ofToken k))
      [.node .stringPart (some (.ofToken k)) [.token k]] [k] := by
  have hrule : (⟨.doublePart, [.terminal .doubleFragment], some .stringPart, false⟩ : Rule) ∈
      rules := by decide
  have htoken := makes_token k
  rw [Parse.Entry.trees, hk] at htoken
  exact makes_node hrule [(_, _, _, _)] rfl (List.forall_mem_singleton.mpr htoken)

theorem holeTree_makes :
    Makes (.nonterminal .doublePlaceholder) (some ⟨holeToken.start, backToken.stop⟩) [holeTree]
      [holeToken, innerToken, braceToken, backToken] := by
  have hplaceholder : (⟨.placeholder, [.nonterminal .expr], some .placeholder, false⟩ : Rule) ∈
      rules := by decide
  have hpart : (⟨.doubleExprPart, [.terminal .placeholderOpen, .nonterminal .placeholder,
      .terminal .rbrace], some .stringExprPart, false⟩ : Rule) ∈ rules := by decide
  have hwhole : (⟨.doublePlaceholder, [.nonterminal .doubleExprPart, .nonterminal .doublePart],
      some .stringExprWithPart, false⟩ : Rule) ∈ rules := by decide
  have hinner := makes_node hplaceholder [(.nonterminal .expr, _, _, _)] rfl
    (List.forall_mem_singleton.mpr (makes_nameExpr (k := innerToken) rfl))
  have hexpr := makes_node hpart
    [(.terminal .placeholderOpen, _, _, _), (.nonterminal .placeholder, _, _, _),
      (.terminal .rbrace, _, _, _)] rfl
    (List.forall_mem_cons.mpr ⟨makes_token holeToken, List.forall_mem_cons.mpr
      ⟨hinner, List.forall_mem_singleton.mpr (makes_token braceToken)⟩⟩)
  exact makes_node hwhole
    [(.nonterminal .doubleExprPart, _, _, _), (.nonterminal .doublePart, _, _, _)] rfl
    (List.forall_mem_cons.mpr ⟨hexpr, List.forall_mem_singleton.mpr (part_makes rfl)⟩)

theorem stringExpr_derived : Derived stringExpr := by
  have hstring : (⟨.doubleString, [.terminal .doubleQuote, .nonterminal .doublePart,
      .nonterminal .doublePlaceholders, .terminal .doubleQuote], some .string, false⟩ : Rule) ∈
        rules := by decide
  have hholes := makes_chain holeTree_makes [.doublePlaceholders] (by decide)
  have hwhole := makes_node hstring
    [(.terminal .doubleQuote, _, _, _), (.nonterminal .doublePart, _, _, _),
      (.nonterminal .doublePlaceholders, _, _, _), (.terminal .doubleQuote, _, _, _)] rfl
    (List.forall_mem_cons.mpr ⟨makes_token openingToken, List.forall_mem_cons.mpr
      ⟨part_makes (k := frontToken) rfl, List.forall_mem_cons.mpr
        ⟨hholes, List.forall_mem_singleton.mpr (makes_token closingToken)⟩⟩⟩)
  obtain ⟨e, hd, -, -, ht⟩ :=
    makes_expr (makes_chain hwhole [.string, .exprCore] (by decide))
  exact ⟨e, _, false, hd, ht ▸ List.mem_singleton.mpr rfl⟩

/-- The visits of the whole example and of the string. -/
def wholeVisit : Visit := ⟨[], stringExpr, emptyBuilder⟩
def stringVisit : Visit := ⟨[0], stringTree, wholeVisit.begun⟩

theorem strings_concatenate_x :
    Derived stringExpr ∧ emptyBuilder.Framed ∧ stringVisit ∈ visits [] stringExpr emptyBuilder ∧
      ∃ x e, (walk [] stringExpr emptyBuilder).forest.expr? 2 = some x ∧
        (walk [] stringExpr emptyBuilder).forest.expr? 1 = some e ∧
        ∀ lookup, e.evaluate lookup =
          ((x.evaluate lookup).map fun v => .string ("a" ++ (v.text ++ "b"))).mapError
            (·.orAt (.expression e)) := by
  have hframed : emptyBuilder.Framed := List.forall_mem_nil _
  have hvisit : stringVisit ∈ visits [] stringExpr emptyBuilder :=
    List.mem_cons_of_mem _ List.mem_cons_self
  have hfocus : stringVisit.before.focus? = some 1 := by decide +kernel
  obtain ⟨parts, htexts, hholes, -, -, hwhole, -⟩ :=
    strings_concatenate stringExpr_derived hframed [] hvisit rfl (by decide +kernel) hfocus
  obtain ⟨e, he, hvalue⟩ := hwhole wholeVisit List.mem_cons_self (.inl rfl)
    (List.mem_singleton.mpr rfl)
  obtain ⟨⟨x, text⟩, rfl⟩ : ∃ part, parts = [part] := by
    refine List.length_eq_one_iff.mp ?_
    rw [← List.length_map Prod.snd, htexts]
    rfl
  obtain rfl : text = "b" := (List.singleton_inj.mp htexts)
  refine ⟨stringExpr_derived, hframed, hvisit, x, e, List.singleton_inj.mp hholes, he,
    fun lookup => ?_⟩
  rw [hvalue, evaluateAll_cons]
  cases x.evaluate lookup <;> rfl

end Example

end Builder
end Wdl
