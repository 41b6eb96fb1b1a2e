import Wdl.Document.Parse
import Wdl.Proofs.Builder.Account
import Wdl.Proofs.Document.Sound
import Wdl.Proofs.Grammar.Sole
import Wdl.Proofs.Parse.Direct

/-!
Documents of texts.

The tokens of a text follow each other, so the tree of a text without errors is laid out in their
order, and a walk over it builds a document whose nodes keep to that order.  A line feed that is put
at the end of the text is no part of the last token, `stop_le_of_ended`, so all nodes lie within the
document.

A text can be read directly, without the tables of the parser, and then its tree can be evaluated:
`exists_tree_of_read`.
-/

namespace Wdl

/-- A text as it is read: it ends with a line feed. -/
def lexed (cs : List Char) : List Char :=
  if cs.getLast? == some '\n' then cs else cs ++ ['\n']

section Tokens

variable {text cs : List Char} {ks : List Token}

theorem inLine_of_within (hwithin : ∀ k ∈ ks, k.Within text)
    (hfollow : ks.Pairwise fun a b => a.stop.offset ≤ b.start.offset) : Parse.InLine ks :=
  ⟨fun k hk => (hwithin k hk).start_lt, hfollow⟩

/-- Tokens of which the last closes what stands before it end before the line feed that is put at
the end of a text. -/
theorem stop_le_of_ended (hwithin : ∀ k ∈ ks, k.Within (lexed cs))
    (hfollow : ks.Pairwise fun a b => a.stop.offset ≤ b.start.offset)
    (hclosing : ∀ k, ks.getLast? = some k → k.terminal.isClosing = true) {k : Token}
    (hk : k ∈ ks) : k.stop.offset ≤ cs.length := by
  unfold lexed at hwithin
  split at hwithin
  · exact (hwithin k hk).stop_le
  · rcases List.eq_nil_or_concat ks with rfl | ⟨front, last, rfl⟩
    · exact absurd hk List.not_mem_nil
    · rw [List.concat_eq_append] at hwithin hfollow hclosing hk
      have hin : last ∈ front ++ [last] := List.mem_append_right _ List.mem_cons_self
      have hlast := (hwithin last hin).stop_le_of_isClosing
        (hclosing last List.getLast?_concat)
      rcases List.mem_append.mp hk with hfront | hk
      · have hbefore := (List.pairwise_append.mp hfollow).2.2 k hfront last List.mem_cons_self
        exact Nat.le_trans hbefore
          (Nat.le_trans (Nat.le_of_lt (hwithin last hin).start_lt) hlast)
      · rw [List.mem_singleton.mp hk]
        exact hlast

end Tokens

section Trees

variable {origin : Origin} {limit : Int} {cs : List Char} {t : Tree}

/-- The tree of a text without errors is made from tokens that follow each other in the text as it
was before a line feed was put at its end. -/
theorem derives_of_parse
    (h : Parse.parse Language.documents origin limit (lexed cs) = ([], some t)) :
    ∃ (e : Parse.Entry) (ks : List Token), e.Derives Grammar.rules ks ∧
      e.symbol = .nonterminal .document ∧
      e.trees false = [t] ∧ (∀ k ∈ ks, k.Proper) ∧ Parse.InLine ks ∧
      ∀ k ∈ ks, k.stop.offset ≤ cs.length := by
  obtain ⟨e, ks, hderives, hsymbol, hhead, hwithin, hfollow⟩ := Parse.parse_accepts h
  obtain ⟨t', htrees⟩ := Grammar.exists_tree_of_document hderives hsymbol
  rw [htrees] at hhead
  obtain rfl := Option.some.inj hhead
  exact ⟨e, ks, hderives, hsymbol, htrees, fun k hk => (hwithin k hk).proper,
    inLine_of_within hwithin hfollow, fun k hk => stop_le_of_ended hwithin hfollow
      (fun k hk => Grammar.isClosing_of_closes hderives hsymbol rfl hk) hk⟩

/-- In the tree of a text without errors all spots lie within the text. -/
theorem spots_of_parse
    (h : Parse.parse Language.documents origin limit (lexed cs) = ([], some t)) :
    ∀ s ∈ t.spots, 0 ≤ s.2.start ∧ s.2.start ≤ s.2.stop ∧ s.2.stop < cs.length := by
  obtain ⟨e, ks, hderives, -, htrees, -, hline, hstop⟩ := derives_of_parse h
  have hspans := (hderives.lined Grammar.rules_solid hline false).spans
  rw [htrees] at hspans
  intro s hs
  obtain ⟨a, -, b, hb, hstart, hend, hlt⟩ := hspans s (List.mem_append_left _ hs)
  have hle := hstop b hb
  omega

/-- The tree of a text without errors is one that the grammar makes, its productions lie in the
order of the text, within the text as it was before a line feed was put at its end, and no kind and
place is given twice. -/
theorem laidOut_of_parse
    (h : Parse.parse Language.documents origin limit (lexed cs) = ([], some t)) :
    Grammar.IsTree .document t ∧ Layout.ordered.LaidOut t ∧ t.Sole ∧
      ∀ s ∈ t.spots, Layout.ordered.within s.2 ⟨0, (max cs.length 1 : Nat) - 1⟩ := by
  obtain ⟨e, ks, hderives, hsymbol, htrees, hproper, hline, -⟩ := derives_of_parse h
  have hlaid := (hderives.lined Grammar.rules_solid hline false).laidOut
  have hown := Grammar.own_trees hderives hline false
  rw [htrees] at hlaid hown
  refine ⟨⟨e, ks, hderives, hsymbol, htrees, hproper⟩, hlaid.1, hown.1.sole hlaid.1,
    fun s hs => ?_⟩
  have hwithin := spots_of_parse h s hs
  show s.2.start ≤ s.2.stop ∧ 0 ≤ s.2.start ∧ s.2.stop ≤ (max cs.length 1 : Nat) - 1
  omega

end Trees

namespace Builder

/-- Where nodes keep to the order of a text and the document is not upside down, the check finds
nothing wrong. -/
theorem Orderly.check {b : Builder} (h : Orderly .ordered b)
    (hroot : (b.forest.span b.document).start ≤ (b.forest.span b.document).stop) :
    b.forest.Sound b.document ∧
      ∃ a, b.forest.ast? b.document = some a ∧ a.violations = [] := by
  have hsound := h.placed.sound h.steady.linked hroot
  obtain ⟨a, ha, -, hnone⟩ := hsound.check h.steady.linked h.steady.document_lt
  exact ⟨hsound, a, ha, hnone⟩

theorem start_span (f : Forest) (path : String) (stop : Int) (origin : Origin)
    (source : List Char) (keywords : List String) (errors : List SyntaxError) :
    ∃ q, (start f path stop origin source keywords errors).forest.profile? f.nextNode = some q ∧
      q.span = ⟨0, stop⟩ :=
  ⟨_, Forest.profile?_of_node? _ (f.node?_addNode_self
    ⟨.document { path, scope := f.nextScope }, ⟨0, stop⟩, none, none⟩), rfl⟩

/-- A document of a text is begun with the errors of its parse, and its tree is walked over. -/
theorem ofText_eq (f : Forest) {text uri abspath : String} {limit : Int}
    {errors : List SyntaxError} {tree : Option Tree}
    (hparse : Parse.parse Language.documents (.ofNames uri abspath) limit (lexed text.toList) =
      (errors, tree)) :
    ofText f text uri abspath limit =
      (tree.elim id (walk [])
        (start f uri ((max text.toList.length 1 : Nat) - 1) (.ofNames uri abspath)
          (lexed text.toList) Language.keywords errors)).finish := by
  unfold ofText
  unfold lexed at hparse ⊢
  dsimp only
  rw [hparse]
  cases tree <;> rfl

/-- What the document of a text without syntax errors begins with. -/
abbrev startText (f : Forest) (text uri abspath : String) : Builder :=
  start f uri ((max text.toList.length 1 : Nat) - 1) (.ofNames uri abspath) (lexed text.toList)
    Language.keywords []

/-- A text without syntax errors gives the document alone, or a walk over its tree builds it without
errors. -/
theorem ofText_cases (f : Forest) (text uri abspath : String) (limit : Int)
    (hclean : (ofText f text uri abspath limit).syntaxErrors = []) :
    ofText f text uri abspath limit = (startText f text uri abspath).finish ∨
      ∃ t, Parse.parse Language.documents (.ofNames uri abspath) limit (lexed text.toList) =
          ([], some t) ∧
        ofText f text uri abspath limit = (walk [] t (startText f text uri abspath)).finish ∧
        (walk [] t (startText f text uri abspath)).syntaxErrors = [] := by
  obtain ⟨errors, tree, hparse⟩ : ∃ errors tree, Parse.parse Language.documents
      (.ofNames uri abspath) limit (lexed text.toList) = (errors, tree) := ⟨_, _, rfl⟩
  rw [ofText_eq f hparse] at hclean ⊢
  replace hclean := finish_clean hclean
  cases tree with
  | none =>
    obtain rfl : errors = [] := hclean
    exact .inl rfl
  | some t =>
    have hgrows := walk_errors [] t (start f uri ((max text.toList.length 1 : Nat) - 1)
      (.ofNames uri abspath) (lexed text.toList) Language.keywords errors)
    obtain rfl : errors = [] := List.prefix_nil.mp (hclean ▸ hgrows)
    exact .inr ⟨t, hparse, rfl, hclean⟩

/-- A walk over the tree of a text without syntax errors keeps to the order of the text. -/
theorem grown_of_parse (f : Forest) {text uri abspath : String} {limit : Int} {t : Tree}
    (h : Parse.parse Language.documents (.ofNames uri abspath) limit (lexed text.toList) =
      ([], some t)) :
    Grown .ordered (startText f text uri abspath) (walk [] t (startText f text uri abspath))
      t.preorder (reps [] t (startText f text uri abspath))
      (faults [] t (startText f text uri abspath)) := by
  obtain ⟨htree, hlaid, -, hwithin⟩ := laidOut_of_parse h
  exact grown_of_isTree htree hlaid f uri _ (.ofNames uri abspath) (lexed text.toList)
    Language.keywords [] hwithin

theorem exists_tree_of_read {text : String} {p : Tree → Bool}
    (h : (Parse.readTree .document (lexed text.toList)).any p = true) :
    ∃ t, (∀ origin limit, Parse.parse Language.documents origin limit (lexed text.toList) =
      ([], some t)) ∧ p t = true := by
  obtain ⟨t, ht, hp⟩ := (Option.any_eq_true ..).mp h
  exact ⟨t, fun _ _ => Parse.parse_of_readTree (by decide) ht, hp⟩

/-- A text with a task that has an input and a command with a placeholder. -/
def echoText : String :=
  "version 1.1\ntask t \x7b\n  input \x7b Int x \x7d\n  command \x7b echo ~\x7bx\x7d \x7d\n\x7d\n"

/-- There are no errors in a document, whose only task is node 1, with two elements and a command
with one placeholder, and in which node 5 is an expression. -/
structure Echo (b : Builder) : Prop where
  syntaxErrors : b.syntaxErrors = []
  problems : b.problems = []
  document : ∃ d, b.forest.body? 0 = some (.document d) ∧ d.tasks = [1]
  task : ∃ x c, b.forest.body? 1 = some (.task x c) ∧ x.rawElements.length = 2 ∧
    c.command = [" echo ", "~\x7bx\x7d", " "]
  expression : (b.forest.expr? 5).isSome = true

/-- `Echo` as it is evaluated. -/
def isEcho (b : Builder) : Bool :=
  b.syntaxErrors.isEmpty && b.problems.isEmpty &&
    (match b.forest.body? 0 with
    | some (.document d) => d.tasks == [1]
    | _ => false) &&
    (match b.forest.body? 1 with
    | some (.task x c) =>
      x.rawElements.length == 2 && c.command == [" echo ", "~\x7bx\x7d", " "]
    | _ => false) &&
    (b.forest.expr? 5).isSome

theorem echo_of_isEcho {b : Builder} (h : isEcho b = true) : Echo b := by
  simp only [isEcho, Bool.and_eq_true] at h
  obtain ⟨⟨⟨⟨herrors, hproblems⟩, hdocument⟩, htask⟩, hexpression⟩ := h
  refine ⟨List.isEmpty_iff.mp herrors, List.isEmpty_iff.mp hproblems, ?_, ?_, hexpression⟩
  · split at hdocument
    · next d hd => exact ⟨d, hd, beq_iff_eq.mp hdocument⟩
    · exact nomatch hdocument
  · split at htask
    · next x c hx =>
      obtain ⟨hlength, hcommand⟩ := Bool.and_eq_true _ _ ▸ htask
      exact ⟨x, c, hx, beq_iff_eq.mp hlength, beq_iff_eq.mp hcommand⟩
    · exact nomatch htask

set_option maxRecDepth 100000 in
theorem exists_echoTree :
    ∃ t, (∀ origin limit, Parse.parse Language.documents origin limit (lexed echoText.toList) =
      ([], some t)) ∧ Echo (walk [] t (startText {} echoText "" "")).finish := by
  have hread : (Parse.readTree .document (lexed echoText.toList)).any
      (fun t => isEcho (walk [] t (startText {} echoText "" "")).finish) = true := by decide +kernel
  obtain ⟨t, hparse, hecho⟩ := exists_tree_of_read hread
  exact ⟨t, hparse, echo_of_isEcho hecho⟩

theorem ofText_echoText (limit : Int) : Echo (ofText {} echoText "" "" limit) := by
  obtain ⟨t, hparse, hecho⟩ := exists_echoTree
  rw [ofText_eq {} (hparse (.ofNames "" "") limit)]
  exact hecho

/-- A text without syntax errors makes a sound document, in which the check of spans finds nothing
wrong; and the productions of its tree lie in the order of the text. -/
theorem ofText_sound (f : Forest) (text uri abspath : String) (limit : Int) :
    (∀ t, Parse.parse Language.documents (.ofNames uri abspath) limit (lexed text.toList) =
        ([], some t) → Layout.ordered.LaidOut t) ∧
    ((ofText f text uri abspath limit).syntaxErrors = [] →
      (ofText f text uri abspath limit).forest.span f.nextNode =
          ⟨0, (max text.toList.length 1 : Nat) - 1⟩ ∧
        (ofText f text uri abspath limit).forest.Sound f.nextNode ∧
        ∃ a, (ofText f text uri abspath limit).forest.ast? f.nextNode = some a ∧
          a.violations = []) := by
  refine ⟨fun t h => (laidOut_of_parse h).2.1, fun hclean => ?_⟩
  have hend : ∀ b : Builder, Orderly .ordered b → b.document = f.nextNode →
      (∃ q, b.forest.profile? f.nextNode = some q ∧
        q.span = ⟨0, (max text.toList.length 1 : Nat) - 1⟩) →
      b.forest.span f.nextNode = ⟨0, (max text.toList.length 1 : Nat) - 1⟩ ∧
        b.forest.Sound f.nextNode ∧
        ∃ a, b.forest.ast? f.nextNode = some a ∧ a.violations = [] := by
    rintro b horderly hdocument ⟨q, hq, hqspan⟩
    have hspan := (Forest.span_of_profile? hq).trans hqspan
    rw [← hdocument] at hspan ⊢
    refine ⟨hspan, horderly.check ?_⟩
    rw [hspan]
    show (0 : Int) ≤ (max text.toList.length 1 : Nat) - 1
    omega
  rcases ofText_cases f text uri abspath limit hclean with heq | ⟨t, hparse, heq, -⟩
  · rw [heq, finish_forest]
    exact hend _ (start_orderly ..) rfl (start_span ..)
  · rw [heq, finish_forest]
    have hgrown := grown_of_parse f hparse
    refine hend _ hgrown.orderly hgrown.document ?_
    obtain ⟨q, hq, hspan⟩ := start_span f uri _ (.ofNames uri abspath) (lexed text.toList)
      Language.keywords []
    exact ⟨q, (hgrown.profile? _ (Forest.lt_of_profile? _ hq)).trans hq, hspan⟩

/-- The text with a task makes a sound document. -/
theorem ofText_sound_echo :
    (ofText {} echoText "" "" 64).syntaxErrors = [] ∧
      (ofText {} echoText "" "" 64).forest.span 0 = ⟨0, 64⟩ ∧
      (ofText {} echoText "" "" 64).forest.Sound 0 ∧
      ∃ a, (ofText {} echoText "" "" 64).forest.ast? 0 = some a ∧ a.violations = [] :=
  have hclean := (ofText_echoText 64).syntaxErrors
  have hstop : ((max echoText.toList.length 1 : Nat) - 1 : Int) = 64 := by decide +kernel
  ⟨hclean, hstop ▸ (ofText_sound {} echoText "" "" 64).2 hclean⟩

end Builder
end Wdl
