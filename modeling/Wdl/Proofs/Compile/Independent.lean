import Wdl.Proofs.Compile.Documents
import Wdl.Proofs.Grammar.Phrase
import Wdl.Proofs.Lexer.Tokens

/-!
Compilation does not depend on its context.

Two trees with the same productions and the same texts of tokens leave the same residue.  An
expression is compiled in a frame of its own, so its items are those of the residue of its tree
wherever the walk begins: outside of all sections, in an attached section or in a refused one, or
inside of another expression.

A number in an option is an integer or a floating point number by the terminal of its token.  The
terminal is determined by the text: an integer is all digits, and a floating point number is not.
So a tree that the grammar makes can be read by the texts of its tokens alone.
-/

namespace Wdl

/-! ## The numbers of placeholder options -/

namespace Lexer

theorem countWhile_stops {p : Char → Bool} {cs : List Char} {c : Char}
    (h : cs[countWhile p cs]? = some c) : p c = false := by
  induction cs with
  | nil => exact nomatch h
  | cons d ds ih =>
    unfold countWhile at h
    split at h
    · exact ih h
    · next hd =>
      obtain rfl := Option.some.inj h
      exact Bool.eq_false_iff.mpr hd

/-- A number with a point or an exponent goes on after its first digits. -/
theorem countWhile_lt_of_float? {cs : List Char} {n : Nat} (h : float? cs = some n) :
    countWhile isDigit cs < n := by
  unfold float? at h
  dsimp only at h
  rcases Option.or_eq_some_iff.mp h with hplain | ⟨-, hpointed⟩
  · split at hplain
    · exact nomatch hplain
    · obtain ⟨m, hm, rfl⟩ := Option.map_eq_some_iff.mp hplain
      have := (exponent?_fits _ m hm).1
      omega
  · unfold pointed? at hpointed
    dsimp only at hpointed
    split at hpointed
    · split at hpointed
      · exact nomatch hpointed
      · have := Option.some.inj hpointed
        omega
    · exact nomatch hpointed

end Lexer

namespace Token

/-- The token is an integer just if its text is all digits. -/
def Numeral (k : Token) : Prop :=
  k.terminal = .int ↔ ∀ c ∈ k.text.toList, Lexer.isDigit c = true

theorem numeral_of_int {k : Token} (hk : k.Proper) (ht : k.terminal = .int) : k.Numeral := by
  refine ⟨fun _ c hc => ?_, fun _ => ht⟩
  obtain ⟨rest, hrest⟩ := hk
  rw [ht] at hrest
  have hcount := (Lexer.positive_eq_some (show Lexer.digits? _ = _ from hrest)).1
  obtain ⟨i, hi, rfl⟩ := List.mem_iff_getElem.mp hc
  have hcounted : i < Lexer.countWhile Lexer.isDigit (k.text.toList ++ rest) := by omega
  obtain ⟨d, hd, hdigit⟩ := Lexer.countWhile_holds hcounted
  rw [List.getElem?_append_left hi, List.getElem?_eq_getElem hi] at hd
  rw [Option.some.inj hd]
  exact hdigit

theorem numeral_of_float {k : Token} (hk : k.Proper) (ht : k.terminal = .float) : k.Numeral := by
  refine ⟨fun hint => ?_, fun hall => ?_⟩
  · rw [ht] at hint
    exact nomatch hint
  · obtain ⟨rest, hrest⟩ := hk
    rw [ht] at hrest
    have hlt := Lexer.countWhile_lt_of_float? (show Lexer.float? _ = _ from hrest)
    let n := Lexer.countWhile Lexer.isDigit (k.text.toList ++ rest)
    have hsome : (k.text.toList ++ rest)[n]? = some (k.text.toList.get ⟨n, hlt⟩) := by
      rw [List.getElem?_append_left hlt]
      exact List.getElem?_eq_getElem hlt
    have hstop := Lexer.countWhile_stops hsome
    rw [hall _ (List.get_mem _ _)] at hstop
    exact nomatch hstop

end Token

namespace Tree

/-- What a node of a placeholder option is: a name and a value, which is a text or a number whose
token tells by its text which kind of number it is. -/
def ReadsOption (p : Production) (cs : List Tree) : Prop :=
  (p = .placeholderOption → ∃ k v, cs = [.token k, v] ∧ v.isA .placeholderValue = true) ∧
    (p = .placeholderValue → ∀ k rest, cs = .token k :: rest → k.Numeral)

mutual

/-- All options in a tree can be read by the texts of tokens. -/
def Numeric : Tree → Prop
  | .token _ => True
  | .node p _ cs => ReadsOption p cs ∧ NumericList cs

def NumericList : List Tree → Prop
  | [] => True
  | c :: cs => Numeric c ∧ NumericList cs

end

theorem numericList_iff {cs : List Tree} : NumericList cs ↔ ∀ c ∈ cs, c.Numeric := by
  induction cs with
  | nil => simp [NumericList]
  | cons c cs ih => rw [NumericList, ih, List.forall_mem_cons]

end Tree

namespace Grammar

open Parse

/-- Whether a rule for the value of an option takes a text or a number, and options are made for
their own nonterminal. -/
def takesNumber (r : Rule) : Bool :=
  (r.production != some .placeholderValue ||
    [[.nonterminal .stringLiteral], [.terminal .int], [.terminal .float]].contains r.rhs) &&
  (r.production != some .placeholderOption || r.lhs == .placeholderOption)

theorem rules_takeNumber : rules.all takesNumber = true := by decide +kernel

/-- The trees of a nonterminal have its shape, and their options can be read by texts. -/
def Read (n : Nonterminal) (ts : List Tree) : Prop :=
  Shaped Token.Proper n ts ∧ ∀ t ∈ ts, t.Numeric

/-- The value of an option is not a token unless it is a number. -/
theorem numeral_of_handed {rule : Rule} (hrule : rule ∈ rules)
    (hp : rule.production = some .placeholderValue) {ts : List Tree}
    (h : HandedAll Token.Proper Read rule.verbatim rule.rhs ts) {k : Token} {rest : List Tree}
    (hts : ts = .token k :: rest) : k.Numeral := by
  have htakes := List.all_eq_true.mp rules_takeNumber rule hrule
  unfold takesNumber at htakes
  rw [Bool.and_eq_true] at htakes
  replace htakes := htakes.1
  simp only [hp, bne_self_eq_false, Bool.false_or, List.contains_eq_mem, List.mem_cons,
    List.not_mem_nil, or_false, decide_eq_true_eq] at htakes
  have hnumber : ∀ a : Terminal, HandedAll Token.Proper Read rule.verbatim [.terminal a] ts →
      k.Proper ∧ k.terminal = a := by
    rintro a ⟨front, back, ⟨k', hk', hterminal, rfl⟩, rfl, hfront⟩
    rw [hts, List.append_nil] at hfront
    unfold Entry.trees at hfront
    dsimp only at hfront
    split at hfront
    · obtain rfl := Tree.token.inj (List.cons.inj hfront).1
      exact ⟨hk', hterminal⟩
    · exact nomatch hfront
  rcases htakes with hrhs | hrhs | hrhs
  · rw [hrhs] at h
    obtain ⟨front, back, hfront, rfl, rfl⟩ := h
    obtain ⟨t, ht, rfl⟩ := hfront.1
    cases ht
    exact nomatch hts
  · rw [hrhs] at h
    obtain ⟨hproper, hterminal⟩ := hnumber _ h
    exact Token.numeral_of_int hproper hterminal
  · rw [hrhs] at h
    obtain ⟨hproper, hterminal⟩ := hnumber _ h
    exact Token.numeral_of_float hproper hterminal

theorem closed_read : Closed Token.Proper Read rules := by
  intro rule hrule ts extent hts
  have hshaped := closed_shape rule hrule ts extent (handedAll_mono (fun _ _ h => h.1) hts)
  have hnumeric := forall_of_handed (P := Tree.Numeric) (fun _ => trivial) (fun _ _ h => h.2) hts
  refine ⟨hshaped, ?_⟩
  unfold wrap at hshaped ⊢
  cases hp : rule.production with
  | none => exact hnumeric
  | some p =>
    refine List.forall_mem_singleton.mpr ⟨⟨?_, ?_⟩, Tree.numericList_iff.mpr hnumeric⟩
    · rintro rfl
      have htakes := List.all_eq_true.mp rules_takeNumber rule hrule
      unfold takesNumber at htakes
      rw [Bool.and_eq_true, hp] at htakes
      have hlhs : rule.lhs = .placeholderOption := by simpa using htakes.2
      rw [hp, hlhs] at hshaped
      obtain ⟨t, ht, heq⟩ := hshaped
      obtain rfl := (List.cons.inj heq).1
      cases ht with
      | placeholderOption k hx => cases hx <;> exact ⟨k, _, rfl, rfl⟩
    · rintro rfl k rest heq
      exact numeral_of_handed hrule hp hts heq

theorem IsTree.numeric {n : Nonterminal} {t : Tree} (h : IsTree n t) : t.Numeric :=
  (h.shape closed_read).2 t (List.mem_singleton.mpr rfl)

end Grammar

open Builder

namespace Tree

mutual

/-- Two trees have the same productions and the same texts of tokens. -/
inductive SameWords : Tree → Tree → Prop
  | token {k l : Token} : k.text = l.text → SameWords (.token k) (.token l)
  | node {p : Production} {e e' : Option Extent} {cs ds : List Tree} :
    SameWordsList cs ds → SameWords (.node p e cs) (.node p e' ds)

inductive SameWordsList : List Tree → List Tree → Prop
  | nil : SameWordsList [] []
  | cons {c d : Tree} {cs ds : List Tree} :
    SameWords c d → SameWordsList cs ds → SameWordsList (c :: cs) (d :: ds)

end

/-! ## What events read -/

section Words

variable {t u : Tree} {cs ds : List Tree}

theorem SameWords.production? (h : SameWords t u) : t.production? = u.production? := by
  cases h <;> rfl

theorem SameWords.isA (h : SameWords t u) (p : Production) : t.isA p = u.isA p := by
  rw [Tree.isA, Tree.isA, h.production?]

theorem SameWords.tokenText? (h : SameWords t u) : t.tokenText? = u.tokenText? := by
  cases h with
  | token h => exact congrArg some h
  | node h => rfl

theorem SameWords.children (h : SameWords t u) : SameWordsList t.children u.children := by
  cases h with
  | token h => exact .nil
  | node h => exact h

theorem SameWordsList.getElem? (h : SameWordsList cs ds) (i : Nat) :
    (cs[i]? = none ∧ ds[i]? = none) ∨
      ∃ c d, cs[i]? = some c ∧ ds[i]? = some d ∧ SameWords c d := by
  induction cs generalizing ds i with
  | nil =>
    cases h
    exact .inl ⟨rfl, rfl⟩
  | cons c cs ih =>
    cases h with
    | cons hone hrest =>
      cases i with
      | zero => exact .inr ⟨c, _, rfl, rfl, hone⟩
      | succ i => exact ih hrest i

theorem SameWordsList.filter (h : SameWordsList cs ds) (p : Production) :
    SameWordsList (cs.filter (·.isA p)) (ds.filter (·.isA p)) := by
  induction cs generalizing ds with
  | nil =>
    cases h
    exact .nil
  | cons c cs ih =>
    cases h with
    | cons hone hrest =>
      rw [List.filter_cons, List.filter_cons, hone.isA p]
      split
      · exact .cons hone (ih hrest)
      · exact ih hrest

theorem SameWordsList.length (h : SameWordsList cs ds) : cs.length = ds.length := by
  induction cs generalizing ds with
  | nil =>
    cases h
    rfl
  | cons c cs ih =>
    cases h with
    | cons hone hrest => exact congrArg Nat.succ (ih hrest)

theorem SameWords.childText (h : SameWords t u) (i : Nat) : t.childText i = u.childText i := by
  unfold Tree.childText
  rcases h.children.getElem? i with ⟨hc, hd⟩ | ⟨c, d, hc, hd, hsame⟩
  · rw [hc, hd]
  · rw [hc, hd, Option.bind_some, Option.bind_some, hsame.tokenText?]

theorem SameWords.count (h : SameWords t u) (p : Production) : t.count p = u.count p :=
  (h.children.filter p).length

theorem SameWords.tokenText (h : SameWords t u) : t.tokenText = u.tokenText := by
  have hall : ∀ {cs ds : List Tree}, SameWordsList cs ds →
      cs.filterMap Tree.tokenText? = ds.filterMap Tree.tokenText? := by
    intro cs
    induction cs with
    | nil =>
      intro ds h
      cases h
      rfl
    | cons c cs ih =>
      intro ds h
      cases h with
      | cons hone hrest =>
        rw [List.filterMap_cons, List.filterMap_cons, hone.tokenText?, ih hrest]
  rw [Tree.tokenText, Tree.tokenText, hall h.children]

theorem SameWords.isName (h : SameWords t u) : Builder.isName t = Builder.isName u := by
  rw [Builder.isName, Builder.isName, h.isA, h.isA]

theorem SameWords.literalText? (h : SameWords t u) :
    Builder.literalText? t = Builder.literalText? u := by
  rw [Builder.literalText?, Builder.literalText?, h.childText]

theorem SameWordsList.named (h : SameWordsList cs ds) :
    (cs.head?.map Builder.isName).getD false = (ds.head?.map Builder.isName).getD false := by
  cases h with
  | nil => rfl
  | cons hone hrest => exact hone.isName

end Words

/-! ## Options -/

/-- The value of an option is told by the texts of its tokens. -/
theorem SameWords.optionValue? {v w : Tree} (h : SameWords v w)
    (hv : ∀ k rest, v.children = .token k :: rest → k.Numeral)
    (hw : ∀ k rest, w.children = .token k :: rest → k.Numeral) :
    Builder.optionValue? v = Builder.optionValue? w := by
  unfold Builder.optionValue?
  cases h with
  | token h => rfl
  | @node p e e' cs ds h =>
    cases h with
    | nil => rfl
    | cons hone hrest =>
      cases hone with
      | @token k l htext =>
        have hk : k.terminal = .int ↔ _ := hv k _ rfl
        have hl : l.terminal = .int ↔ _ := hw l _ rfl
        have hterminal : (k.terminal == .int) = (l.terminal == .int) := by
          rw [Bool.eq_iff_iff, beq_iff_eq, beq_iff_eq, hk, hl, htext]
        dsimp only [Tree.children]
        rw [hterminal, htext]
      | node h =>
        dsimp only [Tree.children]
        rw [(SameWords.node h).literalText?]

theorem Numeric.option {t v : Tree} (h : t.Numeric) (ht : t.isA .placeholderOption = true)
    (hv : t.children[1]? = some v) : ∀ k rest, v.children = .token k :: rest → k.Numeral := by
  cases t with
  | token k => cases ht
  | node p e cs =>
    obtain rfl : p = .placeholderOption := by simpa [isA, Tree.production?] using ht
    obtain ⟨⟨hshape, -⟩, hchildren⟩ := h
    obtain ⟨k, w, rfl, hvalue⟩ := hshape rfl
    obtain rfl : w = v := by simpa [Tree.children] using hv
    have hw : w.Numeric := hchildren.2.1
    cases w with
    | token l => cases hvalue
    | node q e' ds =>
      obtain rfl : q = .placeholderValue := by simpa [isA, Tree.production?] using hvalue
      exact hw.1.2 rfl

theorem SameWordsList.givenOptions {cs ds : List Tree} (h : SameWordsList cs ds)
    (hcs : ∀ c ∈ cs, c.Numeric ∧ c.isA .placeholderOption = true)
    (hds : ∀ d ∈ ds, d.Numeric ∧ d.isA .placeholderOption = true)
    (options : List (String × Value)) :
    Wdl.givenOptions cs options = Wdl.givenOptions ds options := by
  induction cs generalizing ds options with
  | nil =>
    cases h
    rfl
  | cons c cs ih =>
    cases h with
    | cons hone hmore =>
      obtain ⟨hc, hcs⟩ := List.forall_mem_cons.mp hcs
      obtain ⟨hd, hds⟩ := List.forall_mem_cons.mp hds
      have hrest := ih hmore hcs hds
      unfold Wdl.givenOptions
      dsimp only
      rw [hone.childText 0]
      split
      · exact hrest options
      · rcases hone.children.getElem? 1 with ⟨hnone, hnone'⟩ | ⟨v, w, hv, hw, hsame⟩
        · rw [hnone, hnone']
          exact hrest options
        · rw [hv, hw]
          dsimp only
          rw [hsame.optionValue? (hc.1.option hc.2 hv) (hd.1.option hd.2 hw)]
          split
          · exact hrest _
          · rfl

/-! ## Residues -/

theorem SameWords.opened {t u : Tree} (h : SameWords t u) :
    Residue.opened t = Residue.opened u := by
  unfold Residue.opened
  rw [h.production?, h.childText]

theorem SameWordsList.closeEntry {cs ds : List Tree} (h : SameWordsList cs ds) (r : Residue) :
    r.closeEntry cs = r.closeEntry ds := by
  unfold Residue.closeEntry
  cases h with
  | nil => rfl
  | cons hone hrest =>
    cases hone with
    | token htext =>
      dsimp only
      rw [htext]
    | node h =>
      dsimp only
      rw [(SameWords.node h).literalText?]

theorem SameWords.close {t u : Tree} (h : SameWords t u) (ht : t.Numeric) (hu : u.Numeric)
    (r : Residue) : r.close t = r.close u := by
  have hoptions : Wdl.givenOptions (t.childrenOf .placeholderOption) [] =
      Wdl.givenOptions (u.childrenOf .placeholderOption) [] := by
    have hnumeric : ∀ {t : Tree}, t.Numeric → ∀ c ∈ t.childrenOf .placeholderOption,
        c.Numeric ∧ c.isA .placeholderOption = true := by
      intro t ht c hc
      obtain ⟨hmem, hisA⟩ := List.mem_filter.mp hc
      cases t with
      | token k => exact absurd hmem List.not_mem_nil
      | node p e cs => exact ⟨numericList_iff.mp ht.2 c hmem, hisA⟩
    exact (h.children.filter .placeholderOption).givenOptions (hnumeric ht) (hnumeric hu) []
  have hentry := h.children.closeEntry r
  have hnamed := h.children.named
  unfold Residue.close
  rw [h.production?]
  simp only [h.childText, h.count, h.tokenText, hoptions, hentry, hnamed]

mutual

/-- What a tree leaves is determined by its productions and the texts of its tokens. -/
theorem SameWords.residue : {t u : Tree} → SameWords t u → t.Numeric → u.Numeric →
    t.residue = u.residue
  | _, _, .token _, _, _ => rfl
  | _, _, .node h, ht, hu => by
    rw [Tree.residue, Tree.residue, SameWordsList.residueList h ht.2 hu.2,
      SameWords.opened (.node h), SameWords.close (.node h) ht hu]

theorem SameWordsList.residueList : {cs ds : List Tree} → SameWordsList cs ds → NumericList cs →
    NumericList ds → Tree.residueList cs = Tree.residueList ds
  | _, _, .nil, _, _ => rfl
  | _, _, .cons hone hrest, hcs, hds => by
    rw [Tree.residueList, Tree.residueList, SameWords.residue hone hcs.1 hds.1,
      SameWordsList.residueList hrest hcs.2 hds.2]

end

mutual

/-- A tree has the same words as itself, at whatever places. -/
theorem SameWords.refl (t : Tree) : SameWords t t := by
  cases t with
  | token k => exact .token rfl
  | node p e cs => exact .node (SameWordsList.refl cs)

theorem SameWordsList.refl (cs : List Tree) : SameWordsList cs cs := by
  cases cs with
  | nil => exact .nil
  | cons c cs => exact .cons (SameWords.refl c) (SameWordsList.refl cs)

end

end Tree

namespace Builder

/-- The expression that a walk over its tree builds, wherever the walk begins. -/
theorem exists_built {t : Tree} (ht : Grammar.IsTree .expr t) (path : Tree.Path) (b : Builder) :
    ∃ x, (walk path t b).forest.expr? b.forest.nextNode = some x ∧
      t.residue = { waiting := [⟨{ span := ⟨0, 0⟩ }, Item.placelessList x.items⟩] } := by
  have hsupplied := ht.derived.supplied
  obtain ⟨u, hu, heq⟩ := ht.shape Grammar.closed_shape
  obtain rfl := (List.cons.inj heq).1
  cases hu with
  | @expr e y hy =>
    have hb := builds_expression (e := e) (p := .expr) rfl
      (walkList_restores path 0 [y] hsupplied.2) b
    obtain ⟨x, hx, hplaceless⟩ := hb.built
    refine ⟨x, hx, ?_⟩
    have hitems : Item.placelessList x.items = (Tree.residueList [y]).items :=
      congrArg Expr.items hplaceless
    rw [residue_expression rfl, hitems]

/-- The expression that a walk builds is determined by the productions and the texts of the tokens
of its tree: its items are the same whatever the builder has seen and whatever sections and
expressions are open, and so are those of nested expressions and the options that placeholders give
them, up to the places of the text. -/
theorem walk_expr_independent {t u : Tree} (ht : Grammar.IsTree .expr t)
    (hu : Grammar.IsTree .expr u) (h : t.SameWords u) (path path' : Tree.Path) (b b' : Builder) :
    ∃ x y, (walk path t b).forest.expr? b.forest.nextNode = some x ∧
      (walk path' u b').forest.expr? b'.forest.nextNode = some y ∧
      Item.placelessList x.items = Item.placelessList y.items := by
  obtain ⟨x, hx, hresidue⟩ := exists_built ht path b
  obtain ⟨y, hy, hresidue'⟩ := exists_built hu path' b'
  refine ⟨x, y, hx, hy, ?_⟩
  have hsame := h.residue ht.numeric hu.numeric
  rw [hresidue, hresidue'] at hsame
  have hexprs := (List.cons.inj (congrArg Residue.waiting hsame)).1
  exact congrArg Expr.items hexprs

/-- The same sum by itself and inside of an open expression. -/
theorem walk_expr_independent_sum :
    Grammar.IsTree .expr sumTree ∧ sumTree.SameWords sumTree ∧
      ∃ x y, (walk [] sumTree emptyBuilder).forest.expr? emptyBuilder.forest.nextNode = some x ∧
        (walk [0, 7] sumTree openBuilder).forest.expr? openBuilder.forest.nextNode = some y ∧
        Item.placelessList x.items = Item.placelessList y.items :=
  ⟨sumTree_isTree, .refl sumTree,
    walk_expr_independent sumTree_isTree sumTree_isTree (.refl sumTree) [] [0, 7] emptyBuilder
      openBuilder⟩

end Builder
end Wdl
