import Wdl.Proofs.Builder.Additions
import Wdl.Proofs.Builder.Correspondence
import Wdl.Proofs.Document.Holdings

/-!
The types of declarations.

The type of a declaration is taken from the text as it is written there, without its blanks.  Its
tokens have none, and between them stands ignored text, so the type is made of the texts of the
tokens and of what comments there are among them, `declared_types`: blanks and line ends make no
difference to it, `Spells.eq_of_texts`, but comments do.
-/

namespace Wdl

open Parse Lexer

/-! ## Ignored text -/

theorem Text.isBlank_eq_false {c : Char} (h : 0x20 < c.toNat) (h' : c.toNat < 0x85) :
    Text.isBlank c = false := by
  simp only [Text.isBlank, Text.blankRanges, List.any_cons, List.any_nil, Bool.or_false,
    Bool.or_eq_false_iff, Bool.and_eq_false_iff, decide_eq_false_iff_not]
  omega

theorem mem_take_countWhile {p : Char → Bool} {cs : List Char} {c : Char}
    (h : c ∈ cs.take (countWhile p cs)) : p c = true := by
  induction cs with
  | nil => cases h
  | cons d cs ih =>
    unfold countWhile at h
    split at h
    · next hd =>
      rw [List.take_succ_cons] at h
      rcases List.mem_cons.mp h with rfl | h
      · exact hd
      · exact ih h
    · cases h

theorem blank_of_mem_newlines (cs : List Char) :
    ∀ c ∈ cs.take (newlines cs), Text.isBlank c = true := by
  fun_induction newlines cs with
  | case1 => exact List.forall_mem_nil _
  | case2 c h =>
    rw [eq_of_beq h]
    exact List.forall_mem_singleton.mpr rfl
  | case3 => exact List.forall_mem_nil _
  | case4 c d cs h ih =>
    rw [eq_of_beq h, List.take_succ_cons]
    exact List.forall_mem_cons.mpr ⟨rfl, ih⟩
  | case5 c d cs h hcd ih =>
    obtain ⟨hc, hd⟩ := Bool.and_eq_true_iff.mp hcd
    rw [eq_of_beq hc, eq_of_beq hd, List.take_succ_cons, List.take_succ_cons]
    exact List.forall_mem_cons.mpr ⟨rfl, List.forall_mem_cons.mpr ⟨rfl, ih⟩⟩
  | case6 => exact List.forall_mem_nil _

/-- What is ignored is blank, or is a comment. -/
theorem blank_or_comment {t : Terminal} (ht : t.isIgnored = true) {cs : List Char} {n : Nat}
    (h : t.match? cs = some n) : (∀ c ∈ cs.take n, Text.isBlank c = true) ∨ '#' ∈ cs.take n := by
  cases t <;> simp only [Terminal.isIgnored, Bool.false_eq_true] at ht
  case space =>
    obtain ⟨rfl, -⟩ := positive_eq_some h
    refine .inl fun c hc => ?_
    have hblank := mem_take_countWhile hc
    simp only [Bool.or_eq_true, beq_iff_eq] at hblank
    rcases hblank with rfl | rfl <;> rfl
  case newline =>
    obtain ⟨rfl, -⟩ := positive_eq_some h
    exact .inl (blank_of_mem_newlines cs)
  case comment =>
    change comment? cs = some n at h
    unfold comment? at h
    dsimp only at h
    split at h
    · next rest hrest =>
      obtain rfl := Option.some.inj h
      refine .inr ?_
      rw [Nat.add_assoc, List.take_add, hrest, Nat.add_comm, List.take_succ_cons]
      exact List.mem_append_right _ List.mem_cons_self
    · cases h

/-- What is passed over is blank, or there are comments in it. -/
theorem Passes.exists_gap {cs rest : List Char} (h : Passes cs rest) : ∃ gap, cs = gap ++ rest ∧
    ((∀ c ∈ gap, Text.isBlank c = true) ∨ '#' ∈ gap) := by
  induction h with
  | refl cs => exact ⟨[], rfl, .inl (List.forall_mem_nil _)⟩
  | @skip t n cs rest ht hn _ ih =>
    obtain ⟨gap, hcs, hgap⟩ := ih
    refine ⟨cs.take n ++ gap, ?_, ?_⟩
    · rw [List.append_assoc, ← hcs, List.take_append_drop]
    · rcases blank_or_comment ht hn with hblank | hcomment
      · exact hgap.imp (fun h => List.forall_mem_append.mpr ⟨hblank, h⟩)
          (List.mem_append_right _)
      · exact .inr (List.mem_append_left _ hcomment)

/-! ## Tokens that follow each other -/

/-- Tokens of a text, one after the other, with only ignored text between them. -/
structure Strung (text : List Char) (ks : List Token) : Prop where
  found : ∀ k ∈ ks, k.Found text
  ordered : ks.Pairwise fun a b => a.stop.offset ≤ b.start.offset
  passes : ks.IsChain fun a b => Passes (text.drop a.stop.offset) (text.drop b.start.offset)

/-- What lies between two tokens. -/
def Token.gap (text : List Char) (a b : Token) : List Char :=
  slice text a.stop.offset b.start.offset

/-- The texts of some tokens, with what is left between them when the blanks are removed. -/
def joined (text : List Char) : List Token → List Char
  | [] => []
  | [k] => k.text.toList
  | a :: b :: ks =>
    a.text.toList ++ (a.gap text b).filter (fun c => !Text.isBlank c) ++ joined text (b :: ks)

section Strung

variable {text : List Char} {a b : Token} {ks ks' : List Token}

theorem Strung.part (h : Strung text ks') (hks : ks <:+: ks') : Strung text ks :=
  ⟨fun k hk => h.found k (hks.subset hk), h.ordered.sublist hks.sublist, h.passes.infix hks⟩

theorem Parse.Sewn.strung {start : Nonterminal} {rules : List Rule} {xs : List Shift}
    (h : Sewn start rules text xs) : Strung text (xs.map Prod.fst) where
  found := List.forall_mem_map.mpr h.found
  ordered := List.pairwise_map.mpr h.ordered
  passes := List.isChain_map .. |>.mpr (h.seams.imp fun _ _ h => h.1)

theorem Strung.gap_cases (h : Strung text (a :: b :: ks)) :
    (∀ c ∈ a.gap text b, Text.isBlank c = true) ∨ '#' ∈ a.gap text b := by
  obtain ⟨gap, heq, hgap⟩ := (List.isChain_cons_cons.mp h.passes).1.exists_gap
  have hle := (List.pairwise_cons.mp h.ordered).1 b List.mem_cons_self
  have hb := h.found b (by simp)
  have hlt := hb.start_lt
  have hstop := hb.stop_le
  have hlength := congrArg List.length heq
  rw [List.length_append, List.length_drop, List.length_drop] at hlength
  have hgap_eq : a.gap text b = gap := by
    rw [Token.gap, slice, heq]
    exact List.take_left' (by omega)
  rwa [hgap_eq]

theorem Strung.start_le_stop (h : Strung text (a :: ks)) :
    a.start.offset ≤ ((a :: ks).getLast (List.cons_ne_nil a ks)).stop.offset := by
  have hlast := List.getLast_mem (List.cons_ne_nil a ks)
  have hlt := (h.found a List.mem_cons_self).start_lt
  have hlt' := (h.found _ hlast).start_lt
  rcases List.mem_cons.mp hlast with heq | hmem
  · rw [heq]
    exact Nat.le_of_lt hlt
  · have hle := (List.pairwise_cons.mp h.ordered).1 _ hmem
    omega

/-- Without its blanks the text from the first token to the last is that of the tokens and of what
is left between them. -/
theorem Strung.slice_eq (h : Strung text (a :: ks))
    (hsolid : ∀ k ∈ a :: ks, ∀ c ∈ k.text.toList, Text.isBlank c = false) :
    (slice text a.start.offset
      ((a :: ks).getLast (List.cons_ne_nil a ks)).stop.offset).filter (fun c => !Text.isBlank c) =
        joined text (a :: ks) := by
  have hsolid_a : a.text.toList.filter (fun c => !Text.isBlank c) = a.text.toList :=
    List.filter_eq_self.mpr fun c hc => by rw [hsolid a List.mem_cons_self c hc]; rfl
  have htext : slice text a.start.offset a.stop.offset = a.text.toList :=
    (h.found a List.mem_cons_self).text_eq.symm
  induction ks generalizing a with
  | nil =>
    rw [List.getLast_singleton, htext, hsolid_a]
    rfl
  | cons b ks ih =>
    have hrest : Strung text (b :: ks) := h.part (List.suffix_cons a _).isInfix
    have hlt := (h.found a List.mem_cons_self).start_lt
    have hle := (List.pairwise_cons.mp h.ordered).1 b List.mem_cons_self
    have hlast := hrest.start_le_stop
    obtain ⟨-, hsolid⟩ := List.forall_mem_cons.mp hsolid
    rw [List.getLast_cons (List.cons_ne_nil b ks),
      ← slice_append text (Nat.le_of_lt (Nat.lt_of_lt_of_le hlt hle)) hlast,
      ← slice_append text (Nat.le_of_lt hlt) hle, List.filter_append, List.filter_append, htext,
      hsolid_a, ih hrest hsolid]
    · rfl
    · exact List.filter_eq_self.mpr fun c hc => by rw [hsolid b List.mem_cons_self c hc]; rfl
    · exact (hrest.found b List.mem_cons_self).text_eq.symm

theorem length_flatMap_le (text : List Char) (ks : List Token) :
    (ks.flatMap fun k => k.text.toList).length ≤ (joined text ks).length := by
  fun_induction joined text ks with
  | case1 => exact Nat.le_refl _
  | case2 k => simp
  | case3 a b ks ih =>
    rw [List.flatMap_cons, List.length_append, List.length_append, List.length_append]
    omega

/-- Only comments are left between tokens. -/
theorem Strung.joined_eq_iff (h : Strung text ks) :
    joined text ks = (ks.flatMap fun k => k.text.toList) ↔
      ks.IsChain fun a b => '#' ∉ a.gap text b := by
  fun_induction joined text ks with
  | case1 => simp
  | case2 k => simp
  | case3 a b ks ih =>
    have hrest : Strung text (b :: ks) := h.part (List.suffix_cons a _).isInfix
    rw [List.isChain_cons_cons, ← ih hrest, List.flatMap_cons, List.append_assoc,
      List.append_cancel_left_eq]
    constructor
    · intro heq
      have hlength := congrArg List.length heq
      have hle := length_flatMap_le text (b :: ks)
      rw [List.length_append] at hlength
      have hnone : (a.gap text b).filter (fun c => !Text.isBlank c) = [] :=
        List.length_eq_zero_iff.mp (by omega)
      refine ⟨fun hmem => ?_, by rwa [hnone, List.nil_append] at heq⟩
      have hleft : '#' ∈ (a.gap text b).filter (fun c => !Text.isBlank c) :=
        List.mem_filter.mpr ⟨hmem, rfl⟩
      rw [hnone] at hleft
      cases hleft
    · rintro ⟨hno, heq⟩
      have hblank := h.gap_cases.resolve_right hno
      rw [heq, List.filter_eq_nil_iff.mpr fun c hc => by rw [hblank c hc]; exact Bool.false_ne_true,
        List.nil_append]

end Strung

/-! ## Types in a parse tree -/

/-- The nonterminals of types. -/
def Nonterminal.isOfTypes : Nonterminal → Bool
  | .type | .quantifier | .optional | .nonempty | .optionalNonempty => true
  | _ => false

/-- The terminals of types. -/
def Terminal.isOfTypes : Terminal → Bool
  | .name | .lsqb | .comma | .rsqb | .qmark | .plus | .plusQmark => true
  | _ => false

theorem isBlank_of_isNameChar {c : Char} (h : isNameChar c = true) : Text.isBlank c = false := by
  simp only [isNameChar, isLetter, isDigit, Bool.or_eq_true, Bool.and_eq_true, decide_eq_true_eq,
    Char.le_def, UInt32.le_iff_toNat_le, beq_iff_eq] at h
  have hlowers : 'a'.val.toNat = 97 ∧ 'z'.val.toNat = 122 := ⟨rfl, rfl⟩
  have huppers : 'A'.val.toNat = 65 ∧ 'Z'.val.toNat = 90 := ⟨rfl, rfl⟩
  have hdigits : '0'.val.toNat = 48 ∧ '9'.val.toNat = 57 := ⟨rfl, rfl⟩
  rcases h with (h | h) | rfl
  · refine Text.isBlank_eq_false ?_ ?_ <;> rw [Char.toNat] <;> omega
  · refine Text.isBlank_eq_false ?_ ?_ <;> rw [Char.toNat] <;> omega
  · rfl

/-- The text of a token of a type has no blanks. -/
theorem Token.Found.solid {text : List Char} {k : Token} (h : k.Found text)
    (hk : k.terminal.isOfTypes = true) : ∀ c ∈ k.text.toList, Text.isBlank c = false := by
  have hliteral : ∀ s : String, (s.toList.all fun c => !Text.isBlank c) = true →
      k.terminal.literal? = some s → ∀ c ∈ k.text.toList, Text.isBlank c = false := by
    intro s hsolid hs
    obtain ⟨hstop, hprefix⟩ := h.fixed hs
    rw [h.text_eq, hstop, Nat.add_sub_cancel_left, ← String.length_toList,
      ← List.prefix_iff_eq_take.mp hprefix]
    exact fun c hc => (Bool.not_eq_true' _).mp (List.all_eq_true.mp hsolid c hc)
  cases hterminal : k.terminal <;> rw [hterminal] at hk hliteral <;> try cases hk; done
  case name =>
    have hidentifier := k.isIdentifier_of_name h.proper hterminal
    unfold Builder.isIdentifier at hidentifier
    split at hidentifier
    · cases hidentifier
    · next c cs hcs =>
      obtain ⟨hc, hall⟩ := Bool.and_eq_true_iff.mp hidentifier
      rw [hcs]
      refine List.forall_mem_cons.mpr ⟨isBlank_of_isNameChar ?_, fun d hd =>
        isBlank_of_isNameChar ?_⟩
      · rw [← isAlphanum_eq, Char.isAlphanum, hc]
        rfl
      · rw [← isAlphanum_eq]
        exact List.all_eq_true.mp hall d hd
  all_goals exact hliteral _ (by decide +kernel) rfl

namespace Grammar

def typesSymbol : Symbol → Bool
  | .terminal a => a.isOfTypes
  | .nonterminal n => n.isOfTypes

theorem rules_keepTypes :
    rules.all (fun r => !r.lhs.isOfTypes || r.rhs.all typesSymbol) = true := by
  decide +kernel

/-- The tokens of a type are of its terminals. -/
theorem isOfTypes_of_derives {e : Parse.Entry} {ks : List Token} (h : e.Derives rules ks)
    (he : typesSymbol e.symbol = true) : ∀ k ∈ ks, k.terminal.isOfTypes = true := by
  induction h with
  | token k => exact List.forall_mem_singleton.mpr he
  | @combine rule mem parts symbols derived ih =>
    have hrhs : rule.rhs.all typesSymbol = true := by
      have hkeeps := List.all_eq_true.mp rules_keepTypes rule mem
      rw [symbol_combine] at he
      simpa [show rule.lhs.isOfTypes = true from he] using hkeeps
    intro k hk
    obtain ⟨part, hpart, hk⟩ := List.mem_flatMap.mp hk
    refine ih part hpart (List.all_eq_true.mp hrhs _ ?_) k hk
    rw [← symbols]
    exact List.mem_map_of_mem hpart

/-- A production in a derived tree is made by a rule from parts, the tokens of which stand one after
the other among those of the tree. -/
theorem parts_of_mem {e : Parse.Entry} {ks : List Token} (h : e.Derives rules ks) {v : Bool}
    {t : Tree} (ht : t ∈ e.trees v) {path : Tree.Path} {y : Tree.Path × Tree}
    (hy : y ∈ t.preorderAt path) {p : Production} {x : Option Extent} {cs : List Tree}
    (hnode : y.2 = .node p x cs) :
    ∃ rule ∈ rules, rule.production = some p ∧ ∃ parts : List (Parse.Entry × List Token),
      parts.map (fun q => q.1.symbol) = rule.rhs ∧ (∀ q ∈ parts, q.1.Derives rules q.2) ∧
      cs = (parts.map Prod.fst).flatMap (Parse.Entry.trees rule.verbatim) ∧
      parts.flatMap Prod.snd <:+: ks := by
  induction h generalizing v t path with
  | token k =>
    rw [Parse.Entry.trees] at ht
    split at ht
    · rw [List.mem_singleton.mp ht] at hy
      cases hy
    · cases ht
  | @combine rule mem parts symbols derived ih =>
    -- what is in a part
    have hpart : ∀ t ∈ (parts.map Prod.fst).flatMap (Parse.Entry.trees rule.verbatim), ∀ path,
        y ∈ t.preorderAt path → ∃ rule ∈ rules, rule.production = some p ∧
          ∃ parts' : List (Parse.Entry × List Token), parts'.map (fun q => q.1.symbol) = rule.rhs ∧
            (∀ q ∈ parts', q.1.Derives rules q.2) ∧
            cs = (parts'.map Prod.fst).flatMap (Parse.Entry.trees rule.verbatim) ∧
            parts'.flatMap Prod.snd <:+: parts.flatMap Prod.snd := by
      intro t ht path hy
      obtain ⟨e, he, ht⟩ := List.mem_flatMap.mp ht
      obtain ⟨part, hmem, rfl⟩ := List.mem_map.mp he
      obtain ⟨rule', hrule', hp, parts', hsymbols, hderived, hcs, hinfix⟩ := ih part hmem ht hy
      exact ⟨rule', hrule', hp, parts', hsymbols, hderived, hcs,
        hinfix.trans (List.infix_of_mem_flatten (List.mem_map_of_mem hmem))⟩
    rw [trees_combine, wrap] at ht
    cases hproduction : rule.production with
    | none =>
      rw [hproduction] at ht
      exact hpart t ht path hy
    | some q =>
      rw [hproduction] at ht
      obtain rfl := List.mem_singleton.mp ht
      rcases List.mem_cons.mp hy with rfl | hy
      · cases hnode
        exact ⟨rule, mem, hproduction, parts, symbols, derived, rfl, List.infix_refl _⟩
      · obtain ⟨c, hc, path', hy⟩ := mem_preorderList hy
        exact hpart c hc path' hy

theorem rules_ofTypes :
    rules.all (fun r => r.lhs != .type || r.production == some .type) = true := by
  decide +kernel

theorem rules_ofDeclarations : rules.all (fun r => r.production != some .decl ||
    (r.rhs.head? == some (.nonterminal .type) && !r.verbatim)) = true := by
  decide +kernel

/-- The tree of a type reaches from its first token to its last. -/
theorem exists_tree_of_type {e : Parse.Entry} {ks : List Token} (h : e.Derives rules ks)
    (he : e.symbol = .nonterminal .type) (v : Bool) :
    ∃ cs, e.trees v = [.node .type (Extent.hull (ks.map fun k => some (.ofToken k))) cs] := by
  have hextent := h.extent_eq
  cases h with
  | token k => cases he
  | combine mem parts symbols derived =>
    rw [symbol_combine] at he
    rw [extent_combine] at hextent
    have hrule := List.all_eq_true.mp rules_ofTypes _ mem
    rw [Symbol.nonterminal.inj he, Bool.or_eq_true, bne_self_eq_false, beq_iff_eq] at hrule
    rw [trees_combine, hextent, wrap, hrule.resolve_left Bool.false_ne_true]
    exact ⟨_, rfl⟩

/-- A declaration begins with its type. -/
theorem exists_type {e : Parse.Entry} {ks : List Token} (h : e.Derives rules ks) {v : Bool}
    {t : Tree} (ht : t ∈ e.trees v) {path : Tree.Path} {y : Tree.Path × Tree}
    (hy : y ∈ t.preorderAt path) {x : Option Extent} {cs : List Tree}
    (hnode : y.2 = .node .decl x cs) :
    ∃ (e' : Parse.Entry) (type : Tree) (ks' : List Token), e'.Derives rules ks' ∧
      e'.symbol = .nonterminal .type ∧ e'.trees false = [type] ∧ cs[0]? = some type ∧
      ks' <:+: ks := by
  obtain ⟨rule, mem, hproduction, parts, hsymbols, hderived, rfl, hinfix⟩ :=
    parts_of_mem h ht hy hnode
  have hrule := List.all_eq_true.mp rules_ofDeclarations rule mem
  rw [hproduction, bne_self_eq_false, Bool.false_or, Bool.and_eq_true, beq_iff_eq,
    Bool.not_eq_true', ← hsymbols] at hrule
  obtain ⟨hhead, hverbatim⟩ := hrule
  cases parts with
  | nil => cases hhead
  | cons part parts =>
    have hsymbol : part.1.symbol = .nonterminal .type := Option.some.inj hhead
    have hpart := hderived part List.mem_cons_self
    obtain ⟨cs, htrees⟩ := exists_tree_of_type hpart hsymbol false
    refine ⟨part.1, _, part.2, hpart, hsymbol, htrees, ?_,
      (List.prefix_append part.2 _).isInfix.trans hinfix⟩
    rw [hverbatim, List.map_cons, List.flatMap_cons, htrees]
    rfl

end Grammar

/-- A type `s` that is written with some tokens: it is their texts, unless there are comments among
them. -/
structure Spells (text : List Char) (type : Tree) (ks : List Token) (s : String) : Prop where
  made : ∃ e : Parse.Entry, e.Derives Grammar.rules ks ∧ e.symbol = .nonterminal .type ∧
    e.trees false = [type]
  strung : Strung text ks
  chars : s.toList = joined text ks
  plain : s = String.join (ks.map Token.text) ↔ ks.IsChain fun a b => '#' ∉ a.gap text b

/-- Types that are written with the same tokens, and with no comments among them, are the same
however they are laid out. -/
theorem Spells.eq_of_texts {text text' : List Char} {type type' : Tree} {ks ks' : List Token}
    {s s' : String} (h : Spells text type ks s) (h' : Spells text' type' ks' s')
    (hks : ks.map Token.text = ks'.map Token.text)
    (hplain : ks.IsChain fun a b => '#' ∉ a.gap text b)
    (hplain' : ks'.IsChain fun a b => '#' ∉ a.gap text' b) : s = s' := by
  rw [h.plain.mpr hplain, h'.plain.mpr hplain', hks]

theorem toList_join (ks : List Token) :
    (String.join (ks.map Token.text)).toList = ks.flatMap fun k => k.text.toList := by
  induction ks with
  | nil => rfl
  | cons k ks ih =>
    rw [List.map_cons, String.join_cons, String.toList_append, ih, List.flatMap_cons]

/-- The text of a type without its blanks. -/
theorem spells_of_derives {text : List Char} {e : Parse.Entry} {type : Tree} {ks : List Token}
    (h : e.Derives Grammar.rules ks) (he : e.symbol = .nonterminal .type)
    (htree : e.trees false = [type]) (hks : Strung text ks) :
    Spells text type ks (Text.squeeze (type.source text)) := by
  have htext : (Text.squeeze (type.source text)).toList = joined text ks := by
    obtain ⟨cs, htrees⟩ := Grammar.exists_tree_of_type h he false
    obtain rfl := List.singleton_inj.mp (htree.symm.trans htrees)
    cases ks with
    | nil => rfl
    | cons a ks =>
      have hsolid := fun k hk => (hks.found k hk).solid
        (Grammar.isOfTypes_of_derives h (by rw [he]; rfl) k hk)
      rw [hull_of_tokens, ← hks.slice_eq hsolid, Text.squeeze, Tree.source, String.toList_ofList,
        String.toList_ofList]
      rfl
  refine ⟨⟨e, h, he, htree⟩, hks, htext, ?_⟩
  rw [← hks.joined_eq_iff, ← String.toList_inj, htext, toList_join]

/-! ## Declarations -/

theorem Production.eq_of_nodeKind?_declaration {p : Production}
    (h : p.nodeKind? = some .declaration) : p = .decl ∨ p = .struct := by
  cases p <;> first | exact .inl rfl | exact .inr rfl | cases h

theorem Forest.made?_of_body? {f : Forest} {id : NodeId} {b : Body} (h : f.body? id = some b) :
    f.made? id = some b.made := by
  obtain ⟨n, hn, rfl⟩ := Option.map_eq_some_iff.mp h
  rw [made?, hn, Option.map_some]

namespace Builder

variable {l : Layout} {b : Builder} {path : Tree.Path} {t : Tree} {v : Visit}

/-- The node of a declaration is made with its name and its type. -/
theorem enter_decl_adds (e : Option Extent) (cs : List Tree) (path : Tree.Path) (b : Builder) :
    Adds b (b.enter path (.node .decl e cs)) (.declaration
      { name := (Tree.node .decl e cs).childText 1
        type := Text.squeeze (((cs[0]?).map (·.source b.source)).getD "") }) := by
  show Adds b (b.openDeclaration path (.node .decl e cs)) _
  unfold openDeclaration
  dsimp only
  split
  · exact ((b.addNode_adds _ _).inherits (openSection_inherits ..)).inherits
      (checkKeyword_inherits ..)
  · exact (b.addNode_adds _ _).inherits (openSection_inherits ..)

/-- What the node of a production is made with, it is in the end. -/
theorem made_of_visit (h : Ready l b t) (hv : v ∈ visits path t b) {body : Body}
    (hadds : Adds v.before v.begun body) :
    (walk path t b).forest.made? v.node = some body.made := by
  have hready := (inside_of_visit h hv).ready
  obtain ⟨-, hafter⟩ := augments_of_visit h hv
  have hlt : v.node < v.begun.forest.nextNode := by
    rw [hadds.nextNode]
    exact Nat.lt_succ_self _
  have hmade : v.begun.forest.made? v.node = some body.made := by
    rw [hadds.made?]
    exact if_pos rfl
  obtain ⟨path', tree, before⟩ := v
  have hwalked : Augments (Visit.begun ⟨path', tree, before⟩) (walk path' tree before) := by
    cases tree with
    | token k => exact before.visitToken_augments k
    | node p e cs =>
      exact (ReadyList.augments path' 0 (hready.begins path').1).trans (exit_augments _ path' _)
  have hafter' := hwalked.trans hafter
  exact (hafter'.made? _ hlt).trans hmade

/-- Every node is that of a production that the walk has come to. -/
theorem Ready.exists_production (h : Ready l b t) (path : Tree.Path) {id : NodeId} {body : Body}
    (hle : b.forest.nextNode ≤ id) (hbody : (walk path t b).forest.body? id = some body) :
    ∃ v ∈ visits path t b, v.node = id ∧ (v.path, id) ∈ reps path t b ∧
      v.tree.spot? = (walk path t b).forest.spot? id ∧
      ∃ p e cs, v.tree = .node p e cs ∧ p.nodeKind? = some body.kind := by
  have hgrown := h.grown path
  have hkind := Forest.kind?_of_body? hbody
  have hmem : id ∈ (reps path t b).map Prod.snd := by
    rw [hgrown.ids, List.mem_range'_1, ← hgrown.nextNode]
    exact ⟨hle, Forest.lt_of_kind? hkind⟩
  obtain ⟨r, hr, rfl⟩ := List.mem_map.mp hmem
  obtain ⟨v, hv, hpath, hnode⟩ := exists_visit_of_reps hr
  obtain ⟨y, hy, hypath, q, hq, hspot⟩ := hgrown.shown r hr
  obtain rfl : (v.path, v.tree) = y := List.inj_on_of_nodup_map (Tree.nodup_preorderAt path t)
    (mem_preorder_of_visit hv) hy (hpath.trans hypath.symm)
  refine ⟨v, hv, hnode, hpath ▸ hr, hspot.trans (Forest.spot?_of_profile? hq).symm, ?_⟩
  have hsame := Option.some.inj ((Forest.kind?_of_profile? hq).symm.trans hkind)
  obtain ⟨k, hk, heq⟩ := Option.map_eq_some_iff.mp hspot
  cases htree : v.tree with
  | token _ =>
    rw [htree] at hk
    cases hk
  | node p e cs =>
    rw [htree] at hk
    exact ⟨p, e, cs, rfl, hk.trans (congrArg some ((Prod.mk.inj heq).1.trans hsame))⟩

/-- A declaration is the node of a production of declarations. -/
theorem Ready.exists_declaration (h : Ready l b t) (path : Tree.Path) {id : NodeId}
    {d : DeclarationBody} (hle : b.forest.nextNode ≤ id)
    (hd : (walk path t b).forest.body? id = some (.declaration d)) :
    ∃ y ∈ t.preorderAt path, y.2.spot? = (walk path t b).forest.spot? id ∧ ∃ e cs,
      y.2 = .node .decl e cs ∧ d.name = y.2.childText 1 ∧
        d.type = Text.squeeze (((cs[0]?).map (·.source b.source)).getD "") := by
  obtain ⟨v, hv, hnode, -, hspot, p, e, cs, htree, hp⟩ := h.exists_production path hle hd
  refine ⟨(v.path, v.tree), mem_preorder_of_visit hv, hspot, ?_⟩
  have hsource := (fixed_of_visit hv).source
  have hmade : (walk path t b).forest.made? v.node = some (Body.declaration d).made := by
    rw [hnode]
    exact Forest.made?_of_body? hd
  obtain ⟨path', tree, before⟩ := v
  obtain rfl : tree = .node p e cs := htree
  rcases Production.eq_of_nodeKind?_declaration hp with rfl | rfl
  · have hadds := made_of_visit h hv (enter_decl_adds e cs path' before)
    rw [hmade, Option.some.injEq, Body.made, Body.made, Body.declaration.injEq,
      DeclarationBody.mk.injEq] at hadds
    exact ⟨e, cs, rfl, hadds.1, by rw [hadds.2.1, hsource]⟩
  · let name := (Tree.node .struct e cs).childText 0
    have hstruct : Adds before (before.openChecked path' (.node .struct e cs)
        (.struct { name }) (some name) (.node .struct e cs) name) _ := openChecked_adds
    have hadds := made_of_visit h hv hstruct
    rw [hmade] at hadds
    cases hadds

/-! ## Documents -/

theorem Orderly.ne_document (h : Orderly l b) {id : NodeId} {d : DeclarationBody}
    (hd : b.forest.body? id = some (.declaration d)) : id ≠ b.document := by
  rintro rfl
  have hkind := (Forest.kind?_of_body? hd).symm.trans h.steady.kind?_document
  cases hkind

/-- The type of a declaration in the tree of a text without syntax errors. -/
theorem exists_spells_of_parse {text : List Char} {origin : Origin} {limit : Int}
    (h : Parse.parse Language.documents origin limit text = ([], some t)) {y : Tree.Path × Tree}
    (hy : y ∈ t.preorder) {e : Option Extent} {cs : List Tree} (hnode : y.2 = .node .decl e cs) :
    ∃ type ks, cs[0]? = some type ∧ Spells text type ks (Text.squeeze (type.source text)) := by
  obtain ⟨x, hread, hhead⟩ := Parse.parse_read h
  obtain ⟨e', type, ks, hderives, hsymbol, htrees, htype, hinfix⟩ :=
    Grammar.exists_type hread.traced.derives (List.mem_of_mem_head? hhead) hy hnode
  exact ⟨type, ks, htype, spells_of_derives hderives hsymbol htrees
    (hread.sewn.strung.part hinfix)⟩

/-- A text without syntax errors gives a document alone, or the walk over its tree is ready. -/
theorem ofText_walked (f : Forest) (text uri abspath : String) (limit : Int)
    (h : (ofText f text uri abspath limit).syntaxErrors = []) :
    ∃ b, Orderly .ordered b ∧ b.document = f.nextNode ∧ b.forest.nextNode = f.nextNode + 1 ∧
      b.host = b.document ∧ b.source = lexed text.toList ∧
      (ofText f text uri abspath limit = b.finish ∨
        ∃ t, Parse.parse Language.documents (.ofNames uri abspath) limit (lexed text.toList) =
            ([], some t) ∧ Ready .ordered b t ∧
          ofText f text uri abspath limit = (walk [] t b).finish) := by
  refine ⟨startText f text uri abspath, start_orderly .., rfl, start_nextNode .., rfl, rfl, ?_⟩
  refine (ofText_cases f text uri abspath limit h).imp id fun ⟨t, hparse, heq, _⟩ => ?_
  obtain ⟨htree, hlaid, -, hwithin⟩ := laidOut_of_parse hparse
  exact ⟨t, hparse, ⟨start_orderly .., .outer htree.outer htree.allLegible rfl, hlaid,
    fun s hs => start_fits f uri _ _ _ _ (hwithin s hs)⟩, heq⟩

/-- A text without syntax errors gives the document alone, or what a walk over its tree builds. -/
theorem ofText_built (f : Forest) (text uri abspath : String) (limit : Int)
    (h : (ofText f text uri abspath limit).syntaxErrors = []) :
    ∃ b, Orderly .ordered b ∧ b.document = f.nextNode ∧ b.forest.nextNode = f.nextNode + 1 ∧
      b.source = lexed text.toList ∧
      ((ofText f text uri abspath limit).forest = b.forest ∨
        ∃ t, Parse.parse Language.documents (.ofNames uri abspath) limit (lexed text.toList) =
            ([], some t) ∧ Ready .ordered b t ∧
          (ofText f text uri abspath limit).forest = (walk [] t b).forest) := by
  obtain ⟨b, horderly, hdocument, hnext, -, hsource, heq | ⟨t, hparse, hready, heq⟩⟩ :=
    ofText_walked f text uri abspath limit h
  · exact ⟨b, horderly, hdocument, hnext, hsource, .inl (by rw [heq, finish_forest])⟩
  · exact ⟨b, horderly, hdocument, hnext, hsource,
      .inr ⟨t, hparse, hready, by rw [heq, finish_forest]⟩⟩

/-- In a text without syntax errors the type of every declaration is made of the texts of its tokens
and of the comments among them, and is the texts of its tokens alone if there are no comments among
them: so for the productions, and so for the nodes, each of which has the kind and the span of such
a production. -/
theorem declared_types (f : Forest) (text uri abspath : String) (limit : Int) :
    (∀ t, Parse.parse Language.documents (.ofNames uri abspath) limit (lexed text.toList) =
        ([], some t) →
      ∀ y ∈ t.preorder, ∀ e cs, y.2 = .node .decl e cs →
        ∃ type ks, cs[0]? = some type ∧ Spells (lexed text.toList) type ks
          (Text.squeeze (type.source (lexed text.toList)))) ∧
    ((ofText f text uri abspath limit).syntaxErrors = [] →
      ∀ id d, f.nextNode ≤ id →
        (ofText f text uri abspath limit).forest.body? id = some (.declaration d) →
        ∃ t, Parse.parse Language.documents (.ofNames uri abspath) limit (lexed text.toList) =
            ([], some t) ∧
          ∃ y ∈ t.preorder, y.2.spot? = (ofText f text uri abspath limit).forest.spot? id ∧
            ∃ e cs type ks, y.2 = .node .decl e cs ∧ d.name = y.2.childText 1 ∧
              cs[0]? = some type ∧ Spells (lexed text.toList) type ks d.type) := by
  refine ⟨fun t hparse y hy e cs hnode => exists_spells_of_parse hparse hy hnode,
    fun hclean id d hid hd => ?_⟩
  obtain ⟨b, horderly, hdocument, hnext, hsource, hforest | ⟨t, hparse, hready, hforest⟩⟩ :=
    ofText_built f text uri abspath limit hclean
  · -- the only node is that of the document
    rw [hforest] at hd
    have hne := horderly.ne_document hd
    obtain ⟨n, hn, -⟩ := Option.map_eq_some_iff.mp hd
    have hlt := Forest.lt_of_node? _ hn
    rw [hnext, Nat.lt_succ_iff] at hlt
    exact absurd (Nat.le_antisymm hlt hid) (hdocument ▸ hne)
  · rw [hforest] at hd ⊢
    have hgrown := hready.grown []
    have hne := hgrown.orderly.ne_document hd
    rw [hgrown.document, hdocument] at hne
    obtain ⟨y, hy, hspot, e, cs, hnode, hname, htype⟩ := hready.exists_declaration []
      (hnext ▸ Nat.lt_of_le_of_ne hid hne.symm) hd
    obtain ⟨type, ks, hcs, hspells⟩ := exists_spells_of_parse hparse hy hnode
    refine ⟨t, hparse, y, hy, hspot, e, cs, type, ks, hnode, hname, hcs, ?_⟩
    rw [htype, hcs, hsource]
    exact hspells

section Example

/-! ### A comment inside a type -/

def commentedText : List Char :=
  "version 1.1\nstruct S \x7b\n  Array[#x\n  Int] a\n\x7d\n".toList

def layerToken : Token := ⟨.structKw, "struct", ⟨12, 2, 1⟩, ⟨18, 2, 7⟩⟩
def layerNameToken : Token := ⟨.name, "S", ⟨19, 2, 8⟩, ⟨20, 2, 9⟩⟩
def layerOpenToken : Token := ⟨.lbrace, "\x7b", ⟨21, 2, 10⟩, ⟨22, 2, 11⟩⟩
def arrayToken : Token := ⟨.name, "Array", ⟨25, 3, 3⟩, ⟨30, 3, 8⟩⟩
def arrayOpenToken : Token := ⟨.lsqb, "[", ⟨30, 3, 8⟩, ⟨31, 3, 9⟩⟩
def itemToken : Token := ⟨.name, "Int", ⟨36, 4, 3⟩, ⟨39, 4, 6⟩⟩
def arrayCloseToken : Token := ⟨.rsqb, "]", ⟨39, 4, 6⟩, ⟨40, 4, 7⟩⟩
def layerMemberToken : Token := ⟨.name, "a", ⟨41, 4, 8⟩, ⟨42, 4, 9⟩⟩
def layerCloseToken : Token := ⟨.rbrace, "\x7d", ⟨43, 5, 1⟩, ⟨44, 5, 2⟩⟩

def arrayTokens : List Token := [arrayToken, arrayOpenToken, itemToken, arrayCloseToken]

def itemTree : Tree := .node .type (some (.ofToken itemToken)) [.token itemToken]

def arrayTree : Tree :=
  .node .type (some ⟨arrayToken.start, arrayCloseToken.stop⟩) [.token arrayToken, itemTree]

def layerMember : Tree :=
  .node .decl (some ⟨arrayToken.start, layerMemberToken.stop⟩)
    [arrayTree, .token layerMemberToken]

def layerTree : Tree :=
  .node .struct (some ⟨layerToken.start, layerCloseToken.stop⟩)
    [.token layerNameToken, layerMember]

def commentedDocument : Tree :=
  .node .document (some ⟨versionToken.start, layerCloseToken.stop⟩) [versionTree, layerTree]

theorem arrayTree_makes : Grammar.Makes (.nonterminal .type)
    (some ⟨arrayToken.start, arrayCloseToken.stop⟩) [arrayTree] arrayTokens := by
  have hitem : Grammar.Makes (.nonterminal .type) (some (.ofToken itemToken)) [itemTree]
      [itemToken] := by
    have hrule : (⟨.type, [.terminal .name], some .type, false⟩ : Rule) ∈ Grammar.rules := by
      decide +kernel
    exact Grammar.makes_node hrule [(_, _, _, _)] rfl
      (List.forall_mem_singleton.mpr (Grammar.makes_token itemToken))
  have hrule : (⟨.type, [.terminal .name, .terminal .lsqb, .nonterminal .type, .terminal .rsqb],
      some .type, false⟩ : Rule) ∈ Grammar.rules := by decide +kernel
  refine Grammar.makes_node hrule
    [(.terminal .name, some (.ofToken arrayToken), [.token arrayToken], [arrayToken]),
      (.terminal .lsqb, some (.ofToken arrayOpenToken), [], [arrayOpenToken]),
      (.nonterminal .type, some (.ofToken itemToken), [itemTree], [itemToken]),
      (.terminal .rsqb, some (.ofToken arrayCloseToken), [], [arrayCloseToken])] rfl ?_
  simp only [List.forall_mem_cons]
  exact ⟨Grammar.makes_token arrayToken, Grammar.makes_token arrayOpenToken, hitem,
    Grammar.makes_token arrayCloseToken, List.forall_mem_nil _⟩

theorem layerTree_makes : Grammar.Makes (.nonterminal .struct)
    (some ⟨layerToken.start, layerCloseToken.stop⟩) [layerTree]
    ([layerToken, layerNameToken, layerOpenToken] ++ arrayTokens ++
      [layerMemberToken, layerCloseToken]) := by
  have hrule : (⟨.unboundDecl, [.nonterminal .type, .terminal .name], some .decl, false⟩ : Rule) ∈
      Grammar.rules := by decide +kernel
  have hmember : Grammar.Makes (.nonterminal .unboundDecl)
      (some ⟨arrayToken.start, layerMemberToken.stop⟩) [layerMember]
      (arrayTokens ++ [layerMemberToken]) :=
    Grammar.makes_node hrule [(_, _, _, _), (_, _, _, _)] rfl
      (List.forall_mem_cons.mpr ⟨arrayTree_makes,
        List.forall_mem_singleton.mpr (Grammar.makes_token layerMemberToken)⟩)
  have hmembers := Grammar.makes_chain hmember [.structMembers] (by decide +kernel)
  exact Grammar.makes_struct rfl rfl rfl rfl hmembers

theorem commentedDocument_isTree : Grammar.IsTree .document commentedDocument := by
  have helements := Grammar.makes_chain layerTree_makes [.documentElement, .documentElements]
    (by decide +kernel)
  have hrule : (⟨.document, [.nonterminal .version, .nonterminal .documentElements],
      some .document, false⟩ : Rule) ∈ Grammar.rules := by decide +kernel
  obtain ⟨e, hd, hs, -, ht⟩ := Grammar.makes_node hrule
    [(.nonterminal .version, _, _, _), (.nonterminal .documentElements, _, _, _)] rfl
    (List.forall_mem_cons.mpr ⟨versionTree_makes, List.forall_mem_singleton.mpr helements⟩)
  refine ⟨e, _, hd, hs, ht, ?_⟩
  simp only [arrayTokens, List.flatMap_cons, List.flatMap_nil, List.append_nil, List.cons_append,
    List.nil_append, List.forall_mem_cons]
  exact ⟨⟨[], by decide +kernel⟩, ⟨[], by decide +kernel⟩, ⟨[], by decide +kernel⟩,
    ⟨[], by decide +kernel⟩, ⟨[], by decide +kernel⟩, ⟨[], by decide +kernel⟩,
    ⟨[], by decide +kernel⟩, ⟨[], by decide +kernel⟩, ⟨[], by decide +kernel⟩,
    ⟨[], by decide +kernel⟩, ⟨[], by decide +kernel⟩, List.forall_mem_nil _⟩

theorem arrayTokens_strung : Strung commentedText arrayTokens where
  found := by
    simp only [arrayTokens, List.forall_mem_cons]
    exact ⟨⟨⟨by decide, by decide, by decide +kernel, ⟨[], by decide +kernel⟩⟩, by decide +kernel⟩,
      ⟨⟨by decide, by decide, by decide +kernel, ⟨[], by decide +kernel⟩⟩, by decide +kernel⟩,
      ⟨⟨by decide, by decide, by decide +kernel, ⟨[], by decide +kernel⟩⟩, by decide +kernel⟩,
      ⟨⟨by decide, by decide, by decide +kernel, ⟨[], by decide +kernel⟩⟩, by decide +kernel⟩,
      List.forall_mem_nil _⟩
  ordered := by decide
  passes := by
    -- the comment, the end of its line and the blanks of the next
    have hcomment : Passes (commentedText.drop 31) (commentedText.drop 36) :=
      .skip (t := .comment) (n := 2) rfl (by decide +kernel) <|
        .skip (t := .newline) (n := 1) rfl (by decide +kernel) <|
          .skip (t := .space) (n := 2) rfl (by decide +kernel) (.refl _)
    exact .cons_cons (.refl _) (.cons_cons hcomment (.cons_cons (.refl _) (.singleton _)))

/-- The type of a declaration. -/
def declaredType? : Body → Option String
  | .declaration d => some d.type
  | _ => none

def commentedBuilder : Builder :=
  (walk [] commentedDocument
    (start {} "" 44 ⟨"", ""⟩ commentedText Language.keywords [])).finish

/-- Nothing is wrong with the document, but the type of the member of its struct is not made of the
texts of its tokens alone. -/
theorem commentedBuilder_keepsComment :
    Grammar.IsTree .document commentedDocument ∧ commentedBuilder.syntaxErrors.isEmpty = true ∧
      commentedBuilder.problems.isEmpty = true ∧
      ∃ d, commentedBuilder.forest.body? 2 = some (.declaration d) ∧
        Spells commentedText arrayTree arrayTokens d.type ∧
        d.type = "Array[#xInt]" ∧ String.join (arrayTokens.map Token.text) = "Array[Int]" := by
  have htype : (commentedBuilder.forest.body? 2).bind declaredType? =
      some "Array[#xInt]" := by decide +kernel
  obtain ⟨body, hbody, hbodyType⟩ := Option.bind_eq_some_iff.mp htype
  cases body <;> first | cases hbodyType | skip
  case declaration d =>
    obtain ⟨e, hd, hs, -, ht⟩ := arrayTree_makes
    have hspells := spells_of_derives hd hs ht arrayTokens_strung
    rw [show Text.squeeze (arrayTree.source commentedText) = d.type from
      Eq.trans (by decide +kernel) (Option.some.inj hbodyType).symm] at hspells
    exact ⟨commentedDocument_isTree, by decide +kernel, by decide +kernel, d, hbody, hspells,
      Option.some.inj hbodyType, by decide +kernel⟩

end Example

end Builder

end Wdl
