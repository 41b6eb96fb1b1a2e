import Wdl.Proofs.Grammar.Derivation
import Wdl.Proofs.Parse.Cover

/-!
The ends of productions.

Every production that builds a node is made from at least one token, and what stands outside of all
sections ends with a token that is closed in itself.  Both are conditions on the rules that can be
computed.
-/

namespace Wdl
namespace Grammar

open Parse

/-- The nonterminals that are never made from nothing. -/
def isSolid : Nonterminal → Bool
  | .document | .callInputs | .singlePart | .doublePart => false
  | _ => true

def solidSymbol : Symbol → Bool
  | .terminal _ => true
  | .nonterminal n => isSolid n

/-- Whether a rule needs a token if its nonterminal does. -/
def needsToken (r : Rule) : Bool :=
  (!isSolid r.lhs || r.rhs.any solidSymbol) &&
    ((r.production.bind Production.nodeKind?).isNone || isSolid r.lhs)

theorem rules_needToken : rules.all needsToken = true := by decide +kernel

/-- An entry of a terminal is a token. -/
theorem token_of_symbol {e : Parse.Entry} {ks : List Token} (h : e.Derives rules ks) {a : Terminal}
    (ha : e.symbol = .terminal a) : ∃ k : Token, ks = [k] ∧ k.terminal = a := by
  cases h with
  | token k => exact ⟨k, rfl, Symbol.terminal.inj ha⟩
  | combine mem parts symbols derived =>
    rw [symbol_combine] at ha
    exact nomatch ha

theorem ne_nil_of_solid {e : Parse.Entry} {ks : List Token} (h : e.Derives rules ks) {n : Nonterminal}
    (hn : e.symbol = .nonterminal n) (hsolid : isSolid n = true) : ks ≠ [] := by
  induction h generalizing n with
  | token k => exact List.cons_ne_nil _ _
  | @combine rule mem parts symbols derived ih =>
    rw [symbol_combine] at hn
    obtain rfl := Symbol.nonterminal.inj hn
    have hneeds := List.all_eq_true.mp rules_needToken rule mem
    rw [needsToken, hsolid, Bool.not_true, Bool.false_or, Bool.and_eq_true] at hneeds
    obtain ⟨x, hx, hxsolid⟩ := List.any_eq_true.mp hneeds.1
    rw [← symbols] at hx
    obtain ⟨p, hp, rfl⟩ := List.mem_map.mp hx
    have hne : p.2 ≠ [] := by
      cases hsymbol : p.1.symbol with
      | terminal a =>
        obtain ⟨k, hk, -⟩ := token_of_symbol (derived p hp) hsymbol
        rw [hk]
        exact List.cons_ne_nil _ _
      | nonterminal m =>
        rw [hsymbol] at hxsolid
        exact ih p hp hsymbol hxsolid
    obtain ⟨k, hk⟩ := List.exists_mem_of_ne_nil _ hne
    exact List.ne_nil_of_mem (List.mem_flatMap.mpr ⟨p, hp, hk⟩)

/-- What builds a node is made from tokens. -/
theorem rules_solid : Solid rules := by
  intro e ks h
  have hself := h
  induction h with
  | token k =>
    intro v t ht hsome
    unfold Parse.Entry.trees at ht
    dsimp only at ht
    split at ht
    · rw [List.mem_singleton.mp ht] at hsome
      exact nomatch hsome
    · exact absurd ht List.not_mem_nil
  | @combine rule mem parts symbols derived ih =>
    intro v t ht hsome
    rw [trees_combine] at ht
    unfold wrap at ht
    cases hp : rule.production with
    | none =>
      rw [hp] at ht
      obtain ⟨e, he, ht⟩ := List.mem_flatMap.mp ht
      obtain ⟨p, hpmem, rfl⟩ := List.mem_map.mp he
      obtain ⟨k, hk⟩ := List.exists_mem_of_ne_nil _
        (ih p hpmem (derived p hpmem) rule.verbatim t ht hsome)
      exact List.ne_nil_of_mem (List.mem_flatMap.mpr ⟨p, hpmem, hk⟩)
    | some p =>
      rw [hp] at ht
      rw [List.mem_singleton.mp ht] at hsome
      have hneeds := List.all_eq_true.mp rules_needToken rule mem
      rw [needsToken, hp, Bool.and_eq_true] at hneeds
      refine ne_nil_of_solid hself (symbol_combine rule _)
        (((Bool.or_eq_true _ _).mp hneeds.2).resolve_left fun hnone => ?_)
      have hkind : (p.nodeKind?).isSome = true := by
        cases hk : p.nodeKind? with
        | some k => rfl
        | none =>
          have : (Tree.node p (Extent.hull (List.map Parse.Entry.extent? (List.map Prod.fst parts)))
            (List.flatMap (Parse.Entry.trees rule.verbatim) (List.map Prod.fst parts))).spot? = none :=
            congrArg (Option.map _) hk
          rw [this] at hsome
          exact nomatch hsome
      rw [show (some p).bind Production.nodeKind? = p.nodeKind? from rfl,
        Option.isNone_iff_eq_none] at hnone
      rw [hnone] at hkind
      exact nomatch hkind

/-! ## Last tokens -/

/-- The nonterminals that end with a closing token. -/
def closes : Nonterminal → Bool
  | .document | .version | .documentElements | .documentElement | .importDoc | .importAs
  | .importAlias | .importAliases | .stringLiteral | .struct | .workflow | .task => true
  | _ => false

/-- Whether a rule ends with a closing token if its nonterminal does. -/
def endsClosed (r : Rule) : Bool :=
  !closes r.lhs ||
    match r.rhs.getLast? with
    | none => true
    | some (.terminal a) => a.isClosing
    | some (.nonterminal n) => closes n && isSolid n

theorem rules_endClosed : rules.all endsClosed = true := by decide +kernel

theorem isClosing_of_closes {e : Parse.Entry} {ks : List Token} (h : e.Derives rules ks)
    {n : Nonterminal} (hn : e.symbol = .nonterminal n) (hcloses : closes n = true) {k : Token}
    (hk : ks.getLast? = some k) : k.terminal.isClosing = true := by
  induction h generalizing n k with
  | token k => exact nomatch hn
  | @combine rule mem parts symbols derived ih =>
    rw [symbol_combine] at hn
    obtain rfl := Symbol.nonterminal.inj hn
    have hends := List.all_eq_true.mp rules_endClosed rule mem
    rw [endsClosed, hcloses, Bool.not_true, Bool.false_or, ← symbols] at hends
    rcases List.eq_nil_or_concat parts with rfl | ⟨front, p, rfl⟩
    · exact nomatch hk
    · have hp : p ∈ front.concat p := by simp
      rw [List.concat_eq_append, List.map_append, List.map_singleton, List.getLast?_concat] at hends
      rw [List.concat_eq_append, List.flatMap_append, List.flatMap_singleton] at hk
      have hlast : p.2 ≠ [] → p.2.getLast? = some k := by
        intro hne
        rw [List.getLast?_append] at hk
        obtain ⟨k', hk'⟩ := Option.isSome_iff_exists.mp (List.getLast?_isSome.mpr hne)
        rw [hk', Option.some_or] at hk
        rw [hk', hk]
      cases hsymbol : p.1.symbol with
      | terminal a =>
        rw [hsymbol] at hends
        obtain ⟨k', hk', hterminal⟩ := token_of_symbol (derived p hp) hsymbol
        rw [hk'] at hlast
        have heq : k' = k := Option.some.inj (hlast (List.cons_ne_nil _ _))
        rw [← heq, hterminal]
        exact hends
      | nonterminal m =>
        rw [hsymbol, Bool.and_eq_true] at hends
        exact ih p hp hsymbol hends.1 (hlast (ne_nil_of_solid (derived p hp) hsymbol hends.2))

/-! ## Documents -/

def isWhole (r : Rule) : Bool := r.lhs != .document || r.production.isSome

theorem rules_whole : rules.all isWhole = true := by decide +kernel

/-- A document is one tree. -/
theorem exists_tree_of_document {e : Parse.Entry} {ks : List Token} (h : e.Derives rules ks)
    (hn : e.symbol = .nonterminal .document) : ∃ t, e.trees false = [t] := by
  cases h with
  | token k => exact nomatch hn
  | @combine rule mem parts symbols derived =>
    rw [symbol_combine] at hn
    have hwhole := List.all_eq_true.mp rules_whole rule mem
    rw [isWhole, Symbol.nonterminal.inj hn, bne_self_eq_false, Bool.false_or] at hwhole
    obtain ⟨p, hp⟩ := Option.isSome_iff_exists.mp hwhole
    rw [trees_combine]
    unfold wrap
    rw [hp]
    exact ⟨_, rfl⟩

end Grammar
end Wdl
