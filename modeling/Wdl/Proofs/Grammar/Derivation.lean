import Wdl.Parse.Stack

/-!
Derivations of parse trees.

`Entry.Derives rules e ks` says that the entry `e` is made by the rules from the tokens `ks`, in
that order, including those that the tree drops.  It does not mention the automaton: any way to
parse has to end with such an entry.

What the trees of a nonterminal look like is a family `S` of predicates, one for each nonterminal.
`Derives.shape` reduces a statement about all derivations to `Closed`, a condition on each rule by
itself.
-/

namespace Wdl

/-- A token whose text is one of its terminal, whatever comes after it. -/
def Token.Proper (k : Token) : Prop :=
  ∃ rest, k.terminal.match? (k.text.toList ++ rest) = some k.text.toList.length

namespace Parse
namespace Entry

/-- An entry that the rules make from a sequence of tokens. -/
inductive Derives (rules : List Rule) : Entry → List Token → Prop
  | token (k : Token) : Derives rules (.token k) [k]
  | combine {rule : Rule} (mem : rule ∈ rules) (parts : List (Entry × List Token))
      (symbols : parts.map (fun p => p.1.symbol) = rule.rhs)
      (derived : ∀ p ∈ parts, Derives rules p.1 p.2) :
      Derives rules (Stack.combine rule (parts.map Prod.fst)) (parts.flatMap Prod.snd)

end Entry

section Shapes

variable (good : Token → Prop) (S : Nonterminal → List Tree → Prop)

/-- The trees that a symbol hands to the rule above it. -/
def Handed (verbatim : Bool) : Symbol → List Tree → Prop
  | .terminal a, ts => ∃ k : Token, good k ∧ k.terminal = a ∧ ts = Entry.trees verbatim (.token k)
  | .nonterminal n, ts => S n ts

/-- The trees that a sequence of symbols hands to the rule above it. -/
def HandedAll (verbatim : Bool) : List Symbol → List Tree → Prop
  | [], ts => ts = []
  | x :: xs, ts =>
    ∃ front back, Handed good S verbatim x front ∧ HandedAll verbatim xs back ∧ ts = front ++ back

/-- What a rule makes of the trees that it is handed. -/
def wrap (rule : Rule) (extent : Option Extent) (ts : List Tree) : List Tree :=
  match rule.production with
  | some p => [.node p extent ts]
  | none => ts

/-- The rules keep the shapes: parts of the right shapes make a whole of the right shape. -/
def Closed (rules : List Rule) : Prop :=
  ∀ rule ∈ rules, ∀ ts extent, HandedAll good S rule.verbatim rule.rhs ts →
    S rule.lhs (wrap rule extent ts)

end Shapes

variable {good : Token → Prop} {S : Nonterminal → List Tree → Prop} {rules : List Rule}

theorem closed_append {a b : List Rule} (ha : Closed good S a) (hb : Closed good S b) :
    Closed good S (a ++ b) := by
  intro rule hrule
  rcases List.mem_append.mp hrule with h | h
  · exact ha rule h
  · exact hb rule h

theorem trees_combine (rule : Rule) (es : List Entry) (verbatim : Bool) :
    (Stack.combine rule es).trees verbatim =
      wrap rule (Extent.hull (es.map Entry.extent?)) (es.flatMap (Entry.trees rule.verbatim)) := by
  simp only [Stack.combine, wrap]
  cases rule.production <;> rfl

theorem symbol_combine (rule : Rule) (es : List Entry) :
    (Stack.combine rule es).symbol = .nonterminal rule.lhs := by
  simp only [Stack.combine]
  cases rule.production <;> rfl

theorem extent_combine (rule : Rule) (es : List Entry) :
    (Stack.combine rule es).extent? = Extent.hull (es.map Entry.extent?) := by
  simp only [Stack.combine]
  cases rule.production <;> rfl

theorem handedAll_of_parts {v : Bool} (parts : List (Entry × List Token))
    (h : ∀ p ∈ parts, Handed good S v p.1.symbol (p.1.trees v)) :
    HandedAll good S v (parts.map fun p => p.1.symbol)
      ((parts.map Prod.fst).flatMap (Entry.trees v)) := by
  induction parts with
  | nil => rfl
  | cons p ps ih =>
    refine ⟨p.1.trees v, (ps.map Prod.fst).flatMap (Entry.trees v), ?_, ?_, ?_⟩
    · exact h p List.mem_cons_self
    · exact ih fun q hq => h q (List.mem_cons_of_mem p hq)
    · rw [List.map_cons, List.flatMap_cons]

/-- Every derived entry hands on trees of the shape of its symbol. -/
theorem Entry.Derives.shape (hS : Closed good S rules) {e : Entry} {ks : List Token}
    (h : e.Derives rules ks) (hgood : ∀ k ∈ ks, good k) (v : Bool) :
    Handed good S v e.symbol (e.trees v) := by
  induction h generalizing v with
  | token k => exact ⟨k, hgood k (List.mem_singleton.mpr rfl), rfl, rfl⟩
  | @combine rule mem parts symbols derived ih =>
    have hall : HandedAll good S rule.verbatim _ _ := handedAll_of_parts parts
      fun p hp => ih p hp (fun k hk => hgood k (List.mem_flatMap.mpr ⟨p, hp, hk⟩)) _
    rw [symbols] at hall
    rw [symbol_combine, trees_combine]
    exact hS rule mem _ _ hall

theorem handedAll_append {v : Bool} {xs ys : List Symbol} {ts : List Tree}
    (h : HandedAll good S v (xs ++ ys) ts) :
    ∃ front back, HandedAll good S v xs front ∧ HandedAll good S v ys back ∧
      ts = front ++ back := by
  induction xs generalizing ts with
  | nil => exact ⟨[], ts, rfl, h, rfl⟩
  | cons x xs ih =>
    obtain ⟨first, rest, hfirst, hrest, rfl⟩ := h
    obtain ⟨front, back, hfront, hback, rfl⟩ := ih hrest
    exact ⟨first ++ front, back, ⟨first, front, hfirst, hfront, rfl⟩, hback,
      (List.append_assoc ..).symm⟩

theorem handedAll_mono {T : Nonterminal → List Tree → Prop} (hST : ∀ n ts, S n ts → T n ts)
    {v : Bool} {xs : List Symbol} {ts : List Tree} (h : HandedAll good S v xs ts) :
    HandedAll good T v xs ts := by
  induction xs generalizing ts with
  | nil => exact h
  | cons x xs ih =>
    obtain ⟨front, back, hfront, hback, rfl⟩ := h
    refine ⟨front, back, ?_, ih hback, rfl⟩
    cases x with
    | terminal a => exact hfront
    | nonterminal n => exact hST n front hfront

theorem Entry.forall_trees_token {P : Tree → Prop} {k : Token} (h : P (.token k)) (v : Bool) :
    ∀ t ∈ Entry.trees v (.token k), P t := by
  intro t ht
  simp only [Entry.trees] at ht
  split at ht
  · rw [List.mem_singleton.mp ht]
    exact h
  · exact absurd ht List.not_mem_nil

/-- What holds of tokens, and of all trees of nonterminals, holds of all trees that are handed on.
-/
theorem forall_of_handed {P : Tree → Prop} (htoken : ∀ k, P (.token k))
    (hS : ∀ n ts, S n ts → ∀ t ∈ ts, P t) {v : Bool} {xs : List Symbol} {ts : List Tree}
    (h : HandedAll good S v xs ts) : ∀ t ∈ ts, P t := by
  induction xs generalizing ts with
  | nil =>
    rw [show ts = [] from h]
    exact List.forall_mem_nil _
  | cons x xs ih =>
    obtain ⟨front, back, hfront, hback, rfl⟩ := h
    refine List.forall_mem_append.mpr ⟨?_, ih hback⟩
    cases x with
    | terminal a =>
      obtain ⟨k, -, -, rfl⟩ := hfront
      exact Entry.forall_trees_token (htoken k) v
    | nonterminal n => exact hS n front hfront

end Parse

namespace Grammar

open Parse

/-! ## Slots

The rules are written with slots, and so is what they are handed: a fixed text leaves no tree, any
other token leaves itself, and a part that may be left out leaves nothing or its trees. -/

section Slots

variable (good : Token → Prop) (S : Nonterminal → List Tree → Prop)

/-- The trees that slots hand to the rule above them, however they are filled. -/
def HandedSlots : List Slot → List Tree → Prop
  | [], ts => ts = []
  | slot :: slots, ts => ∃ front back,
    (∃ choice ∈ slot, HandedAll good S false choice front) ∧ HandedSlots slots back ∧
      ts = front ++ back

end Slots

variable {good : Token → Prop} {S : Nonterminal → List Tree → Prop}
variable {slots : List Slot} {ts : List Tree}

theorem handedSlots_of_fill {rhs : List Symbol} (hrhs : rhs ∈ fill slots)
    (h : HandedAll good S false rhs ts) : HandedSlots good S slots ts := by
  induction slots generalizing rhs ts with
  | nil =>
    rw [fill, List.mem_singleton] at hrhs
    subst hrhs
    exact h
  | cons slot slots ih =>
    simp only [fill, List.mem_flatMap, List.mem_map] at hrhs
    obtain ⟨choice, hchoice, rest, hrest, rfl⟩ := hrhs
    obtain ⟨front, back, hfront, hback, rfl⟩ := handedAll_append h
    exact ⟨front, back, ⟨choice, hchoice, hfront⟩, ih hrest hback, rfl⟩

@[simp] theorem slots_nil : HandedSlots good S [] ts ↔ ts = [] := Iff.rfl

@[simp] theorem slots_sub {n : Nonterminal} :
    HandedSlots good S (sub n :: slots) ts ↔
      ∃ front rest, S n front ∧ HandedSlots good S slots rest ∧ ts = front ++ rest := by
  simp [HandedSlots, sub, HandedAll, Handed]

theorem slots_silent {a : Terminal} (ha : a.isSilent = true) :
    HandedSlots good S (tok a :: slots) ts ↔
      (∃ k, good k ∧ k.terminal = a) ∧ HandedSlots good S slots ts := by
  constructor
  · rintro ⟨front, back, ⟨choice, hchoice, hfront⟩, hback, rfl⟩
    rw [List.mem_singleton.mp hchoice] at hfront
    obtain ⟨us, vs, ⟨k, hk, rfl, rfl⟩, rfl, rfl⟩ := hfront
    simpa [Entry.trees, ha] using ⟨⟨k, hk, rfl⟩, hback⟩
  · rintro ⟨⟨k, hk, rfl⟩, h⟩
    refine ⟨[], ts, ⟨_, List.mem_singleton.mpr rfl, [], [], ⟨k, hk, rfl, ?_⟩, rfl, rfl⟩, h, rfl⟩
    simp [Entry.trees, ha]

theorem slots_kept {a : Terminal} (ha : a.isSilent = false) :
    HandedSlots good S (tok a :: slots) ts ↔
      ∃ k rest, good k ∧ k.terminal = a ∧ HandedSlots good S slots rest ∧ ts = .token k :: rest := by
  constructor
  · rintro ⟨front, back, ⟨choice, hchoice, hfront⟩, hback, rfl⟩
    rw [List.mem_singleton.mp hchoice] at hfront
    obtain ⟨us, vs, ⟨k, hk, rfl, rfl⟩, rfl, rfl⟩ := hfront
    exact ⟨k, back, hk, rfl, hback, by simp [Entry.trees, ha]⟩
  · rintro ⟨k, rest, hk, rfl, hrest, rfl⟩
    refine ⟨[.token k], rest,
      ⟨_, List.mem_singleton.mpr rfl, [.token k], [], ⟨k, hk, rfl, ?_⟩, rfl, rfl⟩, hrest, rfl⟩
    simp [Entry.trees, ha]

/-- A slot that may be left empty is left empty or filled. -/
theorem slots_optional {choice : List Symbol}
    (h : HandedSlots good S ([[], choice] :: slots) ts) :
    HandedSlots good S slots ts ∨ HandedSlots good S ([choice] :: slots) ts := by
  obtain ⟨front, back, ⟨filled, hfilled, hfront⟩, hback, rfl⟩ := h
  rcases List.mem_cons.mp hfilled with rfl | hfilled
  · left
    rw [show front = [] from hfront]
    exact hback
  · exact .inr ⟨front, back, ⟨filled, hfilled, hfront⟩, hback, rfl⟩

theorem slots_maybeSilent {a : Terminal} (ha : a.isSilent = true)
    (h : HandedSlots good S (maybeTok a :: slots) ts) : HandedSlots good S slots ts := by
  rcases slots_optional h with h | h
  · exact h
  · exact ((slots_silent ha).mp h).2

/-- A part that may be left out, if it may have no trees at all anyway. -/
theorem slots_maybe {n : Nonterminal} (hn : S n [])
    (h : HandedSlots good S (maybe n :: slots) ts) :
    ∃ front rest, S n front ∧ HandedSlots good S slots rest ∧ ts = front ++ rest := by
  rcases slots_optional h with h | h
  · exact ⟨[], ts, hn, h, rfl⟩
  · exact slots_sub.mp h

/-- The two lists of a series are one. -/
theorem slots_series {first more : Nonterminal} {P : Tree → Prop}
    (hfirst : ∀ us, S first us → ∀ t ∈ us, P t) (hmore : ∀ us, S more us → ∀ t ∈ us, P t)
    (h : HandedSlots good S (series first more :: slots) ts) :
    ∃ front rest, (∀ t ∈ front, P t) ∧ HandedSlots good S slots rest ∧ ts = front ++ rest := by
  obtain ⟨front, rest, ⟨choice, hchoice, hfront⟩, hrest, rfl⟩ := h
  refine ⟨front, rest, ?_, hrest, rfl⟩
  simp only [series, List.mem_cons, List.not_mem_nil, or_false] at hchoice
  rcases hchoice with rfl | rfl | rfl
  · intro t ht
    rw [show front = [] from hfront] at ht
    exact absurd ht (List.not_mem_nil)
  · obtain ⟨us, vs, hus, rfl, rfl⟩ := hfront
    rw [List.append_nil]
    exact hfirst us hus
  · obtain ⟨us, vs, hus, ⟨ws, xs, hws, rfl, rfl⟩, rfl⟩ := hfront
    intro t ht
    rw [List.append_nil, List.mem_append] at ht
    rcases ht with ht | ht
    · exact hfirst us hus t ht
    · exact hmore ws hws t ht

theorem closed_node {lhs : Nonterminal} {p : Production}
    (h : ∀ ts extent, HandedSlots good S slots ts → S lhs [.node p extent ts]) :
    Closed good S (node lhs p slots) := by
  intro rule hrule ts extent hts
  obtain ⟨rhs, hrhs, rfl⟩ := List.mem_map.mp hrule
  exact h ts extent (handedSlots_of_fill hrhs hts)

theorem closed_anyOf {lhs : Nonterminal} {options : List Nonterminal}
    (h : ∀ n ∈ options, ∀ ts, S n ts → S lhs ts) : Closed good S (anyOf lhs options) := by
  intro rule hrule ts extent hts
  obtain ⟨n, hn, rfl⟩ := List.mem_map.mp hrule
  obtain ⟨front, back, hfront, rfl, rfl⟩ := hts
  rw [List.append_nil]
  exact h n hn front hfront

/-- A repetition of items is closed if the lists of its shape can be joined. -/
theorem closed_many {lhs : Nonterminal} (hitem : ∀ ts, HandedSlots good S slots ts → S lhs ts)
    (happend : ∀ us vs, S lhs us → S lhs vs → S lhs (us ++ vs)) :
    Closed good S (many lhs slots) := by
  intro rule hrule ts extent hts
  simp only [many, List.mem_append, List.mem_map] at hrule
  rcases hrule with ⟨rhs, hrhs, rfl⟩ | ⟨rhs, hrhs, rfl⟩
  · exact hitem ts (handedSlots_of_fill hrhs hts)
  · obtain ⟨front, back, hfront, hback, rfl⟩ := hts
    exact happend front back hfront (hitem back (handedSlots_of_fill hrhs hback))

/-! ## Parse trees -/

/-- Trees with a common extent that the grammar makes for a symbol from tokens. -/
def Makes (x : Symbol) (extent : Option Extent) (ts : List Tree) (ks : List Token) : Prop :=
  ∃ e : Parse.Entry, e.Derives rules ks ∧ e.symbol = x ∧ e.extent? = extent ∧ e.trees false = ts

theorem makes_token (k : Token) :
    Makes (.terminal k.terminal) (some (.ofToken k)) (Parse.Entry.trees false (.token k)) [k] :=
  ⟨.token k, .token k, rfl, rfl, rfl⟩

/-- What a rule makes of parts. -/
theorem makes_rule {rule : Rule} (mem : rule ∈ rules) (hverbatim : rule.verbatim = false)
    (parts : List (Symbol × Option Extent × List Tree × List Token))
    (hrhs : parts.map (fun x => x.1) = rule.rhs)
    (hparts : ∀ x ∈ parts, Makes x.1 x.2.1 x.2.2.1 x.2.2.2) :
    Makes (.nonterminal rule.lhs) (Extent.hull (parts.map fun x => x.2.1))
      (Parse.wrap rule (Extent.hull (parts.map fun x => x.2.1)) (parts.flatMap fun x => x.2.2.1))
      (parts.flatMap fun x => x.2.2.2) := by
  have hentries : ∃ es : List (Parse.Entry × List Token), (∀ x ∈ es, x.1.Derives rules x.2) ∧
      es.map (fun x => x.1.symbol) = parts.map (fun x => x.1) ∧
      es.map (fun x => x.1.extent?) = parts.map (fun x => x.2.1) ∧
      es.flatMap (fun x => x.1.trees false) = parts.flatMap (fun x => x.2.2.1) ∧
      es.flatMap Prod.snd = parts.flatMap (fun x => x.2.2.2) := by
    clear hrhs
    induction parts with
    | nil => exact ⟨[], List.forall_mem_nil _, rfl, rfl, rfl, rfl⟩
    | cons x parts ih =>
      obtain ⟨⟨e, hd, hs, he, ht⟩, hrest⟩ := List.forall_mem_cons.mp hparts
      obtain ⟨es, hds, hss, hes, hts, hks⟩ := ih hrest
      refine ⟨(e, x.2.2.2) :: es, List.forall_mem_cons.mpr ⟨hd, hds⟩, ?_, ?_, ?_, ?_⟩
      · rw [List.map_cons, List.map_cons, hss, hs]
      · rw [List.map_cons, List.map_cons, hes, he]
      · rw [List.flatMap_cons, List.flatMap_cons, hts, ht]
      · rw [List.flatMap_cons, List.flatMap_cons, hks]
  obtain ⟨es, hd, hs, he, ht, hk⟩ := hentries
  refine ⟨_, hk ▸ Parse.Entry.Derives.combine mem es (hs.trans hrhs) hd, ?_, ?_, ?_⟩
  · exact Parse.symbol_combine rule _
  · rw [Parse.extent_combine, List.map_map, ← he]
    rfl
  · rw [Parse.trees_combine, hverbatim, List.map_map, ← he, ← ht, List.flatMap_map]
    rfl

/-- A rule makes a node of parts. -/
theorem makes_node {lhs : Nonterminal} {p : Production} {rhs : List Symbol}
    (mem : ⟨lhs, rhs, some p, false⟩ ∈ rules)
    (parts : List (Symbol × Option Extent × List Tree × List Token))
    (hrhs : parts.map (fun x => x.1) = rhs)
    (hparts : ∀ x ∈ parts, Makes x.1 x.2.1 x.2.2.1 x.2.2.2) :
    Makes (.nonterminal lhs) (Extent.hull (parts.map fun x => x.2.1))
      [.node p (Extent.hull (parts.map fun x => x.2.1)) (parts.flatMap fun x => x.2.2.1)]
      (parts.flatMap fun x => x.2.2.2) :=
  makes_rule mem rfl parts hrhs hparts

/-- What is made for a nonterminal is made for those that stand for it, too. -/
theorem makes_chain {n : Nonterminal} {extent : Option Extent} {ts : List Tree} {ks : List Token}
    (h : Makes (.nonterminal n) extent ts ks) (ms : List Nonterminal)
    (hms : ∀ nm ∈ (n :: ms).zip ms, ⟨nm.2, [.nonterminal nm.1], none, false⟩ ∈ rules) :
    Makes (.nonterminal ((n :: ms).getLast (List.cons_ne_nil n ms))) extent ts ks := by
  induction ms generalizing n with
  | nil => exact h
  | cons m ms ih =>
    obtain ⟨hm, hms⟩ := List.forall_mem_cons.mp hms
    obtain ⟨e, hd, hs, he, ht⟩ := h
    have hone : Parse.Stack.combine ⟨m, [.nonterminal n], none, false⟩ [e] =
        .reduced m extent ts := by
      subst he ht
      cases hextent : e.extent? <;> simp [Parse.Stack.combine, Extent.hull, hextent]
    refine ih ⟨.reduced m extent ts, ?_, rfl, rfl, rfl⟩ hms
    rw [← hone, ← List.append_nil ks]
    refine Parse.Entry.Derives.combine hm [(e, ks)] ?_ (List.forall_mem_singleton.mpr hd)
    rw [List.map_singleton, hs]

/-- An expression with no operator in it. -/
theorem makes_expr {core : Tree} {extent : Extent} {ks : List Token}
    (h : Makes (.nonterminal .exprCore) (some extent) [core] ks) :
    Makes (.nonterminal .expr) (some extent) [.node .expr (some extent) [core]] ks := by
  have hlevels := makes_chain h
    [.factor, .product, .sum, .comparison, .conjunction, .disjunction] (by decide +kernel)
  have hrule : (⟨.expr, [.nonterminal .disjunction], some .expr, false⟩ : Rule) ∈ rules := by
    decide +kernel
  have hexpr := makes_node hrule [(_, _, _, _)] rfl (List.forall_mem_singleton.mpr hlevels)
  rw [List.flatMap_singleton, List.flatMap_singleton] at hexpr
  exact hexpr

/-- An expression that is a name. -/
theorem makes_nameExpr {k : Token} (hk : k.terminal = .name) :
    Makes (.nonterminal .expr) (some (.ofToken k))
      [.node .expr (some (.ofToken k)) [.node .leftName (some (.ofToken k)) [.token k]]] [k] := by
  have hrule : (⟨.exprCore, [.terminal .name], some .leftName, false⟩ : Rule) ∈ rules := by
    decide +kernel
  have htoken := makes_token k
  rw [Parse.Entry.trees, hk] at htoken
  exact makes_expr (makes_node hrule [(_, _, _, _)] rfl (List.forall_mem_singleton.mpr htoken))

/-- A struct with members. -/
theorem makes_struct {head name opening closing : Token} (hhead : head.terminal = .structKw)
    (hname : name.terminal = .name) (hopening : opening.terminal = .lbrace)
    (hclosing : closing.terminal = .rbrace) {extent : Extent} {ts : List Tree} {ks : List Token}
    (h : Makes (.nonterminal .structMembers) (some extent) ts ks) :
    Makes (.nonterminal .struct) (some ⟨head.start, closing.stop⟩)
      [.node .struct (some ⟨head.start, closing.stop⟩) (.token name :: ts)]
      (head :: name :: opening :: (ks ++ [closing])) := by
  have hrule : (⟨.struct, [.terminal .structKw, .terminal .name, .terminal .lbrace,
      .nonterminal .structMembers, .terminal .rbrace], some .struct, false⟩ : Rule) ∈ rules := by
    decide +kernel
  have hsilent : ∀ k : Token, k.terminal.isSilent = true →
      Makes (.terminal k.terminal) (some (.ofToken k)) [] [k] := by
    intro k hk
    have htoken := makes_token k
    rwa [Parse.Entry.trees, hk] at htoken
  have htitle := makes_token name
  rw [Parse.Entry.trees, hname] at htitle
  have hstruct := makes_node hrule
    [(.terminal .structKw, some (.ofToken head), [], [head]),
      (.terminal .name, some (.ofToken name), [.token name], [name]),
      (.terminal .lbrace, some (.ofToken opening), [], [opening]),
      (.nonterminal .structMembers, some extent, ts, ks),
      (.terminal .rbrace, some (.ofToken closing), [], [closing])] rfl (by
        simp only [List.forall_mem_cons]
        exact ⟨hhead ▸ hsilent head (by rw [hhead]; rfl), htitle,
          hopening ▸ hsilent opening (by rw [hopening]; rfl), h,
          hclosing ▸ hsilent closing (by rw [hclosing]; rfl), List.forall_mem_nil _⟩)
  simp only [List.flatMap_cons, List.flatMap_nil, List.append_nil, List.nil_append,
    List.singleton_append] at hstruct
  exact hstruct

/-- A parse tree that the grammar makes for a nonterminal from tokens with proper texts. -/
def IsTree (n : Nonterminal) (t : Tree) : Prop :=
  ∃ (e : Parse.Entry) (ks : List Token), e.Derives rules ks ∧ e.symbol = .nonterminal n ∧
    e.trees false = [t] ∧ ∀ k ∈ ks, k.Proper

/-- A parse tree has the shape of its nonterminal. -/
theorem IsTree.shape {n : Nonterminal} {t : Tree}
    (hS : Parse.Closed Token.Proper S rules) (h : IsTree n t) : S n [t] := by
  obtain ⟨e, ks, hd, hsymbol, htrees, hproper⟩ := h
  have := hd.shape hS hproper false
  rwa [hsymbol, htrees] at this

end Grammar
end Wdl
