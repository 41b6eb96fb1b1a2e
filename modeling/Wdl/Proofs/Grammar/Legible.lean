import Mathlib.Algebra.GroupWithZero.Nat
import Wdl.Proofs.Grammar.Derivation

/-!
What is read from parse trees, and what is not there to be read.

Events take the names, targets and values of a production from its children, by their places.  Every
production that the grammar makes has the children that are read, `IsTree.legible`, so no event ever
looks for one in vain.

Commands stand in tasks only, so in the trees of all nonterminals but those of tasks, of what tasks
are part of, and of the parts of commands there is nothing of them, `commandless_of_derives`.
-/

namespace Wdl

/-- The number of children of a production that are read by their places. -/
def Production.reads : Production → Nat
  | .importAlias | .metaEntry | .runtimeEntry | .decl | .placeholderOption | .member => 2
  | .importDoc | .importAs | .struct | .workflow | .task | .callAlias | .callAfter | .callInput
  | .scatter | .object | .objectEntry | .int | .float | .leftName | .placeholderValue | .apply
  | .stringLiteral => 1
  | _ => 0

namespace Tree

/-- The children that are read are there, and an import has one for the name of its document. -/
def Legible (t : Tree) : Prop :=
  ∀ p, t.production? = some p →
    p.reads ≤ t.children.length ∧ (p = .importDoc → t.nodes ≠ [])

end Tree

namespace Grammar

open Parse

/-- The nonterminals that hand on at least one tree, where that is needed. -/
def yields : Nonterminal → Bool
  | .type | .metaValue | .metaScalar | .stringLiteral | .expr | .exprCore | .literal | .string
  | .singleString | .doubleString | .placeholderName | .placeholderValue => true
  | _ => false

/-- A number of trees that a symbol hands on at least. -/
def least (verbatim : Bool) : Symbol → Nat
  | .terminal a => if verbatim || !a.isSilent then 1 else 0
  | .nonterminal n => if yields n then 1 else 0

def leastOf (r : Rule) : Nat := (r.rhs.map (least r.verbatim)).sum

/-- Whether a rule hands on enough to be read, and to go on handing it on. -/
def provides (r : Rule) : Bool :=
  (match r.production with
    | some p => p.reads ≤ leastOf r &&
        (p != .importDoc || r.rhs.contains (.nonterminal .stringLiteral))
    | none => !yields r.lhs || 1 ≤ leastOf r) &&
  (r.lhs != .stringLiteral || r.production.isSome)

/-- Every part of a tree of a nonterminal is legible, and there are trees where there have to be. -/
def Readable (n : Nonterminal) (ts : List Tree) : Prop :=
  (∀ t ∈ ts, ∀ path, ∀ x ∈ t.preorderAt path, x.2.Legible) ∧
    (yields n = true → 1 ≤ ts.length) ∧
    (n = .stringLiteral → ∀ t ∈ ts, t.production?.isSome = true)

variable {good : Token → Prop}

theorem least_le {v : Bool} {xs : List Symbol} {ts : List Tree}
    (h : HandedAll good Readable v xs ts) : (xs.map (least v)).sum ≤ ts.length := by
  induction xs generalizing ts with
  | nil => exact Nat.zero_le _
  | cons x xs ih =>
    obtain ⟨front, back, hfront, hback, rfl⟩ := h
    rw [List.map_cons, List.sum_cons, List.length_append]
    refine Nat.add_le_add ?_ (ih hback)
    cases x with
    | terminal a =>
      obtain ⟨k, -, rfl, rfl⟩ := hfront
      unfold least Entry.trees
      dsimp only
      split <;> exact Nat.le_refl _
    | nonterminal n =>
      unfold least
      dsimp only
      split
      · next hyields => exact hfront.2.1 hyields
      · exact Nat.zero_le _

/-- What holds of all trees that a nonterminal hands on, and of tokens, holds of what a rule is
handed. -/
theorem legible_of_handed {v : Bool} {xs : List Symbol} {ts : List Tree}
    (h : HandedAll good Readable v xs ts) :
    ∀ t ∈ ts, ∀ path, ∀ x ∈ t.preorderAt path, x.2.Legible :=
  forall_of_handed (P := fun t => ∀ path, ∀ x ∈ t.preorderAt path, x.2.Legible)
    (fun _ _ _ hx => absurd hx List.not_mem_nil) (fun _ _ hn => hn.1) h

theorem node_of_handed {v : Bool} {xs : List Symbol} {ts : List Tree}
    (hmem : Symbol.nonterminal .stringLiteral ∈ xs) (h : HandedAll good Readable v xs ts) :
    ∃ t ∈ ts, t.production?.isSome = true := by
  induction xs generalizing ts with
  | nil => exact absurd hmem List.not_mem_nil
  | cons x xs ih =>
    obtain ⟨front, back, hfront, hback, rfl⟩ := h
    rcases List.mem_cons.mp hmem with rfl | hmem
    · obtain ⟨t, ht⟩ := List.exists_mem_of_length_pos (hfront.2.1 rfl)
      exact ⟨t, List.mem_append_left _ ht, hfront.2.2 rfl t ht⟩
    · obtain ⟨t, ht, hnode⟩ := ih hmem hback
      exact ⟨t, List.mem_append_right _ ht, hnode⟩

theorem mem_preorderList {cs : List Tree} {path : Tree.Path} {i : Nat} {x : Tree.Path × Tree}
    (hx : x ∈ Tree.preorderList path i cs) : ∃ c ∈ cs, ∃ p, x ∈ c.preorderAt p := by
  induction cs generalizing i with
  | nil => exact absurd hx List.not_mem_nil
  | cons c cs ih =>
    rw [Tree.preorderList] at hx
    rcases List.mem_append.mp hx with hx | hx
    · exact ⟨c, List.mem_cons_self, _, hx⟩
    · obtain ⟨c', hc', p, hp⟩ := ih hx
      exact ⟨c', List.mem_cons_of_mem _ hc', p, hp⟩

theorem rules_provide : rules.all provides = true := by decide +kernel

theorem closed_readable : Closed good Readable rules := by
  intro rule hrule ts extent hts
  have hprovides := List.all_eq_true.mp rules_provide rule hrule
  have hlegible := legible_of_handed hts
  have hleast : leastOf rule ≤ ts.length := least_le hts
  unfold provides at hprovides
  rw [Bool.and_eq_true, Bool.or_eq_true] at hprovides
  obtain ⟨henough, hnode⟩ := hprovides
  unfold wrap
  cases hp : rule.production with
  | some p =>
    rw [hp] at henough
    simp only [Bool.and_eq_true, decide_eq_true_eq, Bool.or_eq_true, bne_iff_ne, ne_eq,
      List.contains_iff_mem] at henough
    have hself : (Tree.node p extent ts).Legible := by
      intro q hq
      obtain rfl := Option.some.inj hq
      refine ⟨Nat.le_trans henough.1 hleast, fun himport => ?_⟩
      obtain ⟨t, ht, hisnode⟩ := node_of_handed (henough.2.resolve_left (· himport)) hts
      exact List.ne_nil_of_mem (List.mem_filter.mpr ⟨ht, hisnode⟩)
    refine ⟨List.forall_mem_singleton.mpr fun path x hx => ?_, fun _ => Nat.le_refl 1,
      fun _ => List.forall_mem_singleton.mpr rfl⟩
    rcases List.mem_cons.mp hx with rfl | hx
    · exact hself
    · obtain ⟨c, hc, q, hx⟩ := mem_preorderList hx
      exact hlegible c hc q x hx
  | none =>
    rw [hp] at henough hnode
    refine ⟨hlegible, fun hyields => ?_, fun hl => ?_⟩
    · simp only [hyields, Bool.not_true, Bool.false_or, decide_eq_true_eq] at henough
      exact Nat.le_trans henough hleast
    · simp [hl] at hnode

/-- Every production of a parse tree has the children that are read. -/
theorem IsTree.legible {n : Nonterminal} {t : Tree} (h : IsTree n t) :
    ∀ x ∈ t.preorder, x.2.Legible :=
  (h.shape closed_readable).1 t (List.mem_singleton.mpr rfl) []

end Grammar
end Wdl

/-! ## Parts of trees that have nothing to do with commands -/

namespace Wdl

/-- The terminals of the runs of text of a command. -/
def Terminal.isFragment (t : Terminal) : Bool := t == .braceFragment || t == .heredocFragment

/-- The productions of tasks, and of commands and their placeholders. -/
def Production.isOfTasks : Production → Bool
  | .task | .command | .commandPlaceholder => true
  | _ => false

/-- A tree in which there are no tasks and nothing of commands. -/
inductive Commandless : Tree → Prop
  | token {k : Token} : k.terminal.isFragment = false → Commandless (.token k)
  | node {p : Production} {e : Option Extent} {cs : List Tree} : p.isOfTasks = false →
    (∀ c ∈ cs, Commandless c) → Commandless (.node p e cs)

namespace Grammar

open Parse

/-- What the trees of a nonterminal have to do with commands: documents and their elements hold
tasks, and others are commands or of their parts. -/
inductive Rank
  | document | elements | command | inner | commandless
  deriving DecidableEq

def rank : Nonterminal → Rank
  | .document => .document
  | .documentElements | .documentElement | .task => .elements
  | .command => .command
  | .braceCommand | .heredocCommand | .braceParts | .heredocParts | .bracePlaceholder
  | .heredocPlaceholder => .inner
  | _ => .commandless

def commandlessSymbol : Symbol → Bool
  | .terminal a => !a.isFragment
  | .nonterminal n => rank n == .commandless

/-- Whether a rule keeps commands away where there are none. -/
def staysCommandless (r : Rule) : Bool :=
  rank r.lhs != .commandless ||
    (r.production.all fun p => !p.isOfTasks) && r.rhs.all commandlessSymbol

theorem rules_stayCommandless : rules.all staysCommandless = true := by decide +kernel

variable {good : Token → Prop}

def CommandlessTrees (n : Nonterminal) (ts : List Tree) : Prop :=
  rank n = .commandless → ∀ t ∈ ts, Commandless t

theorem commandless_of_handed {x : Symbol} {v : Bool} {ts : List Tree}
    (hx : commandlessSymbol x = true) (h : Handed good CommandlessTrees v x ts) :
    ∀ t ∈ ts, Commandless t := by
  cases x with
  | terminal a =>
    obtain ⟨k, -, rfl, rfl⟩ := h
    exact Entry.forall_trees_token (.token (by simpa [commandlessSymbol] using hx)) v
  | nonterminal n => exact h (eq_of_beq hx)

theorem commandless_of_handedAll {xs : List Symbol} {v : Bool} {ts : List Tree}
    (hxs : xs.all commandlessSymbol = true) (h : HandedAll good CommandlessTrees v xs ts) :
    ∀ t ∈ ts, Commandless t := by
  induction xs generalizing ts with
  | nil =>
    rw [show ts = [] from h]
    exact List.forall_mem_nil _
  | cons x xs ih =>
    obtain ⟨front, back, hfront, hback, rfl⟩ := h
    rw [List.all_cons, Bool.and_eq_true] at hxs
    exact List.forall_mem_append.mpr ⟨commandless_of_handed hxs.1 hfront, ih hxs.2 hback⟩

theorem closed_commandless : Closed good CommandlessTrees rules := by
  intro rule hrule ts extent hts hrank
  have hstays := List.all_eq_true.mp rules_stayCommandless rule hrule
  rw [staysCommandless, hrank, bne_self_eq_false, Bool.false_or, Bool.and_eq_true] at hstays
  have hall := commandless_of_handedAll hstays.2 hts
  unfold wrap
  cases hproduction : rule.production with
  | none => exact hall
  | some p =>
    have hp : p.isOfTasks = false := by simpa [hproduction] using hstays.1
    exact List.forall_mem_singleton.mpr (.node hp hall)

/-- What is derived for another symbol than those of tasks and commands. -/
theorem commandless_of_derives {e : Parse.Entry} {ks : List Token} (h : e.Derives rules ks)
    (hsymbol : commandlessSymbol e.symbol = true) (v : Bool) : ∀ t ∈ e.trees v, Commandless t :=
  commandless_of_handed hsymbol
    (Parse.Entry.Derives.shape closed_commandless h (fun _ _ => trivial) v)

end Grammar
end Wdl
