import Wdl.Builder.Sections
import Wdl.Proofs.Lexer.Tokens

/-!
The names in parse trees.

What a document defines is named by tokens of its parse tree: most productions have one for their
name, and a call is named by its alias or by the segments of its target.  In a tree that the grammar
makes these tokens are where they are read, and their texts are identifiers, `IsTree.titled`.  That
they are no keywords does not follow: where only a name can stand, a keyword is taken for one.
-/

namespace Wdl

/-- The place of the name among the children of a production that has one. -/
def Production.titleAt? : Production → Option Nat
  | .struct | .workflow | .task | .scatter | .callAlias | .callTarget => some 0
  | .decl => some 1
  | _ => none

/-! ## Identifiers -/

theorem Lexer.isAlpha_eq (c : Char) : c.isAlpha = isLetter c := by
  have hupper : c.isUpper = ('A' ≤ c && c ≤ 'Z') := Bool.decide_and ..
  have hlower : c.isLower = ('a' ≤ c && c ≤ 'z') := rfl
  show (c.isUpper || c.isLower) = (('a' ≤ c && c ≤ 'z') || ('A' ≤ c && c ≤ 'Z'))
  rw [hupper, hlower, Bool.or_comm]

theorem Lexer.isAlphanum_eq (c : Char) : (c.isAlphanum || c == '_') = isNameChar c := by
  rw [Char.isAlphanum, isAlpha_eq]
  rfl

/-- The text of a name is an identifier. -/
theorem Token.isIdentifier_of_name {k : Token} (hk : k.Proper) (hterminal : k.terminal = .name) :
    Builder.isIdentifier k.text = true := by
  obtain ⟨rest, hrest⟩ := hk
  rw [hterminal] at hrest
  unfold Builder.isIdentifier
  cases htext : k.text.toList with
  | nil =>
    rw [htext] at hrest
    exact absurd (Terminal.match?_bounds .name _ _ hrest).1 (Nat.lt_irrefl 0)
  | cons c cs =>
    rw [htext] at hrest
    unfold Terminal.match? at hrest
    dsimp only [List.cons_append] at hrest
    split at hrest
    · next hletter =>
      have hcount : Lexer.countWhile Lexer.isNameChar (cs ++ rest) = cs.length :=
        Nat.succ.inj (Option.some.inj hrest)
      rw [Bool.and_eq_true, Lexer.isAlpha_eq, List.all_eq_true]
      refine ⟨hletter, fun d hd => ?_⟩
      obtain ⟨i, hi, rfl⟩ := List.mem_iff_getElem.mp hd
      obtain ⟨d, hget, hname⟩ := Lexer.countWhile_holds (hcount ▸ hi)
      rw [List.getElem?_append_left hi, List.getElem?_eq_getElem hi] at hget
      rw [Lexer.isAlphanum_eq, Option.some.inj hget]
      exact hname
    · cases hrest

/-- An identifier has no dot in it. -/
theorem Builder.dot_not_mem {s : String} (h : isIdentifier s = true) : '.' ∉ s.toList := by
  unfold isIdentifier at h
  cases hs : s.toList with
  | nil => exact List.not_mem_nil
  | cons c cs =>
    rw [hs, Bool.and_eq_true, List.all_eq_true] at h
    rintro hmem
    rcases List.mem_cons.mp hmem with rfl | hmem
    · exact absurd h.1 (by decide)
    · exact absurd (h.2 _ hmem) (by decide)

/-! ## Titles -/

namespace Tree

/-- A token whose text is an identifier. -/
def IsName (t : Tree) : Prop :=
  ∃ k, t = .token k ∧ Builder.isIdentifier k.text = true

/-- A production has the parts that it is named by: a name in its place, segments of a target that
are all names, and a target for a call. -/
def HasTitle (p : Production) (cs : List Tree) : Prop :=
  (∀ i, p.titleAt? = some i → ∃ t, cs[i]? = some t ∧ t.IsName) ∧
    (p = .callTarget → ∀ c ∈ cs, c.IsName) ∧
    (p = .call → ∃ c ∈ cs, c.isA .callTarget = true)

mutual

/-- All productions in a tree have what they are named by. -/
def Titled : Tree → Prop
  | .token _ => True
  | .node p _ cs => HasTitle p cs ∧ TitledList cs

def TitledList : List Tree → Prop
  | [] => True
  | c :: cs => Titled c ∧ TitledList cs

end

theorem titledList_iff {cs : List Tree} : TitledList cs ↔ ∀ c ∈ cs, c.Titled := by
  induction cs with
  | nil => simp [TitledList]
  | cons c cs ih => rw [TitledList, ih, List.forall_mem_cons]

end Tree

namespace Grammar

open Parse

/-- Whether a symbol can leave trees. -/
def lasts (verbatim : Bool) : Symbol → Bool
  | .terminal a => verbatim || !a.isSilent
  | .nonterminal _ => true

def lasting (r : Rule) : List Symbol := r.rhs.filter (lasts r.verbatim)

/-- The symbols that leave names only. -/
def isNaming : Symbol → Bool
  | .terminal a => a == .name
  | .nonterminal n => n == .targetSegments

/-- Whether a rule takes a name where its production has its title, and the parts of the titles of
calls. -/
def entitles (r : Rule) : Bool :=
  (match r.production.bind Production.titleAt? with
    | none => true
    | some 0 => (lasting r).head? == some (.terminal .name)
    | some _ => (lasting r).take 2 == [.nonterminal .type, .terminal .name]) &&
  (r.production != some .callTarget || (lasting r).all isNaming) &&
  (r.production != some .call || (lasting r).contains (.nonterminal .callTarget)) &&
  (r.lhs != .callTarget || r.production == some .callTarget) &&
  (r.lhs != .type || r.production.isSome) &&
  (r.lhs != .targetSegments || (r.production.isNone && (lasting r).all isNaming))

theorem rules_entitle : rules.all entitles = true := by decide +kernel

/-- The trees of a nonterminal are titled, and those that titles are made of are what they have to
be. -/
structure Entitled (n : Nonterminal) (ts : List Tree) : Prop where
  titled : ∀ t ∈ ts, t.Titled
  target : n = .callTarget → ∃ t ∈ ts, t.isA .callTarget = true
  type : n = .type → ts.length = 1
  segments : n = .targetSegments → ∀ t ∈ ts, t.IsName

variable {good : Token → Prop} {S : Nonterminal → List Tree → Prop} {ts : List Tree}

/-- Only the symbols that last count. -/
theorem handedAll_lasting {r : Rule} (h : HandedAll good S r.verbatim r.rhs ts) :
    HandedAll good S r.verbatim (lasting r) ts := by
  unfold lasting
  generalize r.rhs = xs at h ⊢
  induction xs generalizing ts with
  | nil => exact h
  | cons x xs ih =>
    obtain ⟨front, back, hfront, hback, rfl⟩ := h
    rw [List.filter_cons]
    split
    · exact ⟨front, back, hfront, ih hback, rfl⟩
    · next hsilent =>
      cases x with
      | nonterminal n => exact absurd rfl hsilent
      | terminal a =>
        obtain ⟨k, -, rfl, rfl⟩ := hfront
        rw [Entry.trees, if_neg (show ¬(r.verbatim || !k.terminal.isSilent) = true from hsilent)]
        exact ih hback

/-- A name that lasts is handed on as it is. -/
theorem isName_of_handed {v : Bool} (h : Handed Token.Proper S v (.terminal .name) ts) :
    ∃ t, ts = [t] ∧ t.IsName := by
  obtain ⟨k, hk, hterminal, rfl⟩ := h
  refine ⟨.token k, ?_, k, rfl, k.isIdentifier_of_name hk hterminal⟩
  have hlasts : (v || !Terminal.name.isSilent) = true := Bool.or_true v
  rw [Entry.trees, hterminal, if_pos hlasts]

theorem isName_of_naming {v : Bool} {xs : List Symbol} (hxs : xs.all isNaming = true)
    (h : HandedAll Token.Proper Entitled v xs ts) : ∀ t ∈ ts, t.IsName := by
  induction xs generalizing ts with
  | nil =>
    rw [show ts = [] from h]
    exact List.forall_mem_nil _
  | cons x xs ih =>
    obtain ⟨front, back, hfront, hback, rfl⟩ := h
    rw [List.all_cons, Bool.and_eq_true] at hxs
    refine List.forall_mem_append.mpr ⟨?_, ih hxs.2 hback⟩
    cases x with
    | terminal a =>
      obtain rfl := eq_of_beq hxs.1
      obtain ⟨t, rfl, ht⟩ := isName_of_handed hfront
      exact List.forall_mem_singleton.mpr ht
    | nonterminal n => exact hfront.segments (eq_of_beq hxs.1)

theorem target_of_handed {v : Bool} {xs : List Symbol}
    (hmem : Symbol.nonterminal .callTarget ∈ xs) (h : HandedAll good Entitled v xs ts) :
    ∃ t ∈ ts, t.isA .callTarget = true := by
  induction xs generalizing ts with
  | nil => exact absurd hmem List.not_mem_nil
  | cons x xs ih =>
    obtain ⟨front, back, hfront, hback, rfl⟩ := h
    rcases List.mem_cons.mp hmem with rfl | hmem
    · obtain ⟨t, ht, htarget⟩ := hfront.target rfl
      exact ⟨t, List.mem_append_left _ ht, htarget⟩
    · obtain ⟨t, ht, htarget⟩ := ih hmem hback
      exact ⟨t, List.mem_append_right _ ht, htarget⟩

/-- The name of a production is where it is read. -/
theorem title_of_handed {r : Rule} {p : Production} (hp : r.production = some p)
    (hentitles : entitles r = true)
    (h : HandedAll Token.Proper Entitled r.verbatim (lasting r) ts) {i : Nat}
    (hi : p.titleAt? = some i) : ∃ t, ts[i]? = some t ∧ t.IsName := by
  simp only [entitles, Bool.and_eq_true] at hentitles
  have htitle := hentitles.1.1.1.1.1
  rw [hp, Option.bind_some, hi] at htitle
  generalize lasting r = xs at h htitle
  cases i with
  | zero =>
    obtain ⟨rest, rfl⟩ := List.head?_eq_some_iff.mp (eq_of_beq htitle)
    obtain ⟨front, back, hfront, -, rfl⟩ := h
    obtain ⟨t, rfl, ht⟩ := isName_of_handed hfront
    exact ⟨t, rfl, ht⟩
  | succ i =>
    obtain rfl : i = 0 := by
      -- only a declaration has its name in another place
      cases p <;> cases hi
      rfl
    have hxs : xs = [.nonterminal .type, .terminal .name] ++ xs.drop 2 := by
      rw [← eq_of_beq htitle, List.take_append_drop]
    rw [hxs] at h
    obtain ⟨front, back, hfront, ⟨middle, rest, hmiddle, -, rfl⟩, rfl⟩ := h
    obtain ⟨t, rfl, ht⟩ := isName_of_handed hmiddle
    refine ⟨t, ?_, ht⟩
    have hone : front.length = 1 := hfront.type rfl
    rw [List.getElem?_append_right (Nat.le_of_eq hone), hone]
    rfl

theorem closed_entitled : Closed Token.Proper Entitled rules := by
  intro rule hrule ts extent hts
  have hentitles := List.all_eq_true.mp rules_entitle rule hrule
  have hlasting := handedAll_lasting hts
  have htitled := forall_of_handed (P := Tree.Titled) (fun _ => trivial)
    (fun _ _ h => h.titled) hts
  have htitle := fun {p} (hp : rule.production = some p) {i} (hi : p.titleAt? = some i) =>
    title_of_handed hp hentitles hlasting hi
  simp only [entitles, Bool.and_eq_true, Bool.or_eq_true, bne_iff_ne, ne_eq, beq_iff_eq,
    List.contains_iff_mem] at hentitles
  obtain ⟨⟨⟨⟨⟨-, htarget⟩, hcall⟩, hlhs⟩, htype⟩, hsegments⟩ := hentitles
  unfold wrap
  cases hp : rule.production with
  | none =>
    refine ⟨htitled, fun h => ?_, fun h => ?_, fun h => ?_⟩
    · cases hp.symm.trans (hlhs.resolve_left (· h))
    · have hsome := htype.resolve_left (· h)
      rw [hp] at hsome
      cases hsome
    · exact isName_of_naming (hsegments.resolve_left (· h)).2 hlasting
  | some p =>
    rw [hp] at htarget hcall hlhs hsegments
    refine ⟨List.forall_mem_singleton.mpr ⟨⟨fun i hi => htitle hp hi, ?_, ?_⟩,
      Tree.titledList_iff.mpr htitled⟩, fun h => ?_, fun _ => rfl, fun h => ?_⟩
    · rintro rfl
      exact isName_of_naming (htarget.resolve_left (· rfl)) hlasting
    · rintro rfl
      exact target_of_handed (hcall.resolve_left (· rfl)) hlasting
    · rw [Option.some.inj (hlhs.resolve_left (· h))]
      exact ⟨_, List.mem_singleton.mpr rfl, rfl⟩
    · cases (hsegments.resolve_left (· h)).1

/-- Everything in a parse tree has a name that is an identifier. -/
theorem IsTree.titled {n : Nonterminal} {t : Tree} (h : IsTree n t) : t.Titled :=
  (h.shape closed_entitled).titled t (List.mem_singleton.mpr rfl)

end Grammar
end Wdl
