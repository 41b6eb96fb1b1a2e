import Mathlib.Data.Fintype.Pigeonhole
import Wdl.Proofs.Document.Forest
import Wdl.Scope.Resolve

/-!
Nearest bindings.

Names are bound in scopes by one attempt after another, some of which fail: the empty name is never
bound, and no name twice in a scope.  So a scope binds a name to the symbol of the first attempt, a
fact about the whole history of attempts that each of them keeps, `Forest.Records`.  A name is found
in the nearest scope outwards with such an attempt.  That the search sees every scope outwards rests
on the scopes being nested: none lies around itself, so no chain of them is longer than there are
scopes.
-/

namespace Wdl

/-- An attempt to bind a name in a scope to a node. -/
structure Attempt where
  scope : ScopeId
  name : String
  symbol : NodeId

/-- The symbol of the first attempt to bind a name in a scope, if the name is not empty. -/
def Attempt.first? (history : List Attempt) (s : ScopeId) (name : String) : Option NodeId :=
  if name.isEmpty then none
  else (history.find? fun a => a.scope == s && a.name == name).map Attempt.symbol

namespace Forest

/-- The scope directly around one. -/
def around? (f : Forest) (s : ScopeId) : Option ScopeId :=
  (f.scope? s).bind Scope.parent

/-- The scope that lies a number of steps outwards from one. -/
def outward? (f : Forest) : Nat → ScopeId → Option ScopeId
  | 0, s => some s
  | n + 1, s => (f.around? s).bind (f.outward? n)

/-- No scope lies around itself. -/
def NestedScopes (f : Forest) : Prop :=
  ∀ n s, f.outward? (n + 1) s ≠ some s

/-- Of the scopes from `s` outwards, `t` is the nearest that `symbol` has something for, which is
`x`. -/
def Nearest (f : Forest) (symbol : ScopeId → Option NodeId) (s t : ScopeId) (x : NodeId) : Prop :=
  ∃ k, f.outward? k s = some t ∧ symbol t = some x ∧
    ∀ j < k, ∀ u, f.outward? j s = some u → symbol u = none

/-- What an attempt leaves: the forest as it was, if it fails. -/
def attempt (f : Forest) (a : Attempt) : Forest :=
  match f.define a.scope a.name a.symbol with
  | .ok g => g
  | .error _ => f

/-- What a history of attempts leaves. -/
def attemptAll (f : Forest) (history : List Attempt) : Forest :=
  history.foldl attempt f

/-- Every scope binds the names that there have been attempts to bind in it, to the first symbols. -/
def Records (f : Forest) (history : List Attempt) : Prop :=
  ∀ s sc, f.scope? s = some sc → ∀ name, sc.symbols.lookup name = Attempt.first? history s name

variable {f g : Forest} {s t : ScopeId} {name : String} {history : List Attempt} {a : Attempt}

/-! ## Chains of scopes -/

theorem outward?_add (m n : Nat) (s : ScopeId) :
    f.outward? (m + n) s = (f.outward? m s).bind (f.outward? n) := by
  induction m generalizing s with
  | zero => rw [Nat.zero_add, outward?, Option.bind_some]
  | succ m ih =>
    rw [Nat.succ_add, outward?, outward?, Option.bind_assoc]
    exact congrArg _ (funext ih)

theorem exists_outward?_le {m n : Nat} (hle : m ≤ n) (h : f.outward? n s = some t) :
    ∃ u, f.outward? m s = some u ∧ f.outward? (n - m) u = some t := by
  rw [← Nat.add_sub_cancel' hle, outward?_add] at h
  exact Option.bind_eq_some_iff.mp h

theorem lt_nextScope_of_around? (h : f.around? s = some t) : s < f.nextScope := by
  obtain ⟨sc, hsc, -⟩ := Option.bind_eq_some_iff.mp h
  exact (Array.getElem?_eq_some_iff.mp hsc).1

/-- Scopes whose numbers grow inwards are nested. -/
theorem nestedScopes_of_lt (h : ∀ s t, f.around? s = some t → t < s) : f.NestedScopes := by
  have hle : ∀ n s t, f.outward? n s = some t → t ≤ s := by
    intro n
    induction n with
    | zero =>
      intro s t hst
      exact Nat.le_of_eq (Option.some.inj hst).symm
    | succ n ih =>
      intro s t hst
      obtain ⟨u, hu, ht⟩ := Option.bind_eq_some_iff.mp hst
      exact Nat.le_trans (ih u t ht) (Nat.le_of_lt (h s u hu))
  intro n s hs
  obtain ⟨u, hu, hs⟩ := Option.bind_eq_some_iff.mp hs
  exact absurd (hle n u s hs) (Nat.not_le_of_lt (h s u hu))

/-- No chain has more scopes than there are: by the pigeonhole principle it would come to one of them
twice, and that one would lie around itself. -/
theorem NestedScopes.outward?_eq_none (h : f.NestedScopes) {n : Nat} (hn : f.nextScope < n)
    (s : ScopeId) : f.outward? n s = none := by
  by_contra hsome
  obtain ⟨last, hlast⟩ := Option.ne_none_iff_exists'.mp hsome
  have hchain : ∀ i : Fin n, ∃ u, f.outward? i s = some u ∧ u < f.nextScope := by
    intro i
    obtain ⟨u, hu, hrest⟩ := exists_outward?_le (Nat.le_of_lt i.isLt) hlast
    rw [← Nat.succ_pred_eq_of_pos (Nat.sub_pos_of_lt i.isLt), outward?] at hrest
    obtain ⟨v, hv, -⟩ := Option.bind_eq_some_iff.mp hrest
    exact ⟨u, hu, lt_nextScope_of_around? hv⟩
  choose chain hat hlt using hchain
  obtain ⟨i, j, hne, heq⟩ := Fintype.exists_ne_map_eq_of_card_lt
    (fun i => (⟨chain i, hlt i⟩ : Fin f.nextScope)) (by rwa [Fintype.card_fin, Fintype.card_fin])
  have hmeet : chain i = chain j := congrArg Fin.val heq
  have hbefore : ∀ i j : Fin n, i < j → chain i ≠ chain j := by
    intro i j hij hmeet
    obtain ⟨u, hu, hagain⟩ := exists_outward?_le (Nat.le_of_lt hij) (hat j)
    obtain rfl := Option.some.inj ((hat i).symm.trans hu)
    rw [← hmeet, ← Nat.succ_pred_eq_of_pos (Nat.sub_pos_of_lt hij)] at hagain
    exact h _ _ hagain
  rcases Fin.lt_or_lt_of_ne hne with hij | hji
  · exact hbefore i j hij hmeet
  · exact hbefore j i hji hmeet.symm

/-! ## The search -/

section Search

variable {symbol : ScopeId → Option NodeId} {x : NodeId}

theorem enclosingTo_succ (n : Nat) (s : ScopeId) :
    f.enclosingTo (n + 1) s = s :: (f.around? s).elim [] (f.enclosingTo n) := by
  rw [enclosingTo, around?]
  cases (f.scope? s).bind Scope.parent <;> rfl

/-- The nearest scope is the innermost one, or else the nearest to the scope around that. -/
theorem nearest_iff :
    f.Nearest symbol s t x ↔ (s = t ∧ symbol s = some x) ∨
      (symbol s = none ∧ ∃ u, f.around? s = some u ∧ f.Nearest symbol u t x) := by
  constructor
  · rintro ⟨k, ht, hx, hbefore⟩
    cases k with
    | zero =>
      obtain rfl := Option.some.inj ht
      exact .inl ⟨rfl, hx⟩
    | succ k =>
      obtain ⟨u, hu, ht⟩ := Option.bind_eq_some_iff.mp ht
      refine .inr ⟨hbefore 0 (Nat.succ_pos k) s rfl, u, hu, k, ht, hx, fun j hj v hv => ?_⟩
      exact hbefore (j + 1) (Nat.succ_lt_succ hj) v (by rw [outward?, hu, Option.bind_some, hv])
  · rintro (⟨rfl, hx⟩ | ⟨hs, u, hu, k, ht, hx, hbefore⟩)
    · exact ⟨0, rfl, hx, fun j hj => absurd hj (Nat.not_lt_zero j)⟩
    · refine ⟨k + 1, by rw [outward?, hu, Option.bind_some, ht], hx, fun j hj v hv => ?_⟩
      cases j with
      | zero => exact Option.some.inj hv ▸ hs
      | succ j =>
        rw [outward?, hu, Option.bind_some] at hv
        exact hbefore j (Nat.lt_of_succ_lt_succ hj) v hv

theorem forall_outward?_iff {P : ScopeId → Prop} :
    (∀ k t, f.outward? k s = some t → P t) ↔
      P s ∧ ∀ u, f.around? s = some u → ∀ k t, f.outward? k u = some t → P t := by
  constructor
  · intro h
    exact ⟨h 0 s rfl, fun u hu k t ht => h (k + 1) t (by rw [outward?, hu, Option.bind_some, ht])⟩
  · rintro ⟨hs, houter⟩ k t ht
    cases k with
    | zero => exact Option.some.inj ht ▸ hs
    | succ k =>
      obtain ⟨u, hu, ht⟩ := Option.bind_eq_some_iff.mp ht
      exact houter u hu k t ht

/-- A search through all scopes outwards finds the nearest. -/
theorem findSome?_enclosingTo {n : Nat} (hends : f.outward? n s = none) :
    (f.enclosingTo n s).findSome? (fun t => (symbol t).map (Binding.mk t)) = some ⟨t, x⟩ ↔
      f.Nearest symbol s t x := by
  induction n generalizing s with
  | zero => exact nomatch hends
  | succ n ih =>
    rw [enclosingTo_succ, List.findSome?_cons, nearest_iff]
    cases hs : symbol s with
    | some y => simp
    | none =>
      cases hu : f.around? s with
      | none => simp
      | some u =>
        rw [outward?, hu, Option.bind_some] at hends
        simp [ih hends]

theorem findSome?_enclosingTo_eq_none {n : Nat} (hends : f.outward? n s = none) :
    (f.enclosingTo n s).findSome? (fun t => (symbol t).map (Binding.mk t)) = none ↔
      ∀ k t, f.outward? k s = some t → symbol t = none := by
  induction n generalizing s with
  | zero => exact nomatch hends
  | succ n ih =>
    rw [enclosingTo_succ, List.findSome?_cons, forall_outward?_iff]
    cases hs : symbol s with
    | some y => simp
    | none =>
      cases hu : f.around? s with
      | none => simp
      | some u =>
        rw [outward?, hu, Option.bind_some] at hends
        simp [ih hends]

end Search

/-- A name is found in the nearest scope that binds it. -/
theorem NestedScopes.find_eq_ok_iff (h : f.NestedScopes) {x : NodeId} :
    f.find s name = .ok ⟨t, x⟩ ↔ f.Nearest (f.symbol? · name) s t x := by
  rw [← findSome?_enclosingTo (h.outward?_eq_none (Nat.lt_succ_self _) s), find, enclosing,
    ← nextScope]
  split
  · next b hb => rw [hb, Except.ok.injEq, Option.some.injEq]
  · next hnone => simp [hnone]

/-- A name is not found just where no scope outwards binds it. -/
theorem NestedScopes.find_eq_error_iff (h : f.NestedScopes) :
    f.find s name = .error (.missing (f.scopeNode? s) (.notDefined name)) ↔
      ∀ k t, f.outward? k s = some t → f.symbol? t name = none := by
  rw [← findSome?_enclosingTo_eq_none (h.outward?_eq_none (Nat.lt_succ_self _) s), find, enclosing,
    ← nextScope]
  split
  · next b hb => simp [hb]
  · next hnone => simp [hnone]

/-- What is found does not lie inside the scope where it is looked up, nor beside it. -/
theorem NestedScopes.outside (h : f.NestedScopes) {symbol : ScopeId → Option NodeId} {x : NodeId}
    (hnearest : f.Nearest symbol s t x) :
    (∀ k, f.outward? (k + 1) t ≠ some s) ∧
      ∀ u, f.around? t = some u → f.around? s = some u → t = s := by
  obtain ⟨k, ht, -, -⟩ := hnearest
  refine ⟨fun j hj => ?_, fun u hu hu' => ?_⟩
  · refine h (k + j) s ?_
    rw [Nat.add_assoc, outward?_add, ht, Option.bind_some, hj]
  · cases k with
    | zero => exact (Option.some.inj ht).symm
    | succ k =>
      rw [outward?, hu', Option.bind_some] at ht
      refine absurd ?_ (h k u)
      rw [outward?_add, ht, Option.bind_some, outward?, hu, Option.bind_some, outward?]

/-! ## Histories -/

theorem first?_append (before after : List Attempt) (s : ScopeId) (name : String) :
    Attempt.first? (before ++ after) s name =
      (Attempt.first? before s name).or (Attempt.first? after s name) := by
  unfold Attempt.first?
  split
  · rfl
  · rw [List.find?_append, Option.map_or]

theorem first?_singleton (a : Attempt) (s : ScopeId) (name : String) :
    Attempt.first? [a] s name =
      if a.name ≠ "" ∧ a.scope = s ∧ a.name = name then some a.symbol else none := by
  unfold Attempt.first?
  by_cases htarget : a.scope = s ∧ a.name = name
  · obtain ⟨rfl, rfl⟩ := htarget
    by_cases hempty : a.name = "" <;> simp [hempty]
  · simp [htarget]

theorem isSome_first?_iff :
    (Attempt.first? history s name).isSome = true ↔
      name ≠ "" ∧ ∃ a ∈ history, a.scope = s ∧ a.name = name := by
  unfold Attempt.first?
  by_cases hempty : name = "" <;> simp [hempty]

theorem contains_eq_isSome_lookup (name : String) (symbols : List (String × NodeId)) :
    Assoc.contains name symbols = (symbols.lookup name).isSome := by
  induction symbols with
  | nil => rfl
  | cons entry symbols ih =>
    obtain ⟨key, symbol⟩ := entry
    rw [Assoc.contains, List.any_cons, List.lookup_cons, ← Assoc.contains, ih]
    rw [Bool.beq_comm]
    cases name == key <;> rfl

/-- Attempts change nothing of the scopes but what they bind. -/
theorem attempt_keeps (f : Forest) (a : Attempt) :
    (f.attempt a).nextScope = f.nextScope ∧ (f.attempt a).around? = f.around? ∧
      (f.attempt a).scopeNode? = f.scopeNode? := by
  unfold attempt
  split
  · next g hg =>
    rw [(define_ok hg).2.2]
    refine ⟨nextScope_modifyScope .., funext fun s => ?_, funext fun s => ?_⟩
    · rw [around?, around?, scope?_modifyScope]
      split <;> cases f.scope? s <;> rfl
    · rw [scopeNode?, scopeNode?, scope?_modifyScope]
      split <;> cases f.scope? s <;> rfl
  · exact ⟨rfl, rfl, rfl⟩

theorem attemptAll_keeps (f : Forest) (history : List Attempt) :
    (f.attemptAll history).nextScope = f.nextScope ∧
      (f.attemptAll history).around? = f.around? ∧
      (f.attemptAll history).scopeNode? = f.scopeNode? := by
  induction history generalizing f with
  | nil => exact ⟨rfl, rfl, rfl⟩
  | cons a history ih =>
    obtain ⟨hnext, haround, hnode⟩ := f.attempt_keeps a
    obtain ⟨hnext', haround', hnode'⟩ := ih (f.attempt a)
    exact ⟨hnext'.trans hnext, haround'.trans haround, hnode'.trans hnode⟩

theorem outward?_congr (h : g.around? = f.around?) : g.outward? = f.outward? := by
  funext n
  induction n with
  | zero => rfl
  | succ n ih =>
    funext s
    rw [outward?, outward?, h, ih]

/-- The outcomes of an attempt: it fails if the name is empty, or if there has been one before it for
the same name and scope, and binds the name otherwise. -/
theorem Records.define_cases (h : f.Records history) (ha : a.scope < f.nextScope) :
    (a.name = "" ∧ f.define a.scope a.name a.symbol = .error .emptyName) ∨
    ((Attempt.first? history a.scope a.name).isSome = true ∧
      ∃ m, f.define a.scope a.name a.symbol = .error (.redefinition m)) ∨
    (a.name ≠ "" ∧ Attempt.first? history a.scope a.name = none ∧
      f.define a.scope a.name a.symbol = .ok (f.modifyScope a.scope fun sc =>
        { sc with symbols := sc.symbols ++ [(a.name, a.symbol)] })) := by
  obtain ⟨sc, hsc⟩ : ∃ sc, f.scope? a.scope = some sc := ⟨_, Array.getElem?_eq_getElem ha⟩
  have hlookup := h a.scope sc hsc a.name
  unfold define
  dsimp only
  rw [hsc, Option.getD_some, contains_eq_isSome_lookup, hlookup]
  by_cases hempty : a.name = ""
  · exact .inl ⟨hempty, if_pos (by rw [hempty]; rfl)⟩
  · rw [if_neg (by simpa using hempty)]
    cases hfirst : Attempt.first? history a.scope a.name with
    | some x => exact .inr (.inl ⟨rfl, _, if_pos rfl⟩)
    | none => exact .inr (.inr ⟨hempty, rfl, if_neg Bool.false_ne_true⟩)

theorem Records.define_eq_emptyName_iff (h : f.Records history) (ha : a.scope < f.nextScope) :
    f.define a.scope a.name a.symbol = .error .emptyName ↔ a.name = "" := by
  rcases h.define_cases ha with ⟨hempty, hdefine⟩ | ⟨hsome, m, hdefine⟩ | ⟨hname, -, hdefine⟩
  · exact iff_of_true hdefine hempty
  · exact iff_of_false (fun h => nomatch hdefine.symm.trans h) (isSome_first?_iff.mp hsome).1
  · exact iff_of_false (fun h => nomatch hdefine.symm.trans h) hname

theorem Records.define_eq_redefinition_iff (h : f.Records history) (ha : a.scope < f.nextScope) :
    (∃ m, f.define a.scope a.name a.symbol = .error (.redefinition m)) ↔
      a.name ≠ "" ∧ ∃ b ∈ history, b.scope = a.scope ∧ b.name = a.name := by
  rw [← isSome_first?_iff]
  rcases h.define_cases ha with ⟨hempty, hdefine⟩ | ⟨hsome, m, hdefine⟩ | ⟨-, hnone, hdefine⟩
  · refine iff_of_false (fun ⟨m, h⟩ => nomatch hdefine.symm.trans h) fun hsome => ?_
    exact (isSome_first?_iff.mp hsome).1 hempty
  · exact iff_of_true ⟨m, hdefine⟩ hsome
  · refine iff_of_false (fun ⟨m, h⟩ => nomatch hdefine.symm.trans h) fun hsome => ?_
    rw [hnone] at hsome
    exact nomatch hsome

/-- An attempt that fails leaves all scopes as they are, and is not the first for its name. -/
theorem Records.attempt (h : f.Records history) (ha : a.scope < f.nextScope) :
    (f.attempt a).Records (history ++ [a]) := by
  intro s sc hsc name
  rw [first?_append, first?_singleton]
  rcases h.define_cases ha with ⟨hempty, hdefine⟩ | ⟨hsome, m, hdefine⟩ | ⟨hname, hnone, hdefine⟩
  · rw [Forest.attempt, hdefine] at hsc
    rw [h s sc hsc name, if_neg fun hfirst => hfirst.1 hempty, Option.or_none]
  · rw [Forest.attempt, hdefine] at hsc
    rw [h s sc hsc name]
    split
    · next htarget =>
      obtain ⟨-, rfl, rfl⟩ := htarget
      rw [Option.or_of_isSome hsome]
    · rw [Option.or_none]
  · rw [Forest.attempt, hdefine, scope?_modifyScope] at hsc
    split at hsc
    · next heq =>
      obtain ⟨sc₀, hsc₀, rfl⟩ := Option.map_eq_some_iff.mp hsc
      rw [List.lookup_append, h s sc₀ hsc₀ name, List.lookup_cons, List.lookup_nil]
      congr 1
      by_cases htarget : a.name = name
      · simp [htarget, heq, htarget ▸ hname]
      · rw [beq_false_of_ne (Ne.symm htarget), if_neg fun hfirst => htarget hfirst.2.2]
    · next hne => rw [h s sc hsc name, if_neg fun hfirst => hne hfirst.2.1, Option.or_none]

/-- Where nothing is bound, nothing has been attempted. -/
theorem records_nil (hfresh : ∀ s sc, f.scope? s = some sc → sc.symbols = []) : f.Records [] := by
  intro s sc hsc name
  rw [hfresh s sc hsc, Attempt.first?]
  split <;> rfl

theorem Records.attemptAll {before after : List Attempt} (h : f.Records before)
    (hknown : ∀ a ∈ after, a.scope < f.nextScope) :
    (f.attemptAll after).Records (before ++ after) := by
  induction after generalizing f before with
  | nil => rwa [List.append_nil]
  | cons a after ih =>
    obtain ⟨ha, hafter⟩ := List.forall_mem_cons.mp hknown
    rw [← List.singleton_append, ← List.append_assoc]
    exact ih (h.attempt ha) fun b hb => by
      rw [(f.attempt_keeps a).1]
      exact hafter b hb

/-- What scopes bind is what has been attempted first. -/
theorem Records.symbol? (h : f.Records history) (hknown : ∀ a ∈ history, a.scope < f.nextScope)
    (s : ScopeId) (name : String) : f.symbol? s name = Attempt.first? history s name := by
  rw [Forest.symbol?]
  cases hsc : f.scope? s with
  | some sc => exact h s sc hsc name
  | none =>
    symm
    by_contra hsome
    obtain ⟨-, a, ha, rfl, -⟩ := isSome_first?_iff.mp (Option.isSome_iff_ne_none.mpr hsome)
    exact absurd (hknown a ha) (Nat.not_lt_of_le (Array.getElem?_eq_none_iff.mp hsc))

/-- Where scopes bind nothing at first, a name is bound by the first attempt with it only, and all
others fail and change nothing; in the end a name is found in the nearest scope outwards with an
attempt to bind it, and nowhere inside or beside the scope where it is looked up. -/
theorem find_attemptAll (hnested : f.NestedScopes)
    (hfresh : ∀ s sc, f.scope? s = some sc → sc.symbols = []) {history : List Attempt}
    (hknown : ∀ a ∈ history, a.scope < f.nextScope) :
    (∀ before a after, history = before ++ a :: after →
      let g := f.attemptAll before
      (g.define a.scope a.name a.symbol = .error .emptyName ↔ a.name = "") ∧
      ((∃ m, g.define a.scope a.name a.symbol = .error (.redefinition m)) ↔
        a.name ≠ "" ∧ ∃ b ∈ before, b.scope = a.scope ∧ b.name = a.name) ∧
      (∀ p, g.define a.scope a.name a.symbol = .error p → f.attemptAll (before ++ [a]) = g)) ∧
    ∀ s name,
      (∀ t x, (f.attemptAll history).find s name = .ok ⟨t, x⟩ ↔
        f.Nearest (Attempt.first? history · name) s t x) ∧
      ((f.attemptAll history).find s name =
          .error (.missing (f.scopeNode? s) (.notDefined name)) ↔
        ∀ k t, f.outward? k s = some t → Attempt.first? history t name = none) ∧
      ∀ t x, (f.attemptAll history).find s name = .ok ⟨t, x⟩ →
        (∀ k, f.outward? (k + 1) t ≠ some s) ∧
          ∀ u, f.around? t = some u → f.around? s = some u → t = s := by
  have hrecords := records_nil hfresh
  constructor
  · rintro before a after rfl
    obtain ⟨hbefore, hafter⟩ := List.forall_mem_append.mp hknown
    have ha := (List.forall_mem_cons.mp hafter).1
    have hat : a.scope < (f.attemptAll before).nextScope := by
      rwa [(f.attemptAll_keeps before).1]
    have h := hrecords.attemptAll hbefore
    rw [List.nil_append] at h
    refine ⟨h.define_eq_emptyName_iff hat, h.define_eq_redefinition_iff hat, fun p hp => ?_⟩
    rw [attemptAll, List.foldl_append, List.foldl_cons, List.foldl_nil, ← attemptAll, attempt, hp]
  · obtain ⟨hnext, haround, hnode⟩ := f.attemptAll_keeps history
    have houtward := outward?_congr haround
    have hnested' : (f.attemptAll history).NestedScopes := by
      unfold NestedScopes
      rwa [houtward]
    have hsymbol := fun t name =>
      (hrecords.attemptAll hknown).symbol? (fun a ha => hnext ▸ hknown a ha) t name
    intro s name
    have hfind : ∀ t x, (f.attemptAll history).find s name = .ok ⟨t, x⟩ ↔
        f.Nearest (Attempt.first? history · name) s t x := by
      intro t x
      rw [hnested'.find_eq_ok_iff]
      unfold Nearest
      simp only [houtward, hsymbol, List.nil_append]
    refine ⟨hfind, ?_, fun t x h => hnested.outside ((hfind t x).mp h)⟩
    rw [← hnode, hnested'.find_eq_error_iff, houtward]
    simp only [hsymbol, List.nil_append]

section Example

/-- Two scopes side by side in a third one. -/
def twoScopes : Forest :=
  ((((({} : Forest).addScope {}).addScope {}).addScope {}).pushScope 0 1).pushScope 0 2

theorem twoScopes_nestedScopes : twoScopes.NestedScopes := by
  have hall : ∀ s < 3, (twoScopes.around? s).all (· < s) = true := by decide
  refine nestedScopes_of_lt fun s t h => ?_
  have hlt := hall s (lt_nextScope_of_around? h)
  rw [h] at hlt
  exact of_decide_eq_true hlt

theorem twoScopes_fresh (s : ScopeId) (sc : Scope) (h : twoScopes.scope? s = some sc) :
    sc.symbols = [] := by
  have hall : ∀ sc ∈ twoScopes.scopes.toList, sc.symbols.isEmpty = true := by decide
  exact List.isEmpty_iff.mp (hall sc (Array.mem_of_getElem? h).val)

/-- An inner scope does not see what the one beside it binds, nor what the outer one binds later. -/
theorem find_twoScopes :
    (twoScopes.attemptAll [⟨1, "a", 5⟩, ⟨0, "a", 6⟩, ⟨2, "", 7⟩, ⟨0, "a", 8⟩]).find 2 "a" =
      .ok ⟨0, 6⟩ := by
  have hfind := (@find_attemptAll twoScopes twoScopes_nestedScopes twoScopes_fresh
    [⟨1, "a", 5⟩, ⟨0, "a", 6⟩, ⟨2, "", 7⟩, ⟨0, "a", 8⟩] (by decide)).2 2 "a"
  refine (hfind.1 0 6).mpr ⟨1, by decide, by decide, fun j hj u hu => ?_⟩
  obtain rfl := Nat.lt_one_iff.mp hj
  obtain rfl := Option.some.inj hu
  decide

end Example

end Forest
end Wdl
