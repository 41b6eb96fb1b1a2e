import Mathlib.Data.Fintype.Card
import Wdl.Builder.Events
import Wdl.Proofs.Document.Forest
import Wdl.Scope.Resolve

/-!
Resolution that does not come to an end.

A dotted name is resolved by following the calls in it, and what a call calls is a dotted name
again. `Following` is a run of calls, each of which is followed to resolve what the one before it
calls. A resolution ends if and only if these runs do, `findDotted_eq_endless_iff`, and calls that
are followed only into calls of a lower rank cannot run on, `resolve_ends`.  But nothing keeps a
call from being followed to resolve what it calls itself, and then no resolution through it ends.

Whatever `findDotted` answers it answers with more calls too, `findDotted_mono`.  A run of calls
that has to end gets shorter with every call that is followed, so no call is followed twice in it,
`Deep.unique`, as long as what a call calls is resolved from the same scope wherever the call is
bound.  There, as many calls as there are nodes are enough: `resolve` gives every answer that there
is, `resolve_eq_findDotted`, and none only if there is none, `resolve_eq_endless_iff_forall`.
-/

namespace Wdl
namespace Forest

variable (f : Forest) (documents : Documents)

/-- To look up further parts of a name, from the binding of the parts before, the inner scope of `c`
is needed. -/
inductive Passes (member : Binding → Except Unresolved (Option ScopeId)) :
    Binding → List String → Binding → Prop
  | here {b : Binding} {part : String} {parts : List String} : Passes member b (part :: parts) b
  | there {b c : Binding} {part : String} {parts : List String} {s : ScopeId} {id : NodeId} :
    member b = .ok (some s) → f.symbol? s part = some id → Passes member ⟨s, id⟩ parts c →
    Passes member b (part :: parts) c

/-- To resolve a dotted name in a scope, with at most `n` calls followed into one another, the call
`call` that `c` binds is followed. -/
def Follows (n : Nat) (s : ScopeId) (parts : List String) (c : Binding) (call : CallBody) : Prop :=
  ∃ first rest b, parts = first :: rest ∧ first.isEmpty = false ∧ f.find s first = .ok b ∧
    f.Passes (f.memberScope documents (f.findDotted documents n)) b rest c ∧
    f.body? c.symbol = some (.call call)

/-- A run of `n` calls, the first of which is followed to resolve a name, and each other to resolve
what the one before it calls. -/
inductive Following : Nat → ScopeId → List String → Prop
  | done {s : ScopeId} {parts : List String} : Following 0 s parts
  | step {n : Nat} {s : ScopeId} {parts : List String} {c : Binding} {call : CallBody} :
    f.Follows documents n s parts c call →
    Following n (f.root c.scope) (Text.splitOn '.' call.target) → Following (n + 1) s parts

/-! ## One step -/

theorem descend_eq_endless_iff {member : Binding → Except Unresolved (Option ScopeId)}
    (done : List String) (b : Binding) (parts : List String) :
    f.descend member done b parts = .error .endless ↔
      ∃ c, f.Passes member b parts c ∧ member c = .error .endless := by
  induction parts generalizing done b with
  | nil =>
    refine iff_of_false (fun h => nomatch h) ?_
    rintro ⟨c, hpasses, -⟩
    exact nomatch hpasses
  | cons part parts ih =>
    cases hmember : member b with
    | error e =>
      have hdescend : f.descend member done b (part :: parts) = .error e := by
        rw [descend, hmember]
        rfl
      rw [hdescend]
      constructor
      · intro h
        exact ⟨b, .here, hmember.trans (congrArg _ (Except.error.inj h))⟩
      · rintro ⟨c, hpasses, hc⟩
        cases hpasses with
        | here => exact congrArg _ (Except.error.inj (hmember.symm.trans hc))
        | there hok => exact nomatch hmember.symm.trans hok
    | ok inner =>
      cases hnext : inner.bind fun s => (f.symbol? s part).map fun id => Binding.mk s id with
      | none =>
        have hdescend : f.descend member done b (part :: parts) =
            .error (.missing (some b.symbol)
              (.notDefined (".".intercalate (done ++ [part])))) := by
          rw [descend, hmember]
          simp only [bind, Except.bind, hnext]
        rw [hdescend]
        refine iff_of_false (fun h => nomatch h) ?_
        rintro ⟨c, hpasses, hc⟩
        cases hpasses with
        | here => exact nomatch hmember.symm.trans hc
        | there hok hsymbol _ =>
          obtain rfl := Except.ok.inj (hmember.symm.trans hok)
          rw [Option.bind_some, hsymbol] at hnext
          exact nomatch hnext
      | some next =>
        have hdescend : f.descend member done b (part :: parts) =
            f.descend member (done ++ [part]) next parts := by
          rw [descend, hmember]
          simp only [bind, Except.bind, hnext]
        rw [hdescend, ih]
        obtain ⟨s, rfl, hs⟩ := Option.bind_eq_some_iff.mp hnext
        obtain ⟨id, hid, rfl⟩ := Option.map_eq_some_iff.mp hs
        refine exists_congr fun c => and_congr_left fun hc => ⟨.there hmember hid, ?_⟩
        intro hpasses
        cases hpasses with
        | here => exact nomatch hmember.symm.trans hc
        | there hok hsymbol hrest =>
          obtain rfl := Option.some.inj (Except.ok.inj (hmember.symm.trans hok))
          obtain rfl := Option.some.inj (hid.symm.trans hsymbol)
          exact hrest

/-- Only a call can keep the scope that belongs to a node from being found. -/
theorem memberScope_eq_endless_iff (resolve : ScopeId → List String → Except Unresolved Binding)
    (c : Binding) :
    f.memberScope documents resolve c = .error .endless ↔ ∃ call,
      f.body? c.symbol = some (.call call) ∧
        resolve (f.root c.scope) (Text.splitOn '.' call.target) = .error .endless := by
  unfold memberScope
  cases hbody : f.body? c.symbol with
  | none => exact iff_of_false (fun h => nomatch h) fun ⟨_, h, _⟩ => nomatch h
  | some body =>
    cases body with
    | call call =>
      have hcall : (∃ call', some (Body.call call) = some (.call call') ∧
          resolve (f.root c.scope) (Text.splitOn '.' call'.target) = .error .endless) ↔
          resolve (f.root c.scope) (Text.splitOn '.' call.target) = .error .endless := by
        constructor
        · rintro ⟨call', heq, h⟩
          obtain rfl := Body.call.inj (Option.some.inj heq)
          exact h
        · exact fun h => ⟨call, rfl, h⟩
      rw [hcall]
      dsimp only
      cases resolve (f.root c.scope) (Text.splitOn '.' call.target) with
      | ok callee =>
        refine iff_of_false ?_ fun h => nomatch h
        dsimp only
        split <;> exact fun h => nomatch h
      | error e => cases e <;> simp
    | _ => exact iff_of_false (fun h => nomatch h) fun ⟨_, h, _⟩ => nomatch h

/-- A single name always has an answer. -/
theorem find_ne_endless (s : ScopeId) (name : String) : f.find s name ≠ .error .endless := by
  unfold find
  dsimp only
  split <;> exact fun h => nomatch h

/-- A resolution that may follow more calls has not ended if that of what some call calls has
not. -/
theorem findDotted_succ_eq_endless_iff (n : Nat) (s : ScopeId) (parts : List String) :
    f.findDotted documents (n + 1) s parts = .error .endless ↔ ∃ c call,
      f.Follows documents n s parts c call ∧
        f.findDotted documents n (f.root c.scope) (Text.splitOn '.' call.target) =
          .error .endless := by
  cases parts with
  | nil => exact iff_of_false (fun h => nomatch h) fun ⟨_, _, ⟨_, _, _, h, _⟩, _⟩ => nomatch h
  | cons first rest =>
    have hstep : f.findDotted documents (n + 1) s (first :: rest) =
        if first.isEmpty then
          .error (.missing (f.scopeNode? s) (.unknownIdentifier (".".intercalate (first :: rest))))
        else (f.find s first).bind fun b =>
          f.descend (f.memberScope documents (f.findDotted documents n)) [first] b rest := rfl
    rw [hstep]
    cases hempty : first.isEmpty with
    | true =>
      refine iff_of_false (fun h => nomatch h) ?_
      rintro ⟨c, call, ⟨first', rest', b, heq, hne, -⟩, -⟩
      obtain ⟨rfl, -⟩ := List.cons.inj heq
      exact nomatch hempty.symm.trans hne
    | false =>
      rw [if_neg Bool.false_ne_true]
      cases hfind : f.find s first with
      | error e =>
        refine iff_of_false (fun h => ?_) ?_
        · obtain rfl := Except.error.inj h
          exact f.find_ne_endless s first hfind
        · rintro ⟨c, call, ⟨first', rest', b, heq, -, hb, -⟩, -⟩
          obtain ⟨rfl, -⟩ := List.cons.inj heq
          exact nomatch hfind.symm.trans hb
      | ok b =>
        rw [Except.bind, descend_eq_endless_iff]
        constructor
        · rintro ⟨c, hpasses, hc⟩
          obtain ⟨call, hcall, h⟩ := (f.memberScope_eq_endless_iff documents _ c).mp hc
          exact ⟨c, call, ⟨first, rest, b, rfl, hempty, hfind, hpasses, hcall⟩, h⟩
        · rintro ⟨c, call, ⟨first', rest', b', heq, -, hb, hpasses, hcall⟩, h⟩
          obtain ⟨rfl, rfl⟩ := List.cons.inj heq
          obtain rfl := Except.ok.inj (hfind.symm.trans hb)
          exact ⟨c, hpasses, (f.memberScope_eq_endless_iff documents _ c).mpr ⟨call, hcall, h⟩⟩

/-! ## Runs -/

/-- A resolution has not ended after following `n` calls into one another if there is a run of that
many, and in no other case. -/
theorem findDotted_eq_endless_iff (n : Nat) (s : ScopeId) (parts : List String) :
    f.findDotted documents n s parts = .error .endless ↔ f.Following documents n s parts := by
  induction n generalizing s parts with
  | zero => exact iff_of_true rfl .done
  | succ n ih =>
    rw [findDotted_succ_eq_endless_iff]
    constructor
    · rintro ⟨c, call, hfollows, h⟩
      exact .step hfollows ((ih _ _).mp h)
    · intro h
      cases h with
      | step hfollows h => exact ⟨_, _, hfollows, (ih _ _).mpr h⟩

/-- A name has an answer, a binding or none, unless its resolution follows more calls into one
another than there are nodes. -/
theorem resolve_eq_endless_iff (s : ScopeId) (parts : List String) :
    f.resolve documents s parts = .error .endless ↔
      f.Following documents (f.nodes.size + 1) s parts :=
  f.findDotted_eq_endless_iff documents _ s parts

/-- Calls that are followed only into calls of lower rank do not run on. -/
theorem not_following_of_rank {rank : NodeId → Nat}
    (hrank : ∀ (n : Nat) (c : Binding) (call : CallBody) (c' : Binding) (call' : CallBody),
      f.body? c.symbol = some (.call call) → f.Follows documents n (f.root c.scope)
        (Text.splitOn '.' call.target) c' call' → rank c'.symbol < rank c.symbol)
    (n : Nat) (s : ScopeId) (parts : List String)
    (hfirst : ∀ (m : Nat) (c : Binding) (call : CallBody),
      f.Follows documents m s parts c call → rank c.symbol < n) :
    ¬ f.Following documents (n + 1) s parts := by
  induction n generalizing s parts with
  | zero =>
    intro h
    cases h with
    | step hfollows _ => exact absurd (hfirst _ _ _ hfollows) (Nat.not_lt_zero _)
  | succ n ih =>
    intro h
    cases h with
    | @step _ _ _ c call hfollows h =>
      replace hfirst := hfirst _ _ _ hfollows
      obtain ⟨-, -, -, -, -, -, -, hcall⟩ := hfollows
      refine ih _ _ (fun m c' call' h' => ?_) h
      exact Nat.lt_of_lt_of_le (hrank m c call c' call' hcall h') (Nat.le_of_lt_succ hfirst)

/-- Every resolution ends if calls are followed only into calls of lower rank, and no rank is
greater than the number of nodes. -/
theorem resolve_ends {rank : NodeId → Nat}
    (hrank : ∀ (n : Nat) (c : Binding) (call : CallBody) (c' : Binding) (call' : CallBody),
      f.body? c.symbol = some (.call call) → f.Follows documents n (f.root c.scope)
        (Text.splitOn '.' call.target) c' call' → rank c'.symbol < rank c.symbol)
    (hbound : ∀ id, rank id < f.nodes.size) (s : ScopeId) (parts : List String) :
    f.resolve documents s parts ≠ .error .endless := by
  rw [resolve, ne_eq, findDotted_eq_endless_iff]
  exact f.not_following_of_rank documents hrank _ s parts fun _ c _ _ => hbound c.symbol

/-- Where nothing is called every resolution ends. -/
theorem resolve_ends_of_no_calls (h : ∀ id call, f.body? id ≠ some (.call call)) (s : ScopeId)
    (parts : List String) : f.resolve documents s parts ≠ .error .endless := by
  rw [resolve, ne_eq, findDotted_succ_eq_endless_iff]
  rintro ⟨c, call, ⟨-, -, -, -, -, -, -, hcall⟩, -⟩
  exact h c.symbol call hcall

/-- A call that is followed to resolve what it calls itself runs on for ever. -/
theorem following_of_self {c : Binding} {call : CallBody}
    (hself : ∀ n, f.Follows documents n (f.root c.scope) (Text.splitOn '.' call.target) c call)
    (n : Nat) :
    f.Following documents n (f.root c.scope) (Text.splitOn '.' call.target) := by
  induction n with
  | zero => exact .done
  | succ n ih => exact .step (hself n) ih

end Forest

/-! ## More calls -/

namespace Forest

variable {f : Forest} {documents : Documents} {s : ScopeId} {parts : List String} {n m : Nat}

/-- A member that is found by way of a resolution is found by way of one that answers more. -/
theorem memberScope_mono {resolve resolve' : ScopeId → List String → Except Unresolved Binding}
    (h : ∀ s parts, resolve s parts ≠ .error .endless → resolve' s parts = resolve s parts)
    {b : Binding} (hb : f.memberScope documents resolve b ≠ .error .endless) :
    f.memberScope documents resolve' b = f.memberScope documents resolve b := by
  cases hbody : f.body? b.symbol with
  | none => simp only [memberScope, hbody]
  | some body =>
    cases body with
    | call call =>
      have hcall : resolve (f.root b.scope) (Text.splitOn '.' call.target) ≠ .error .endless :=
        fun hendless => hb ((f.memberScope_eq_endless_iff documents resolve b).mpr
          ⟨call, hbody, hendless⟩)
      simp only [memberScope, hbody, h _ _ hcall]
    | _ => simp only [memberScope, hbody]

theorem descend_mono {member member' : Binding → Except Unresolved (Option ScopeId)}
    (h : ∀ b, member b ≠ .error .endless → member' b = member b) {done : List String} {b : Binding}
    (hb : f.descend member done b parts ≠ .error .endless) :
    f.descend member' done b parts = f.descend member done b parts := by
  induction parts generalizing done b with
  | nil => rfl
  | cons part parts ih =>
    have hmember : member b ≠ .error .endless := fun hendless =>
      hb ((f.descend_eq_endless_iff done b _).mpr ⟨b, .here, hendless⟩)
    rw [descend] at hb ⊢
    rw [h b hmember, descend]
    cases hinner : member b with
    | error e => rfl
    | ok inner =>
      rw [hinner] at hb
      simp only [bind, Except.bind] at hb ⊢
      split
      · next next hnext =>
        rw [hnext] at hb
        exact ih hb
      · rfl

theorem findDotted_succ (h : f.findDotted documents n s parts ≠ .error .endless) :
    f.findDotted documents (n + 1) s parts = f.findDotted documents n s parts := by
  induction n generalizing s parts with
  | zero => exact absurd rfl h
  | succ n ih =>
    cases parts with
    | nil => rfl
    | cons first rest =>
      rw [findDotted] at h ⊢
      rw [findDotted]
      split
      · rfl
      · next hfirst =>
        rw [if_neg hfirst] at h
        cases hfind : f.find s first with
        | error e => rfl
        | ok b =>
          rw [hfind] at h
          exact descend_mono (fun c hc => memberScope_mono (fun _ _ => ih) hc) h

/-- Whoever may follow more calls gives the same answers. -/
theorem findDotted_mono (hle : n ≤ m) (h : f.findDotted documents n s parts ≠ .error .endless) :
    f.findDotted documents m s parts = f.findDotted documents n s parts := by
  induction m, hle using Nat.le_induction with
  | base => rfl
  | succ m _ ih => exact (findDotted_succ (ih ▸ h)).trans ih

/-- A part of a run is a run. -/
theorem Following.mono (h : f.Following documents n s parts) (hle : m ≤ n) :
    f.Following documents m s parts := by
  rw [← findDotted_eq_endless_iff] at h ⊢
  by_contra hne
  exact hne ((findDotted_mono hle hne).symm.trans h)

theorem Passes.mono {member member' : Binding → Except Unresolved (Option ScopeId)}
    (h : ∀ b s, member b = .ok (some s) → member' b = .ok (some s)) {b c : Binding}
    (hpasses : f.Passes member b parts c) : f.Passes member' b parts c := by
  induction hpasses with
  | here => exact .here
  | there hmember hsymbol _ ih => exact .there (h _ _ hmember) hsymbol ih

/-- A call that is followed is followed by whoever may follow more calls. -/
theorem Follows.succ {c : Binding} {call : CallBody} (h : f.Follows documents n s parts c call) :
    f.Follows documents (n + 1) s parts c call := by
  obtain ⟨first, rest, b, hparts, hfirst, hfind, hpasses, hcall⟩ := h
  refine ⟨first, rest, b, hparts, hfirst, hfind, hpasses.mono fun b s hmember => ?_, hcall⟩
  rw [memberScope_mono (fun _ _ => findDotted_succ) (by rw [hmember]; exact nofun), hmember]

/-! ## Runs that end -/

/-- The scope of a binding binds its symbol. -/
def Stands (f : Forest) (b : Binding) : Prop :=
  ∃ name, f.symbol? b.scope name = some b.symbol

/-- All scopes that bind a call have the same outermost scope around them. -/
def OneRoot (f : Forest) : Prop :=
  ∀ c c' call, f.Stands c → f.Stands c' → c.symbol = c'.symbol →
    f.body? c.symbol = some (.call call) → f.root c.scope = f.root c'.scope

theorem stands_of_find {name : String} {b : Binding} (h : f.find s name = .ok b) : f.Stands b := by
  unfold find at h
  dsimp only at h
  split at h
  · next hfound =>
    obtain ⟨t, -, hsome⟩ := List.exists_of_findSome?_eq_some hfound
    obtain ⟨id, hid, rfl⟩ := Option.map_eq_some_iff.mp hsome
    obtain rfl := Except.ok.inj h
    exact ⟨name, hid⟩
  · exact nomatch h

theorem Passes.stands {member : Binding → Except Unresolved (Option ScopeId)} {b c : Binding}
    (h : f.Passes member b parts c) (hb : f.Stands b) : f.Stands c := by
  induction h with
  | here => exact hb
  | there _ hsymbol _ ih => exact ih ⟨_, hsymbol⟩

/-- To resolve what the call `id` calls, runs of `n` calls are followed and none longer. -/
def Deep (f : Forest) (documents : Documents) (n : Nat) (id : NodeId) : Prop :=
  ∃ c call, f.Stands c ∧ c.symbol = id ∧ f.body? c.symbol = some (.call call) ∧
    f.Following documents n (f.root c.scope) (Text.splitOn '.' call.target) ∧
    ¬ f.Following documents (n + 1) (f.root c.scope) (Text.splitOn '.' call.target)

theorem Deep.lt {id : NodeId} (h : f.Deep documents n id) : id < f.nextNode := by
  obtain ⟨c, call, -, rfl, hcall, -⟩ := h
  obtain ⟨x, hx, -⟩ := Option.map_eq_some_iff.mp hcall
  exact f.lt_of_node? hx

theorem Deep.le {id : NodeId} (hroot : f.OneRoot) (h : f.Deep documents n id)
    (h' : f.Deep documents m id) : n ≤ m := by
  obtain ⟨c, call, hc, rfl, hcall, hfollowing, -⟩ := h
  obtain ⟨c', call', hc', hsymbol, hcall', -, hend⟩ := h'
  rw [hsymbol] at hcall'
  obtain rfl := Body.call.inj (Option.some.inj (hcall.symm.trans hcall'))
  rw [← hroot c c' call hc hc' hsymbol.symm hcall] at hend
  by_contra hlt
  exact hend (hfollowing.mono (Nat.lt_of_not_le hlt))

/-- How long the runs from a call are depends on the call alone. -/
theorem Deep.unique {id : NodeId} (hroot : f.OneRoot) (h : f.Deep documents n id)
    (h' : f.Deep documents m id) : n = m :=
  Nat.le_antisymm (h.le hroot h') (h'.le hroot h)

/-- The longest runs pass calls from which all shorter runs are longest. -/
theorem exists_deep (h : f.Following documents n s parts)
    (hend : ¬ f.Following documents (n + 1) s parts) : ∀ j < n, ∃ id, f.Deep documents j id := by
  induction n generalizing s parts with
  | zero => exact fun j hj => absurd hj (Nat.not_lt_zero j)
  | succ n ih =>
    cases h with
    | @step _ _ _ c call hfollows hrest =>
      have hrestEnd : ¬ f.Following documents (n + 1) (f.root c.scope)
          (Text.splitOn '.' call.target) := fun hlong => hend (.step hfollows.succ hlong)
      intro j hj
      rcases Nat.lt_succ_iff_lt_or_eq.mp hj with hlt | rfl
      · exact ih hrest hrestEnd j hlt
      · obtain ⟨_, _, b, -, -, hfind, hpasses, hcall⟩ := hfollows
        exact ⟨c.symbol, c, call, hpasses.stands (stands_of_find hfind), rfl, hcall, hrest,
          hrestEnd⟩

/-- The longest runs are no longer than there are nodes. -/
theorem Following.le_nextNode (hroot : f.OneRoot) (h : f.Following documents n s parts)
    (hend : ¬ f.Following documents (n + 1) s parts) : n ≤ f.nextNode := by
  have hdeep : ∀ j : Fin n, ∃ id, f.Deep documents j id := fun j => exists_deep h hend j j.isLt
  choose call hcall using hdeep
  have hinjective : Function.Injective fun j => (⟨call j, (hcall j).lt⟩ : Fin f.nextNode) := by
    intro i j heq
    have hsame : call i = call j := congrArg Fin.val heq
    exact Fin.ext ((hcall i).unique hroot (hsame ▸ hcall j))
  have hcard := Fintype.card_le_of_injective _ hinjective
  rwa [Fintype.card_fin, Fintype.card_fin] at hcard

/-- A run of more calls than there are nodes goes on. -/
theorem Following.forall (hroot : f.OneRoot) (h : f.Following documents (f.nextNode + 1) s parts)
    (n : Nat) : f.Following documents n s parts := by
  induction n with
  | zero => exact .done
  | succ n ih =>
    by_contra hend
    exact hend (h.mono (Nat.succ_le_succ (ih.le_nextNode hroot hend)))

/-! ## Enough calls -/

/-- A resolution is endless if it has no answer however many calls it may follow. -/
theorem resolve_eq_endless_iff_forall (hroot : f.OneRoot) :
    f.resolve documents s parts = .error .endless ↔
      ∀ n, f.findDotted documents n s parts = .error .endless := by
  refine ⟨fun h n => ?_, fun h => h _⟩
  rw [findDotted_eq_endless_iff]
  exact Following.forall hroot ((f.findDotted_eq_endless_iff documents _ s parts).mp h) n

/-- A resolution has the answer that it has with any number of calls. -/
theorem resolve_eq_findDotted (hroot : f.OneRoot)
    (h : f.findDotted documents n s parts ≠ .error .endless) :
    f.resolve documents s parts = f.findDotted documents n s parts := by
  rcases Nat.le_total n (f.nextNode + 1) with hle | hle
  · exact findDotted_mono hle h
  · refine (findDotted_mono hle fun hendless => h ?_).symm
    exact (resolve_eq_endless_iff_forall hroot).mp hendless n

end Forest

/-! ## A call of a part of itself -/

section Example

/-- A token of the example, on a line of its own. -/
def loopToken (terminal : Terminal) (text : String) (offset : Nat) : Token :=
  ⟨terminal, text, ⟨offset, 1, offset + 1⟩,
    ⟨offset + text.length, 1, offset + text.length + 1⟩⟩

def loopExtent (start stop : Nat) : Option Extent :=
  some ⟨⟨start, 1, start + 1⟩, ⟨stop, 1, stop + 1⟩⟩

/-- The parse tree of `version 1.1 workflow w {call w.c.x as c}`. -/
def loopTree : Tree :=
  .node .document (loopExtent 0 41)
    [.node .version (loopExtent 0 11) [.token (loopToken .versionNumber "1.1" 8)],
      .node .workflow (loopExtent 12 41)
        [.token (loopToken .name "w" 21),
          .node .call (loopExtent 24 40)
            [.node .callTarget (loopExtent 29 34)
              [.token (loopToken .name "w" 29), .token (loopToken .name "c" 31),
                .token (loopToken .name "x" 33)],
              .node .callAlias (loopExtent 35 39) [.token (loopToken .name "c" 38)]]]]

/-- The document of the tree. -/
def loopForest : Forest :=
  (Builder.walk [] loopTree (Builder.start {} "" 41 ⟨"", ""⟩ [] [] [])).finish.forest

/-- What a call calls, as written. -/
def Forest.target? (f : Forest) (id : NodeId) : Option String :=
  match f.body? id with
  | some (.call call) => some call.target
  | _ => none

theorem Forest.call_of_target? {f : Forest} {id : NodeId} {target : String}
    (h : f.target? id = some target) :
    ∃ call, f.body? id = some (.call call) ∧ call.target = target := by
  unfold target? at h
  split at h
  · next call hcall => exact ⟨call, hcall, Option.some.inj h⟩
  · exact nomatch h

/-- The call is followed to resolve what it calls. -/
theorem loopForest_follows {call : CallBody} (hcall : loopForest.body? 2 = some (.call call))
    (n : Nat) : loopForest.Follows [] n 0 ["w", "c", "x"] ⟨1, 2⟩ call := by
  have hfind : loopForest.find 0 "w" = .ok ⟨0, 1⟩ := by
    have hsymbol : (loopForest.enclosing 0).findSome? (fun t =>
        (loopForest.symbol? t "w").map fun id => Binding.mk t id) = some ⟨0, 1⟩ := by
      decide +kernel
    rw [Forest.find, hsymbol]
  have hscope : (loopForest.body? 1).bind Body.scope? = some 1 := by decide +kernel
  have hkind : (loopForest.body? 1).map Body.kind = some .workflow := by decide +kernel
  have hworkflow : loopForest.memberScope [] (loopForest.findDotted [] n) ⟨0, 1⟩ = .ok (some 1) := by
    unfold Forest.memberScope
    dsimp only
    split <;> simp_all [Body.kind]
  exact ⟨"w", ["c", "x"], ⟨0, 1⟩, rfl, by decide +kernel, hfind,
    .there hworkflow (by decide +kernel) .here, hcall⟩

/-- Resolving what the call calls does not end, though nothing in the document is wrong. -/
theorem loopForest_endless :
    (Builder.walk [] loopTree (Builder.start {} "" 41 ⟨"", ""⟩ [] [] [])).problems.isEmpty = true ∧
      ∀ n, loopForest.findDotted [] n 0 ["w", "c", "x"] = .error .endless := by
  refine ⟨by decide +kernel, fun n => ?_⟩
  have htarget : loopForest.target? 2 = some "w.c.x" := by decide +kernel
  obtain ⟨call, hcall, heq⟩ := Forest.call_of_target? htarget
  have hparts : Text.splitOn '.' call.target = ["w", "c", "x"] := by
    rw [heq]
    decide +kernel
  have hroot : loopForest.root 1 = 0 := by decide +kernel
  have hself : ∀ n, loopForest.Follows [] n (loopForest.root 1) (Text.splitOn '.' call.target)
      ⟨1, 2⟩ call := by
    rw [hroot, hparts]
    exact loopForest_follows hcall
  have hfollowing := Forest.following_of_self loopForest [] (c := ⟨1, 2⟩) hself n
  rw [Forest.findDotted_eq_endless_iff]
  rwa [hroot, hparts] at hfollowing

end Example

end Wdl
