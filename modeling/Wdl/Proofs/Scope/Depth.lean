import Mathlib.Data.Set.Card
import Wdl.Proofs.Scope.Process

/-!
The limit on the declarations that wait.

A greater limit changes nothing but the outcome of evaluations that exceed the smaller one.  The
declarations that wait are distinct, and the evaluation has reached them all, so a limit that is not
below the number of declarations that can be reached is never exceeded.  Then an evaluation that
would run on without any checks has come back to a declaration that waits, and says so.
-/

namespace Wdl

/-- The limit has been exceeded. -/
def Cause.IsTooDeep (c : Cause) : Prop :=
  ∃ name, c = .failure (.eval ("declarations nested too deeply evaluating " ++ name))

/-- A declaration needs its own value. -/
def Cause.IsCircular (c : Cause) : Prop :=
  ∃ name, c = .failure (.circular name)

/-- The failures of the library are not about the declarations that wait. -/
theorem Cause.not_isTooDeep_of_isOfOperands {failure : Failure} (h : failure.isOfOperands = true) :
    ¬ (Cause.failure failure).IsTooDeep := by
  rintro ⟨name, heq⟩
  obtain rfl := Cause.failure.inj heq
  exact nomatch h

namespace Forest

variable {f : Forest} {inputs : Bindings} {scope : ScopeId} {d d' : Int}

/-! ## A greater limit -/

theorem refusal_mono (h : d ≤ d') (active : List NodeId) (symbol : NodeId) (name : String) :
    refusal d active symbol name = refusal d' active symbol name ∨
      refusal d active symbol name =
        some (.eval ("declarations nested too deeply evaluating " ++ name)) := by
  unfold refusal
  by_cases hactive : active.contains symbol = true
  · exact .inl (by rw [if_pos hactive, if_pos hactive])
  · rw [if_neg hactive, if_neg hactive]
    by_cases hdepth : d ≤ active.length
    · exact .inr (if_pos hdepth)
    · exact .inl (by rw [if_neg hdepth, if_neg (by omega)])

/-- A lookup within a limit has the same outcome within a greater one, unless it exceeds the
limit. -/
theorem lookupIn_mono (h : d ≤ d') (fuel : Nat) (active : List NodeId) (scope : ScopeId)
    (site : Option Site) (name : String) :
    SameUnless Cause.IsTooDeep (f.lookupIn inputs d fuel active scope site name)
      (f.lookupIn inputs d' fuel active scope site name) := by
  induction fuel generalizing active scope site name with
  | zero => exact .refl _
  | succ fuel ih =>
    rw [lookupIn_succ, lookupIn_succ]
    cases f.referent inputs scope name with
    | given v => exact .refl _
    | missing p => exact .refl _
    | endless => exact .refl _
    | declared b type e =>
      dsimp only
      obtain hsame | hdeep := refusal_mono h active b.symbol name
      · rw [hsame]
        cases refusal d' active b.symbol name with
        | some failure => exact .refl _
        | none =>
          refine SameUnless.bind ?_ fun v => .refl _
          exact e.evaluate_sameUnless fun n _ site => ih (b.symbol :: active) b.scope site n
      · rw [hdeep]
        exact .inr ⟨_, rfl, name, rfl⟩

/-! ## A limit that is never exceeded -/

/-- Distinct declarations, and one more, are at most as many as can be reached. -/
theorem length_lt_ncard {reached : Set NodeId} (hfinite : reached.Finite) {active : List NodeId}
    {symbol : NodeId} (hdistinct : (symbol :: active).Nodup)
    (hreached : ∀ id ∈ symbol :: active, id ∈ reached) : active.length < reached.ncard := by
  have hsub : ((symbol :: active).toFinset : Set NodeId) ⊆ reached := fun id hid =>
    hreached id (List.mem_toFinset.mp hid)
  have hcard := Set.ncard_le_ncard hsub hfinite
  rw [Set.ncard_coe_finset, List.toFinset_card_of_nodup hdistinct] at hcard
  exact hcard

theorem declaredValue_meets (name : String) (symbol : NodeId) (type : String) (v : Value) :
    Meets (fun _ => True) (fun c => ¬ c.IsTooDeep) (f.declaredValue name symbol type v) := by
  unfold declaredValue
  split
  · trivial
  · next t _ =>
    have hregular := v.coerce_regular t
    split
    · trivial
    · exact Cause.not_isTooDeep_of_isOfOperands rfl
    · next failure _ hcoerce => exact Cause.not_isTooDeep_of_isOfOperands (hregular _ hcoerce)

/-- An evaluation does not exceed the limit if its lookups do not. -/
theorem evaluate_not_tooDeep {lookup : Lookup} (e : Expr)
    (h : ∀ n ∈ e.names, ∀ site,
      Meets (fun _ => True) (fun c => ¬ c.IsTooDeep) (lookup site n)) :
    Meets (fun _ => True) (fun c => ¬ c.IsTooDeep) (e.evaluate lookup) := by
  refine e.evaluate_meets ?_ ?_ fun j hj => j.keeps_of_names ?_ fun n hn => ?_
  · rintro m ⟨name, heq⟩
    cases Cause.failure.inj heq
  · rintro name ⟨name', heq⟩
    cases heq
  · exact fun failure => Cause.not_isTooDeep_of_isOfOperands
  · subst hn
    rw [Expr.toItem, Item.parts, List.mem_cons] at hj
    exact h n (Expr.mem_names.mpr (hj.resolve_left Item.noConfusion))

/-- A lookup does not exceed a limit that is not below the number of declarations that can be
reached. -/
theorem lookupIn_not_tooDeep {reached : Set NodeId} (hfinite : reached.Finite)
    (hdepth : reached.ncard ≤ d) (fuel : Nat) {e : Expr} {name : String} (hname : name ∈ e.names)
    (hreached : f.reached inputs scope e ⊆ reached) {active : List NodeId}
    (hdistinct : active.Nodup) (hactive : ∀ id ∈ active, id ∈ reached) (site : Option Site) :
    Meets (fun _ => True) (fun c => ¬ c.IsTooDeep)
      (f.lookupIn inputs d fuel active scope site name) := by
  induction fuel generalizing scope e name active site with
  | zero =>
    rintro ⟨name', heq⟩
    exact nomatch Cause.failure.inj heq
  | succ fuel ih =>
    rw [lookupIn_succ]
    cases hreferent : f.referent inputs scope name with
    | given v => trivial
    | missing p =>
      rintro ⟨name', heq⟩
      exact nomatch heq
    | endless =>
      rintro ⟨name', heq⟩
      exact nomatch Cause.failure.inj heq
    | declared b type initializer =>
      have hsymbol : b.symbol ∈ reached := hreached (mem_reached hname hreferent)
      have hrest := (reached_subset hname hreferent).trans hreached
      have hwaiting := List.forall_mem_cons.mpr ⟨hsymbol, hactive⟩
      dsimp only
      by_cases hnew : b.symbol ∈ active
      · rw [refusal, if_pos (List.contains_iff_mem.mpr hnew)]
        rintro ⟨name', heq⟩
        exact nomatch Cause.failure.inj heq
      · have hcons := List.nodup_cons.mpr ⟨hnew, hdistinct⟩
        have hlength := length_lt_ncard hfinite hcons hwaiting
        rw [refusal_eq_none.mpr ⟨hnew, by omega⟩]
        refine Meets.bind (V := fun _ => True) ?_ fun v _ => declaredValue_meets ..
        exact evaluate_not_tooDeep initializer fun n hn site => ih hn hrest hcons hwaiting site

/-! ## Both -/

/-- Evaluation without any checks of the declarations that wait. -/
def unguarded : Guard := fun _ _ _ => none

theorem refusal_isTooDeep_or_isCircular {active : List NodeId} {symbol : NodeId} {name : String}
    {failure : Failure} (h : refusal d active symbol name = some failure) :
    (Cause.failure failure).IsTooDeep ∨ (Cause.failure failure).IsCircular := by
  unfold refusal at h
  split at h
  · exact .inr ⟨name, congrArg _ (Option.some.inj h).symm⟩
  · split at h
    · exact .inl ⟨name, congrArg _ (Option.some.inj h).symm⟩
    · exact nomatch h

/-- An evaluation that does not exceed a limit has the same outcome under all greater ones; a limit
that is not below the number of declarations that can be reached is not exceeded; and under such a
limit an evaluation that would go on forever without the checks finds a declaration that needs its
own value. -/
theorem evaluate_depth (f : Forest) (inputs : Bindings) (scope : ScopeId) (e : Expr)
    (hanswers : f.Answers inputs scope e) (d : Int) :
    (∀ d', d ≤ d' → ¬ Fails Cause.IsTooDeep (e.evaluate (f.lookup inputs d scope)) →
      e.evaluate (f.lookup inputs d' scope) = e.evaluate (f.lookup inputs d scope)) ∧
    ((f.reached inputs scope e).ncard ≤ d →
      ¬ Fails Cause.IsTooDeep (e.evaluate (f.lookup inputs d scope)) ∧
      ((∀ depth, f.evaluateWith inputs unguarded depth scope e {} = none) →
        Fails Cause.IsCircular (e.evaluate (f.lookup inputs d scope)))) := by
  constructor
  · intro d' hd hdeep
    have hsame : SameUnless Cause.IsTooDeep (e.evaluate (f.lookup inputs d scope))
        (e.evaluate (f.lookup inputs d' scope)) :=
      e.evaluate_sameUnless fun n _ site => lookupIn_mono hd (f.nodes.size + 1) [] scope site n
    exact (hsame.resolve_right hdeep).symm
  · intro hdepth
    have hdeep := evaluate_not_tooDeep e fun n hn site =>
      lookupIn_not_tooDeep (f.reached_finite inputs scope e) hdepth (f.nodes.size + 1) hn
        subset_rfl List.nodup_nil (List.forall_mem_nil _) site
    refine ⟨hdeep.not_fails, fun hnone => ?_⟩
    have htracks : Tracks (fun c => c.IsTooDeep ∨ c.IsCircular)
        (e.evaluate (f.lookup inputs d scope))
        (f.evaluateWith inputs unguarded (f.nodes.size + 1) scope e {}) := by
      refine evaluate_tracks (fun active symbol name => ?_) hanswers (Nat.lt_succ_self _)
      cases hrefusal : refusal d active symbol name with
      | none => exact .inl rfl
      | some failure => exact .inr ⟨failure, rfl, refusal_isTooDeep_or_isCircular hrefusal⟩
    obtain ⟨fault, hfault, hcause⟩ | ⟨w, hend⟩ := htracks
    · exact ⟨fault, hfault, hcause.resolve_left fun h => hdeep.not_fails ⟨fault, hfault, h⟩⟩
    · cases (hnone _).symm.trans hend

section Example

/-- In the example two declarations can be reached, so no limit beyond two makes a difference. -/
theorem evaluate_depth_cycle :
    cycleForest.Answers [] 1 (.ofName "a") ∧ (cycleForest.reached [] 1 (.ofName "a")).ncard ≤ 2 ∧
      ∀ d', 2 ≤ d' → (Expr.ofName "a").evaluate (cycleForest.lookup [] d' 1) =
        (Expr.ofName "a").evaluate (cycleForest.lookup [] 2 1) := by
  have hanswers := cycleForest_answers [] 1 (.ofName "a")
  have hdeclarations : ∀ id < 6, cycleForest.kind? id = some .declaration → id ∈ [2, 4] := by
    decide +kernel
  have hsize : cycleForest.nodes.size = 6 := by decide +kernel
  have hsub : cycleForest.reached [] 1 (.ofName "a") ⊆ ([2, 4] : List NodeId).toFinset := by
    intro id hid
    have hkind := kind?_of_mem_reached hid
    exact List.mem_toFinset.mpr (hdeclarations id (hsize ▸ lt_of_kind? hkind) hkind)
  have hcard : (cycleForest.reached [] 1 (.ofName "a")).ncard ≤ 2 := by
    refine (Set.ncard_le_ncard hsub (Finset.finite_toSet _)).trans ?_
    rw [Set.ncard_coe_finset]
    decide
  refine ⟨hanswers, hcard, fun d' hd => ?_⟩
  obtain ⟨hsame, hdeep⟩ := evaluate_depth cycleForest [] 1 (.ofName "a") hanswers 2
  exact hsame d' hd (hdeep (by omega)).1

end Example

end Forest
end Wdl
