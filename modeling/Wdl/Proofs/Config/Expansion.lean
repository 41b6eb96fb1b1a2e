import Mathlib.Dynamics.PeriodicPts.Defs
import Wdl.Config
import Wdl.Proofs.Config.Cost

/-!
Rounds of expansion.

A value is expanded again and again until a round leaves it as it is.  With a bound on the number of
rounds that gives the first value in the rounds that stays as it is, `expand?_eq_some_iff`, and
nothing if the bound comes first, `expand?_eq_none_iff`.

There need not be such a value: two variables that refer to each other take turns for ever, by
`not_isFixedPt_of_isPeriodicPt`.  Where every variable weighs more than its value costs there is
one, after no more rounds than what is expanded costs, `Weighs.exists_isFixedPt`.
-/

namespace Wdl
namespace Config

open Function (IsFixedPt IsPeriodicPt)

variable {c : Config} {env : Environment} {name key : String}

/-! ## Rounds -/

/-- What moves and comes back to where it began never stands still. -/
theorem not_isFixedPt_of_isPeriodicPt {α : Type} {f : α → α} {period : Nat} {x : α}
    (hperiod : IsPeriodicPt f period x) (hpos : 0 < period) (hx : ¬IsFixedPt f x) (n : Nat) :
    ¬IsFixedPt f (f^[n] x) := by
  intro hfixed
  have hle : n ≤ period * n := Nat.le_mul_of_pos_left n hpos
  have hback : f^[n] x = x := calc
    f^[n] x = f^[period * n - n] (f^[n] x) := (hfixed.iterate (period * n - n)).symm
    _ = f^[period * n] x := by rw [← Function.iterate_add_apply, Nat.sub_add_cancel hle]
    _ = x := hperiod.mul_const n
  rw [hback] at hfixed
  exact hx hfixed

theorem expand?_eq_some_iff {n : Nat} {s t : String} :
    expand? env n s = some t ↔
      ∃ k < n, (expandOnce env)^[k] s = t ∧ IsFixedPt (expandOnce env) t := by
  induction n generalizing s with
  | zero => exact ⟨nofun, fun ⟨k, hk, _⟩ => absurd hk (Nat.not_lt_zero k)⟩
  | succ n ih =>
    by_cases hfixed : expandOnce env s = s
    · have hs : expand? env (n + 1) s = some s := by
        rw [expand?, if_pos (beq_iff_eq.mpr hfixed)]
      rw [hs, Option.some_inj]
      constructor
      · rintro rfl
        exact ⟨0, Nat.zero_lt_succ n, rfl, hfixed⟩
      · rintro ⟨k, -, rfl, -⟩
        exact (IsFixedPt.iterate hfixed k).symm
    · have hs : expand? env (n + 1) s = expand? env n (expandOnce env s) := by
        rw [expand?, if_neg (by rwa [beq_iff_eq])]
      rw [hs, ih]
      constructor
      · rintro ⟨k, hk, hreach, ht⟩
        exact ⟨k + 1, Nat.succ_lt_succ hk, hreach, ht⟩
      · rintro ⟨k, hk, hreach, ht⟩
        cases k with
        | zero =>
          rw [Function.iterate_zero_apply] at hreach
          rw [← hreach] at ht
          exact absurd ht hfixed
        | succ k => exact ⟨k, Nat.lt_of_succ_lt_succ hk, hreach, ht⟩

theorem expand?_eq_none_iff {n : Nat} {s : String} :
    expand? env n s = none ↔
      ∀ k < n, ¬IsFixedPt (expandOnce env) ((expandOnce env)^[k] s) := by
  rw [Option.eq_none_iff_forall_ne_some]
  constructor
  · intro hnone k hk hfixed
    exact hnone _ (expand?_eq_some_iff.mpr ⟨k, hk, rfl, hfixed⟩)
  · intro hmoves t ht
    obtain ⟨k, hk, rfl, hfixed⟩ := expand?_eq_some_iff.mp ht
    exact hmoves k hk hfixed

/-- Rounds that make a text cheaper whenever they change it come to an end. -/
theorem Weighs.exists_isFixedPt {weight : String → Nat} (hweight : Weighs env weight) (s : String) :
    ∃ n ≤ cost env weight s.toList,
      IsFixedPt (expandOnce env) ((expandOnce env)^[n] s) := by
  induction hcost : cost env weight s.toList using Nat.strong_induction_on generalizing s with
  | _ bound ih =>
    rcases expandOnce_lowers hweight s with hfixed | hlt
    · exact ⟨0, Nat.zero_le _, hfixed⟩
    · rw [hcost] at hlt
      obtain ⟨n, hn, hfixed⟩ := ih _ hlt (expandOnce env s) rfl
      exact ⟨n + 1, Nat.succ_le_of_lt (Nat.lt_of_le_of_lt hn hlt), hfixed⟩

/-! ## Options -/

theorem bind_ne_endless {α β : Type} {x : Except Trouble α} {next : α → Except Trouble β}
    (hx : x ≠ .error .endlessExpansion) (hnext : ∀ a, next a ≠ .error .endlessExpansion) :
    (x >>= next) ≠ .error .endlessExpansion := by
  cases x with
  | error t => exact fun h => hx (congrArg Except.error (Except.error.inj h))
  | ok a => exact hnext a

namespace OptionFile

/-- The references between options are followed to a limited depth, so that they always end. -/
theorem interpolate_ne_endless (options : List (String × String)) (depth fuel : Nat)
    (cs : List Char) : interpolate options depth fuel cs ≠ .error .endlessExpansion := by
  fun_induction interpolate options depth fuel cs with
  | case1 => nofun
  | case2 => nofun
  | case3 => nofun
  | case4 _ _ _ ih => exact bind_ne_endless ih nofun
  | case5 => nofun
  | case6 => nofun
  | case7 _ _ _ _ _ _ _ _ _ _ _ ihrest ihhere =>
    exact bind_ne_endless ihhere fun _ => bind_ne_endless ihrest nofun
  | case8 _ _ _ _ _ _ _ _ _ _ _ ih =>
    exact bind_ne_endless nofun fun _ => bind_ne_endless ih nofun
  | case9 => nofun
  | case10 _ _ _ _ _ _ _ ih => exact bind_ne_endless ih nofun

theorem get_ne_endless (f : OptionFile) (name key : String) :
    f.get name key ≠ .error .endlessExpansion := by
  unfold OptionFile.get
  split
  · rintro ⟨⟩
  dsimp only
  split
  · rintro ⟨⟩
  · refine bind_ne_endless (interpolate_ne_endless _ _ _ _) ?_
    rintro _ ⟨⟩

end OptionFile

theorem raw_ne_endless : c.raw env name key ≠ .error .endlessExpansion := by
  unfold raw
  split
  · exact OptionFile.get_ne_endless _ _ _
  split
  · nofun
  split
  · exact OptionFile.get_ne_endless _ _ _
  split
  · exact OptionFile.get_ne_endless _ _ _
  split <;> nofun

theorem get_of_error {t : Trouble}
    (h : c.raw env (Text.lower name) (Text.lower key) = .error t) :
    c.get env name key = .error t := by
  rw [Config.get, h]
  rfl

theorem get_of_ok {v : String} (h : c.raw env (Text.lower name) (Text.lower key) = .ok v) :
    c.get env name key =
      match expand? env maxRounds (unquote v) with
      | some w => .ok w
      | none => .error .endlessExpansion := by
  have hbind (next : String → Except Trouble String) : (Except.ok v >>= next) = next v := rfl
  rw [Config.get, h]
  refine (hbind _).trans ?_
  cases expand? env maxRounds (unquote v) <;> rfl

/-- The value of an option is the first one that another round leaves as it is. -/
theorem get_eq_ok_iff {v : String} (h : c.raw env (Text.lower name) (Text.lower key) = .ok v)
    (w : String) : c.get env name key = .ok w ↔
      ∃ n < maxRounds, (expandOnce env)^[n] (unquote v) = w ∧ expandOnce env w = w := by
  refine Iff.trans ?_ expand?_eq_some_iff
  rw [get_of_ok h]
  cases expand? env maxRounds (unquote v) with
  | none => exact ⟨nofun, nofun⟩
  | some u =>
    exact ⟨fun h => congrArg some (Except.ok.inj h), fun h => congrArg _ (Option.some.inj h)⟩

/-- An option that has a source has no value only if every round changes what is expanded. -/
theorem get_eq_error_iff {v : String} (h : c.raw env (Text.lower name) (Text.lower key) = .ok v)
    (t : Trouble) : c.get env name key = .error t ↔ t = .endlessExpansion ∧
      ∀ n < maxRounds,
        (expandOnce env)^[n + 1] (unquote v) ≠ (expandOnce env)^[n] (unquote v) := by
  simp only [Function.iterate_succ_apply']
  refine Iff.trans ?_ (and_congr_right fun _ => expand?_eq_none_iff)
  rw [get_of_ok h]
  cases expand? env maxRounds (unquote v) with
  | none => exact ⟨fun h => ⟨(Except.error.inj h).symm, rfl⟩, fun h => congrArg _ h.1.symm⟩
  | some u => exact ⟨nofun, nofun⟩

variable (c env name key)

/-- An option that no source gives has no value.  Any other has the value of its source without
quotes, as it is after the first round of expansion behind which another one changes nothing; if
there is no such round among as many as there may be, and only then, it has no value either.  Where
no variable may come to refer to itself there is such a round, and where what is expanded costs less
than there may be rounds it is one of these. -/
theorem get_expands :
    (∀ t, c.raw env (Text.lower name) (Text.lower key) = .error t →
      t ≠ .endlessExpansion ∧ c.get env name key = .error t) ∧
    ∀ v, c.raw env (Text.lower name) (Text.lower key) = .ok v →
      (∀ w, c.get env name key = .ok w ↔
        ∃ n < maxRounds, (expandOnce env)^[n] (unquote v) = w ∧ expandOnce env w = w) ∧
      (∀ t, c.get env name key = .error t ↔ t = .endlessExpansion ∧
        ∀ n < maxRounds,
          (expandOnce env)^[n + 1] (unquote v) ≠ (expandOnce env)^[n] (unquote v)) ∧
      (Acyclic env → ∃ n,
        (expandOnce env)^[n + 1] (unquote v) = (expandOnce env)^[n] (unquote v)) ∧
      ∀ weight, Weighs env weight → cost env weight (unquote v).toList < maxRounds →
        ∃ w, c.get env name key = .ok w := by
  constructor
  · intro t ht
    refine ⟨?_, get_of_error ht⟩
    rintro rfl
    exact raw_ne_endless ht
  · intro v hv
    refine ⟨get_eq_ok_iff hv, get_eq_error_iff hv, fun hacyclic => ?_,
      fun weight hweight hcost => ?_⟩
    · obtain ⟨n, -, hfixed⟩ := hacyclic.weighs.exists_isFixedPt (unquote v)
      refine ⟨n, ?_⟩
      rw [Function.iterate_succ_apply']
      exact hfixed
    · obtain ⟨n, hn, hfixed⟩ := hweight.exists_isFixedPt (unquote v)
      exact ⟨_, (get_eq_ok_iff hv _).mpr ⟨n, Nat.lt_of_le_of_lt hn hcost, rfl, hfixed⟩⟩

/-- A variable whose value refers to another one. -/
def nestedVariables : Environment :=
  [("WDLPARSER__EVAL__MAX_DEPTH", "'$A'"), ("A", "$\x7bB\x7d0"), ("B", "1")]

/-- A weight for every variable there: one more than those in its value. -/
def nestedWeight (name : String) : Nat :=
  if name = "B" then 1 else if name = "A" then 2 else 3

theorem nestedVariables_weighs : Weighs nestedVariables nestedWeight := by
  have hvalues : ∀ entry ∈ nestedVariables,
      cost nestedVariables nestedWeight entry.2.toList < nestedWeight entry.1 := by decide
  exact fun name v hlookup => hvalues _ (mem_of_lookup hlookup)

theorem get_expands_nestedVariables :
    ({} : Config).raw nestedVariables (Text.lower "eval") (Text.lower "max_depth") = .ok "'$A'" ∧
      Acyclic nestedVariables ∧ Weighs nestedVariables nestedWeight ∧
      cost nestedVariables nestedWeight (unquote "'$A'").toList < maxRounds ∧
      (∃ n, (expandOnce nestedVariables)^[n + 1] (unquote "'$A'") =
        (expandOnce nestedVariables)^[n] (unquote "'$A'")) ∧
      ∃ w, ({} : Config).get nestedVariables "eval" "max_depth" = .ok w ∧ w = "10" := by
  have hraw : ({} : Config).raw nestedVariables (Text.lower "eval") (Text.lower "max_depth") =
      .ok "'$A'" := by rfl
  have hacyclic : Acyclic nestedVariables := acyclic_of_rank nestedWeight (by decide)
  have hcost : cost nestedVariables nestedWeight (unquote "'$A'").toList < maxRounds := by decide
  obtain ⟨hok, -, hends, hbound⟩ :=
    (get_expands {} nestedVariables "eval" "max_depth").2 _ hraw
  have hvalue := (hok "10").mpr ⟨2, by decide, by rfl, by rfl⟩
  obtain ⟨w, hw⟩ := hbound nestedWeight nestedVariables_weighs hcost
  refine ⟨hraw, hacyclic, nestedVariables_weighs, hcost, hends hacyclic, w, hw, ?_⟩
  exact Except.ok.inj (hw.symm.trans hvalue)

/-- Two variables that refer to each other. -/
def swapping : Environment :=
  [("WDLPARSER__EVAL__MAX_DEPTH", "$A"), ("A", "$B"), ("B", "$A")]

/-- Each of the two is replaced by the other one for ever. -/
theorem swapping_endless :
    (∀ n, expand? swapping n "$A" = none) ∧
      ({} : Config).get swapping "eval" "max_depth" = .error .endlessExpansion := by
  have hperiod : IsPeriodicPt (expandOnce swapping) 2 "$A" := by
    show expandOnce swapping (expandOnce swapping "$A") = "$A"
    rfl
  have hmoves : ¬IsFixedPt (expandOnce swapping) "$A" := by
    show ¬expandOnce swapping "$A" = "$A"
    decide
  have hnone (n : Nat) : expand? swapping n "$A" = none :=
    expand?_eq_none_iff.mpr fun k _ =>
      not_isFixedPt_of_isPeriodicPt hperiod (by decide) hmoves k
  refine ⟨hnone, ?_⟩
  have hraw : ({} : Config).raw swapping (Text.lower "eval") (Text.lower "max_depth") =
      .ok "$A" := by rfl
  have hunquote : unquote "$A" = "$A" := by rfl
  rw [get_of_ok hraw, hunquote, hnone]

end Config
end Wdl
