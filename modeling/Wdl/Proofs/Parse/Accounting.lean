import Mathlib.Data.List.Nodup
import Wdl.Proofs.Compile.Documents
import Wdl.Proofs.Parse.Rounds

/-!
The account of the errors of a parse.

The recovery is called with one thing after the other that a parser did not expect.  It records each
and says whether to go on; where it does not, the same error comes out of the parser and is recorded
again.  `Session` is what can happen for any such sequence: `Session.sound` says that the errors are
distinct and within the limit, and that there is a tree only below it, and `Session.recorded` that
they are just those that were delivered.  Every parse is such a session, `session_of_parse`.
-/

namespace Wdl

/-- Errors with the same key are recorded once. -/
def SyntaxError.key (e : SyntaxError) : Nat × Nat × String :=
  (e.line, e.column, e.message)

namespace Parse

variable {limit : Nat} {errors : List SyntaxError} {e : SyntaxError}

/-! ## Reporting -/

theorem report_eq (errors : List SyntaxError) (e : SyntaxError) :
    report errors e = if e.key ∈ errors.map SyntaxError.key then errors else e :: errors := by
  have hany : (errors.any fun old =>
      old.line == e.line && old.column == e.column && old.message == e.message) = true ↔
      e.key ∈ errors.map SyntaxError.key := by
    simp only [List.any_eq_true, Bool.and_eq_true, beq_iff_eq, List.mem_map, SyntaxError.key,
      Prod.mk.injEq, and_assoc]
  rw [report]
  exact if_congr hany rfl rfl

theorem report_nodup (h : (errors.map SyntaxError.key).Nodup) :
    ((report errors e).map SyntaxError.key).Nodup := by
  rw [report_eq]
  split
  · exact h
  · next hnew => exact List.nodup_cons.mpr ⟨hnew, h⟩

theorem length_report_le (errors : List SyntaxError) (e : SyntaxError) :
    (report errors e).length ≤ errors.length + 1 := by
  rw [report_eq]
  split
  · exact Nat.le_succ _
  · exact Nat.le_refl _

theorem mem_keys_report (errors : List SyntaxError) (e : SyntaxError) (k : Nat × Nat × String) :
    k ∈ (report errors e).map SyntaxError.key ↔ k = e.key ∨ k ∈ errors.map SyntaxError.key := by
  rw [report_eq]
  split
  · next hold =>
    constructor
    · exact .inr
    · rintro (rfl | h)
      · exact hold
      · exact h
  · rw [List.map_cons, List.mem_cons]

theorem key_mem_report (errors : List SyntaxError) (e : SyntaxError) :
    e.key ∈ (report errors e).map SyntaxError.key :=
  (mem_keys_report errors e e.key).mpr (.inl rfl)

/-- An error that is recorded a second time changes nothing. -/
theorem report_report (errors : List SyntaxError) (e : SyntaxError) :
    report (report errors e) e = report errors e := by
  rw [report_eq (report errors e), if_pos (key_mem_report errors e)]

/-! ## Sessions -/

/-- Something that a parser did not expect, with its error.  At the end of the input it matters
whether closing tokens lead to an end that is accepted. -/
inductive Delivery
  | unexpected (e : SyntaxError)
  | ending (e : SyntaxError) (closes : Bool)

def Delivery.error : Delivery → SyntaxError
  | .unexpected e | .ending e _ => e

/-- What the recovery keeps: the errors, the last one first, and how often the end of the input was
met. -/
structure Ledger where
  errors : List SyntaxError := []
  endings : Nat := 0

/-- The recovery is called with a delivery: it records the error and says whether to go on. -/
def Ledger.handle (limit : Nat) (l : Ledger) (d : Delivery) : Ledger × Bool :=
  let errors := report l.errors d.error
  if limit ≤ errors.length then ({ l with errors }, false)
  else
    match d with
    | .unexpected _ => ({ l with errors }, true)
    | .ending _ closes => (⟨errors, l.endings + 1⟩, l.endings == 0 && closes)

/-- What can come of a parse: from what is delivered one after the other, the errors that are
recorded in the end, and whether there is a tree. -/
inductive Session (limit : Nat) : Ledger → List SyntaxError → List SyntaxError → Bool → Prop
  /-- the parser accepts the input -/
  | accepted (l : Ledger) : Session limit l [] l.errors true
  /-- the recovery goes on after a delivery -/
  | handled {l l' : Ledger} {d : Delivery} {ds es : List SyntaxError} {tree : Bool} :
    l.handle limit d = (l', true) → Session limit l' ds es tree →
      Session limit l (d.error :: ds) es tree
  /-- the recovery gives up, and the parser fails with what it was called with -/
  | refused {l l' : Ledger} {d : Delivery} : l.handle limit d = (l', false) →
    Session limit l [d.error] (report l'.errors d.error) false
  /-- the end of the input is met again, and the parser fails without a call -/
  | escaped {l : Ledger} (e : SyntaxError) : 0 < l.endings →
    Session limit l [e] (report l.errors e) false

/-- The errors are distinct and there are less of them than the limit. -/
structure Ledger.Sound (limit : Nat) (l : Ledger) : Prop where
  nodup : (l.errors.map SyntaxError.key).Nodup
  lt : l.errors.length < limit

/-- A call records the error that it is made with; where the recovery goes on the limit has not been
reached. -/
theorem Ledger.handle_errors {l l' : Ledger} {d : Delivery} {resumes : Bool}
    (h : l.handle limit d = (l', resumes)) :
    l'.errors = report l.errors d.error ∧ (resumes = true → l'.errors.length < limit) := by
  unfold handle at h
  dsimp only at h
  split at h
  · obtain ⟨rfl, rfl⟩ := Prod.mk.inj h
    exact ⟨rfl, fun h => absurd h Bool.false_ne_true⟩
  · next hlt =>
    cases d <;>
    · obtain ⟨rfl, -⟩ := Prod.mk.inj h
      exact ⟨rfl, fun _ => Nat.lt_of_not_le hlt⟩

theorem Ledger.Sound.handle {l l' : Ledger} {d : Delivery} (hl : l.Sound limit)
    (h : l.handle limit d = (l', true)) : l'.Sound limit where
  nodup := by
    rw [(handle_errors h).1]
    exact report_nodup hl.nodup
  lt := (handle_errors h).2 rfl

/-- One more error keeps within the limit. -/
theorem Ledger.Sound.report {l : Ledger} (hl : l.Sound limit) (e : SyntaxError) :
    ((Parse.report l.errors e).map SyntaxError.key).Nodup ∧
      (Parse.report l.errors e).length ≤ limit :=
  ⟨report_nodup hl.nodup, Nat.le_trans (length_report_le _ _) hl.lt⟩

/-- However a session goes, the errors are distinct and within the limit, and there is a tree only
below it. -/
theorem Session.sound {l : Ledger} {ds es : List SyntaxError} {tree : Bool}
    (h : Session limit l ds es tree) (hl : l.Sound limit) :
    (es.map SyntaxError.key).Nodup ∧ es.length ≤ limit ∧ (tree = true → es.length < limit) := by
  induction h with
  | accepted l => exact ⟨hl.nodup, Nat.le_of_lt hl.lt, fun _ => hl.lt⟩
  | handled hhandle _ ih => exact ih (hl.handle hhandle)
  | @refused l l' d hhandle =>
    rw [(Ledger.handle_errors hhandle).1, report_report]
    exact ⟨(hl.report d.error).1, (hl.report d.error).2, fun h => absurd h Bool.false_ne_true⟩
  | escaped e => exact ⟨(hl.report e).1, (hl.report e).2, fun h => absurd h Bool.false_ne_true⟩

/-- What is recorded in the end is what was recorded before and what has been delivered. -/
theorem Session.recorded {l : Ledger} {ds es : List SyntaxError} {tree : Bool}
    (h : Session limit l ds es tree) (k : Nat × Nat × String) :
    k ∈ es.map SyntaxError.key ↔
      k ∈ l.errors.map SyntaxError.key ∨ k ∈ ds.map SyntaxError.key := by
  induction h with
  | accepted l => simp
  | handled hhandle _ ih =>
    rw [ih, (Ledger.handle_errors hhandle).1, mem_keys_report, List.map_cons, List.mem_cons,
      or_left_comm, or_assoc]
  | refused hhandle =>
    rw [(Ledger.handle_errors hhandle).1, report_report, mem_keys_report, List.map_cons,
      List.map_nil, List.mem_singleton, or_comm]
  | escaped e =>
    rw [mem_keys_report, List.map_cons, List.map_nil, List.mem_singleton, or_comm]

/-! ## Parses -/

theorem Ledger.handle_of_le {l : Ledger} {d : Delivery}
    (h : limit ≤ (Parse.report l.errors d.error).length) :
    l.handle limit d = ({ l with errors := Parse.report l.errors d.error }, false) :=
  if_pos h

/-- Where the limit is reached the session is over. -/
theorem Session.of_le (h : limit ≤ (report errors e).length) :
    Session limit { errors } [e] (report errors e) false := by
  have hrefused := Session.refused (Ledger.handle_of_le (l := { errors }) (d := .unexpected e) h)
  exact report_report errors e ▸ hrefused

/-- Below the limit it goes on after anything but the end of the input. -/
theorem Session.of_unexpected {ds es : List SyntaxError} {tree : Bool}
    (h : ¬limit ≤ (report errors e).length)
    (hrest : Session limit { errors := report errors e } ds es tree) :
    Session limit { errors } (e :: ds) es tree :=
  .handled (d := .unexpected e) (if_neg h) hrest

/-- At the end of the input it goes on if closing what is open helps. -/
theorem Session.of_ending (closes : Bool) (h : ¬limit ≤ (report errors e).length) :
    Session limit { errors } [e] (report errors e) closes := by
  have hhandle : Ledger.handle limit { errors } (.ending e closes) =
      (⟨report errors e, 1⟩, closes) := if_neg h
  cases closes with
  | true => exact .handled hhandle (.accepted ⟨report errors e, 1⟩)
  | false =>
    have hrefused := Session.refused hhandle
    exact report_report errors e ▸ hrefused

/-- From any round on a parse is a session. -/
theorem session_of_rounds (m : Machine) (o : Origin) (limit : Nat) (p : Progress) :
    ∃ ds, Session limit { errors := p.errors } ds ((lastRound m o limit p).outcome m o limit).1
      ((lastRound m o limit p).outcome m o limit).2.isSome := by
  induction p using rounds.induct m o limit with
  | case1 p ih =>
    cases round_cases m o limit p with
    | read _ herrors hnext =>
      rw [lastRound_of_some hnext, ← herrors]
      exact ih _ hnext
    | done _ hnext houtcome =>
      rw [lastRound_of_none hnext, houtcome]
      exact ⟨[], .accepted _⟩
    | full _ hle hnext houtcome =>
      rw [lastRound_of_none hnext, houtcome]
      exact ⟨[_], .of_le hle⟩
    | ending _ hlt hnext houtcome =>
      rw [lastRound_of_none hnext, houtcome]
      exact ⟨[_], .of_ending _ hlt⟩
    | resumed _ hlt _ hnext =>
      rw [lastRound_of_some hnext]
      obtain ⟨ds, hrest⟩ := ih _ hnext
      exact ⟨_ :: ds, .of_unexpected hlt hrest⟩

/-- A parse is a session that starts without errors, and there is a tree only if it ends with
one. -/
theorem session_of_parse (m : Machine) (o : Origin) (limit : Int) (text : List Char) :
    ∃ ds tree, Session (max limit 1).toNat {} ds (parse m o limit text).1.reverse tree ∧
      ((parse m o limit text).2.isSome = true → tree = true) := by
  rw [parse_eq_result]
  obtain ⟨ds, hsession⟩ := session_of_rounds m o (max limit 1).toNat (.ofText text)
  refine ⟨ds, (result m o limit text).2.isSome, ?_, Option.isSome_of_isSome_bind⟩
  rw [List.reverse_reverse]
  exact hsession

/-- The account of syntax errors.  Whatever a parser delivers, from an empty list on, the recorded
errors are pairwise distinct in line, column and message, there are never more of them than the
limit, and when they are that many there is no tree; in line, column and message they are just those
that were delivered.  Every parse of a text is such a session, and an expression is compiled only
from a text without errors. -/
theorem syntax_errors_accounted (limit : Int) :
    (∀ ds es tree, Session (max limit 1).toNat {} ds es tree →
      (es.map SyntaxError.key).Nodup ∧ (es.length : Int) ≤ max limit 1 ∧
        (max limit 1 ≤ es.length → tree = false) ∧
        ∀ k, k ∈ es.map SyntaxError.key ↔ k ∈ ds.map SyntaxError.key) ∧
    (∀ (m : Machine) (o : Origin) (text : List Char),
      (∃ ds tree, Session (max limit 1).toNat {} ds (parse m o limit text).1.reverse tree ∧
        ((parse m o limit text).2.isSome = true → tree = true)) ∧
      ((parse m o limit text).1.map SyntaxError.key).Nodup ∧
      ((parse m o limit text).1.length : Int) ≤ max limit 1 ∧
      (max limit 1 ≤ (parse m o limit text).1.length → (parse m o limit text).2 = none)) ∧
    ∀ text c, Compiled.ofText text = .ok c →
      (parse Language.expressions (.ofNames "" "") 1 text.toList).1 = [] := by
  have hlimit : ((max limit 1).toNat : Int) = max limit 1 := Int.toNat_of_nonneg (by omega)
  have hempty : Ledger.Sound (max limit 1).toNat {} := ⟨.nil, show 0 < _ by omega⟩
  have hsound : ∀ ds es tree, Session (max limit 1).toNat {} ds es tree →
      (es.map SyntaxError.key).Nodup ∧ (es.length : Int) ≤ max limit 1 ∧
        (max limit 1 ≤ es.length → tree = false) ∧
        ∀ k, k ∈ es.map SyntaxError.key ↔ k ∈ ds.map SyntaxError.key := by
    intro ds es tree h
    obtain ⟨hnodup, hle, htree⟩ := h.sound hempty
    refine ⟨hnodup, by omega, fun hfull => ?_, fun k => ?_⟩
    · rw [← Bool.not_eq_true]
      intro htrue
      have hlt := htree htrue
      omega
    · rw [h.recorded, List.map_nil]
      simp only [List.not_mem_nil, false_or]
  refine ⟨hsound, fun m o text => ?_, fun text c hc => ?_⟩
  · obtain ⟨ds, tree, hsession, htree⟩ := session_of_parse m o limit text
    obtain ⟨hnodup, hle, hfull, -⟩ := hsound _ _ _ hsession
    rw [List.length_reverse] at hle hfull
    rw [List.map_reverse, List.nodup_reverse] at hnodup
    refine ⟨⟨ds, tree, hsession, htree⟩, hnodup, hle, fun h => ?_⟩
    rw [← Option.not_isSome_iff_eq_none]
    intro hsome
    rw [hfull h] at htree
    exact Bool.false_ne_true (htree hsome)
  · obtain ⟨t, stop, hparse, -⟩ := Compiled.exists_walk hc
    rw [hparse]

section Example

/-- An unexpected token. -/
def strayToken : SyntaxError := ⟨1, 0, "mismatched input", ⟨"", "", 1, 1, 1, 1⟩⟩

/-- The end of the input, one line below. -/
def strayEnd : SyntaxError := ⟨2, 4, "mismatched input", ⟨"", "", 2, 5, 2, 5⟩⟩

/-- The same token is delivered twice and recorded once; at the end closing tokens help. -/
theorem syntax_errors_accounted_session :
    Session (max (3 : Int) 1).toNat {} [strayToken, strayToken, strayEnd]
        [strayEnd, strayToken] true ∧
      ([strayEnd, strayToken].map SyntaxError.key).Nodup ∧
      ∀ k, k ∈ [strayEnd, strayToken].map SyntaxError.key ↔
        k ∈ [strayToken, strayToken, strayEnd].map SyntaxError.key := by
  have hsession : Session (max (3 : Int) 1).toNat {} [strayToken, strayToken, strayEnd]
      [strayEnd, strayToken] true := by
    refine .handled (d := .unexpected strayToken) rfl ?_
    refine .handled (d := .unexpected strayToken) rfl ?_
    exact .handled (d := .ending strayEnd true) rfl (.accepted ⟨[strayEnd, strayToken], 1⟩)
  obtain ⟨hnodup, -, -, hrecorded⟩ := (syntax_errors_accounted 3).1 _ _ _ hsession
  exact ⟨hsession, hnodup, hrecorded⟩

end Example

end Parse
end Wdl
