import Mathlib.Data.List.Pairwise
import Wdl.Proofs.Lexer.Tokens
import Wdl.Proofs.Parse.Accepted

/-!
The rounds of a parse with recovery.

A round reads a token or meets something that cannot be read.  Wherever the parse goes on, also
where it goes back into a stray run of text, it does so at least one character further than it
stood: `Progress.next?_cursor`.  So the states that it goes through can be listed without a limit on
their number, `rounds`, and the limit that `run` is given is never reached: `run_eq_outcome`.
-/

namespace Wdl

/-! ## Moving over a text -/

theorem Place.advance_append (p : Place) (cs ds : List Char) :
    p.advance (cs ++ ds) = (p.advance cs).advance ds :=
  List.foldl_append

theorem Cursor.skip_skip (c : Cursor) (n k : Nat) : (c.skip n).skip k = c.skip (n + k) := by
  simp only [skip, List.take_add, Place.advance_append, List.drop_drop]

theorem Cursor.length_rest_skip (c : Cursor) (n : Nat) :
    (c.skip n).rest.length = c.rest.length - n :=
  List.length_drop

theorem Cursor.skip_offset (c : Cursor) {n : Nat} (h : n ≤ c.rest.length) :
    (c.skip n).place.offset = c.place.offset + n := by
  rw [skip, Place.advance_offset, List.length_take, Nat.min_eq_left h]

/-- A token of `k` characters that stands `n` characters after a cursor, and the text after it. -/
structure Token.Cut (c : Cursor) (t : Token) (after : Cursor) (n k : Nat) : Prop where
  pos : 0 < k
  le : n + k ≤ c.rest.length
  token : t = (c.skip n).token t.terminal k
  after : after = (c.skip n).skip k

namespace Token.Cut

variable {c after : Cursor} {t : Token} {n k : Nat}

theorem start (h : Cut c t after n k) : t.start = (c.skip n).place := by
  rw [h.token]
  rfl

theorem text (h : Cut c t after n k) : t.text.toList = (c.skip n).rest.take k := by
  rw [h.token]
  exact String.toList_ofList

theorem length_text (h : Cut c t after n k) : t.text.toList.length = k := by
  have hle := h.le
  rw [h.text, List.length_take, Cursor.length_rest_skip]
  omega

/-- The text from the token on is what the cursor has there. -/
theorem back (h : Cut c t after n k) :
    (⟨t.start, t.text.toList ++ after.rest⟩ : Cursor) = c.skip n := by
  rw [h.start, h.text, h.after]
  exact congrArg (Cursor.mk _) (List.take_append_drop k _)

/-- The token seen from further back. -/
theorem of_skip {i : Nat} (h : Cut (c.skip i) t after n k) (hi : i ≤ c.rest.length) :
    Cut c t after (i + n) k where
  pos := h.pos
  le := by
    have hle := h.le
    rw [Cursor.length_rest_skip] at hle
    omega
  token := by rw [← Cursor.skip_skip, ← h.token]
  after := by rw [← Cursor.skip_skip, ← h.after]

end Token.Cut

namespace Scanner

/-- What a scanner finds from a cursor on. -/
inductive Finding.From (c : Cursor) : Finding → Prop
  | token {t : Token} {after : Cursor} {n k : Nat} : t.Cut c after n k → From c (.token t after)
  | nothing {n : Nat} : n ≤ c.rest.length → From c (.nothing (c.skip n))
  | unknown {n : Nat} : n < c.rest.length → From c (.unknown (c.skip n))

theorem next_from (s : Scanner) (fuel : Nat) (c : Cursor) : (s.next fuel c).From c := by
  induction fuel generalizing c with
  | zero => exact .nothing (Nat.zero_le _)
  | succ fuel ih =>
    unfold next
    split
    · exact .nothing (Nat.zero_le _)
    · next hrest =>
      split
      · refine .unknown (n := 0) (List.length_pos_iff.mpr fun hnil => hrest ?_)
        rw [hnil]
        rfl
      · next cls n hfirst =>
        obtain ⟨hpos, hle⟩ := cls.match?_bounds _ n (firstMatch?_match? hfirst)
        split
        · -- ignored text is passed over, and what is found after it is found from here
          have hnext := ih (c.skip n)
          generalize s.next fuel (c.skip n) = found at hnext
          cases hnext with
          | token hcut => exact .token (hcut.of_skip hle)
          | @nothing i hi =>
            rw [Cursor.length_rest_skip] at hi
            rw [Cursor.skip_skip]
            exact .nothing (by omega)
          | @unknown i hi =>
            rw [Cursor.length_rest_skip] at hi
            rw [Cursor.skip_skip]
            exact .unknown (by omega)
        · exact .token (n := 0) ⟨hpos, by omega, rfl, rfl⟩

theorem scan_from (s : Scanner) (c : Cursor) : (s.scan c).From c :=
  next_from s _ c

end Scanner

namespace Parse

/-! ## Stray runs -/

theorem relex_match? {terminals : List Terminal} {cs : List Char} {t : Terminal} {n : Nat}
    (h : relex terminals cs = some (t, n)) : t.match? cs = some n := by
  have hbest : ∀ u k, relex terminals cs = some (u, k) → u.match? cs = some k := by
    unfold relex
    refine List.foldlRecOn (motive := fun best : Option (Terminal × Nat) =>
      ∀ u k, best = some (u, k) → u.match? cs = some k) terminals _ ?_ ?_
    · intro _ _ hnone
      cases hnone
    intro best ih t _ u k hu
    split at hu
    · exact ih u k hu
    · split at hu
      · exact ih u k hu
      · next hmatch =>
        split at hu
        · split at hu
          · obtain ⟨rfl, rfl⟩ := Prod.mk.inj (Option.some.inj hu)
            exact hmatch
          · exact ih u k hu
        · obtain ⟨rfl, rfl⟩ := Prod.mk.inj (Option.some.inj hu)
          exact hmatch
  exact hbest t n h

/-- Of a stray run no more is skipped than it has. -/
theorem strayLength_le (terminals : List Terminal) (cs : List Char) :
    strayLength terminals cs ≤ cs.length := by
  unfold strayLength
  cases hrelex : relex terminals cs with
  | none => exact Nat.min_le_right _ _
  | some best => exact (best.1.match?_bounds cs best.2 (relex_match? hrelex)).2

/-- Of a stray run at least one character is skipped. -/
theorem strayLength_pos (terminals : List Terminal) {cs : List Char} (h : 0 < cs.length) :
    0 < strayLength terminals cs := by
  unfold strayLength
  cases hrelex : relex terminals cs with
  | none => exact Nat.lt_of_lt_of_eq Nat.one_pos (Nat.min_eq_left h).symm
  | some best => exact (best.1.match?_bounds cs best.2 (relex_match? hrelex)).1

/-! ## Steps -/

/-- How a step moves from a cursor on, and what it says of the last token. -/
inductive Step.From (c : Cursor) (last : Option Token) : Step → Prop
  | read {p : Progress} {t : Token} {n k : Nat} : t.Cut c p.cursor n k → p.last = some t →
    From c last (.read p)
  | done {p : Progress} {e : Entry} {n : Nat} : n ≤ c.rest.length → p.cursor = c.skip n →
    p.last = last → From c last (.done p e)
  | character {p : Progress} {x : Char} {n : Nat} {rest : List Char} : n < c.rest.length →
    p.cursor = c.skip n → (c.skip n).rest = x :: rest → p.last = last →
    From c last (.stuck p (.character x (c.skip n)))
  | token {p : Progress} {t : Token} {expected : List Lookahead} {n k : Nat} :
    t.Cut c p.cursor n k → p.last = some t → From c last (.stuck p (.token t expected p.cursor))
  | ending {p : Progress} {expected : List Lookahead} {n : Nat} : n ≤ c.rest.length →
    p.cursor = c.skip n → p.last = last → From c last (.stuck p (.ending expected))

theorem step_from (m : Machine) (p : Progress) : (step m p).From p.cursor p.last := by
  have hscan := (m.scanner p.stack.state).scan_from p.cursor
  unfold step
  dsimp only
  split
  · next t after hfound =>
    rw [hfound] at hscan
    cases hscan with
    | token hcut =>
      split
      · exact .read hcut rfl
      · exact .token (p := { p with stack := _, cursor := after, last := some t }) hcut rfl
      · exact .token (p := { p with cursor := after, last := some t }) hcut rfl
  · next c hfound =>
    rw [hfound] at hscan
    cases hscan with
    | nothing hle =>
      split
      · exact .done hle rfl rfl
      · exact .ending hle rfl rfl
      · exact .ending hle rfl rfl
  · next c hfound =>
    rw [hfound] at hscan
    cases hscan with
    | @unknown n hlt =>
      have hroot := m.root.scan_from (p.cursor.skip n)
      split
      · next t after hfound' =>
        rw [hfound'] at hroot
        cases hroot with
        | token hcut =>
          exact .token (p := { p with cursor := after, last := some t })
            (hcut.of_skip (Nat.le_of_lt hlt)) rfl
      · split
        · next x rest hrest => exact .character hlt rfl hrest rfl
        · exact .ending (Nat.le_of_lt hlt) rfl rfl

/-! ## Going on -/

namespace Trouble

/-- The number of characters before what could not be read, unless that is the end of the input. -/
def offset? : Trouble → Option Nat
  | .character _ c => some c.place.offset
  | .token t _ _ => some t.start.offset
  | .ending _ => none

/-- Where reading goes on after a trouble, which is nowhere after the end of the input. -/
def resume? (m : Machine) : Trouble → Option Cursor
  | .character _ c => some (c.skip 1)
  | .token t expected after =>
    some (if isStray t expected then
      Cursor.skip ⟨t.start, t.text.toList ++ after.rest⟩ (strayLength m.terminals t.text.toList)
    else after)
  | .ending _ => none

end Trouble

/-- The state in which a parse goes on after a round, if it goes on. -/
def Progress.next? (m : Machine) (o : Origin) (limit : Nat) (p : Progress) : Option Progress :=
  match step m p with
  | .read q => some q
  | .done _ _ => none
  | .stuck q trouble =>
    let errors := report q.errors (errorFor m o q.last trouble)
    if limit ≤ errors.length then none
    else (trouble.resume? m).map fun cursor => { q with cursor, errors }

/-- What a parse comes to with a round after which it does not go on. -/
def Progress.outcome (m : Machine) (o : Origin) (limit : Nat) (p : Progress) :
    List SyntaxError × Option Entry :=
  match step m p with
  | .read q => (q.errors, none)
  | .done q e => (q.errors, some e)
  | .stuck q trouble =>
    let errors := report q.errors (errorFor m o q.last trouble)
    if limit ≤ errors.length then (errors, none)
    else
      match trouble with
      | .ending _ => (errors, close? m.automaton (lastExtent q.last) maxClosers q.stack)
      | _ => (errors, none)

variable {m : Machine} {o : Origin} {limit : Nat} {p q p' : Progress} {trouble : Trouble}

/-- One round of a run. -/
theorem run_succ (m : Machine) (o : Origin) (limit fuel : Nat) (p : Progress) :
    run m o limit (fuel + 1) p =
      ((p.next? m o limit).map (run m o limit fuel)).getD (p.outcome m o limit) := by
  have hfrom := step_from m p
  unfold run Progress.next? Progress.outcome
  generalize step m p = s at hfrom
  cases hfrom with
  | read | done => rfl
  | character | ending =>
    dsimp only
    split <;> rfl
  | token =>
    dsimp only [Trouble.resume?]
    split
    · rfl
    · split <;> rfl

/-- After a trouble a parse goes on behind the place where it began. -/
theorem resume?_from {c cursor : Cursor} {last : Option Token}
    (h : (Step.stuck q trouble).From c last) (hresume : trouble.resume? m = some cursor) :
    ∃ n k, trouble.offset? = some (c.skip n).place.offset ∧ 0 < k ∧ n + k ≤ c.rest.length ∧
      cursor = (c.skip n).skip k := by
  cases h with
  | @character _ x n rest hlt =>
    exact ⟨n, 1, rfl, Nat.one_pos, hlt, (Option.some.inj hresume).symm⟩
  | @token _ t expected n k hcut =>
    have hle := hcut.le
    have hoffset : (Trouble.token t expected q.cursor).offset? = some (c.skip n).place.offset :=
      congrArg (fun s : Place => some s.offset) hcut.start
    obtain rfl := Option.some.inj hresume
    split
    · have hstray := strayLength_le m.terminals t.text.toList
      rw [hcut.length_text] at hstray
      rw [hcut.back]
      exact ⟨n, _, hoffset,
        strayLength_pos m.terminals (Nat.lt_of_lt_of_eq hcut.pos hcut.length_text.symm),
        Nat.le_trans (Nat.add_le_add_left hstray n) hle, rfl⟩
    · exact ⟨n, k, hoffset, hcut.pos, hle, hcut.after⟩
  | ending => cases hresume

/-- How a round goes: it reads a token, it comes to the end, or it meets something that cannot be
read.  Then the parse is over if there are too many errors or if that is the end of the input, and
goes on elsewhere if not. -/
inductive Round (m : Machine) (o : Origin) (limit : Nat) (p : Progress) : Prop
  | read {q : Progress} : step m p = .read q → q.errors = p.errors →
      p.next? m o limit = some q → Round m o limit p
  | done {q : Progress} {e : Entry} : step m p = .done q e →
      p.next? m o limit = none → p.outcome m o limit = (p.errors, some e) → Round m o limit p
  | full {q : Progress} {trouble : Trouble} : step m p = .stuck q trouble →
      limit ≤ (report p.errors (errorFor m o q.last trouble)).length →
      p.next? m o limit = none →
      p.outcome m o limit = (report p.errors (errorFor m o q.last trouble), none) →
      Round m o limit p
  | ending {q : Progress} {expected : List Lookahead} : step m p = .stuck q (.ending expected) →
      ¬limit ≤ (report p.errors (errorFor m o q.last (.ending expected))).length →
      p.next? m o limit = none →
      p.outcome m o limit = (report p.errors (errorFor m o q.last (.ending expected)),
        close? m.automaton (lastExtent q.last) maxClosers q.stack) → Round m o limit p
  | resumed {q : Progress} {trouble : Trouble} {cursor : Cursor} : step m p = .stuck q trouble →
      ¬limit ≤ (report p.errors (errorFor m o q.last trouble)).length →
      trouble.resume? m = some cursor →
      p.next? m o limit =
        some { q with cursor, errors := report p.errors (errorFor m o q.last trouble) } →
      Round m o limit p

theorem round_cases (m : Machine) (o : Origin) (limit : Nat) (p : Progress) :
    Round m o limit p := by
  have herrors := step_errors m p
  cases hstep : step m p with
  | read q =>
    rw [hstep] at herrors
    exact .read hstep herrors (by rw [Progress.next?, hstep])
  | done q e =>
    rw [hstep] at herrors
    refine .done hstep (by rw [Progress.next?, hstep]) ?_
    rw [Progress.outcome, hstep, ← show q.errors = p.errors from herrors]
  | stuck q trouble =>
    rw [hstep] at herrors
    have hreport : report q.errors (errorFor m o q.last trouble) =
        report p.errors (errorFor m o q.last trouble) := congrArg (report · _) herrors
    by_cases hle : limit ≤ (report p.errors (errorFor m o q.last trouble)).length
    · refine .full hstep hle ?_ ?_
      · rw [Progress.next?, hstep]
        dsimp only
        rw [hreport, if_pos hle]
      · rw [Progress.outcome, hstep]
        dsimp only
        rw [hreport, if_pos hle]
    · have hnext : p.next? m o limit = (trouble.resume? m).map fun cursor =>
          { q with cursor, errors := report p.errors (errorFor m o q.last trouble) } := by
        rw [Progress.next?, hstep]
        dsimp only
        rw [hreport, if_neg hle]
      cases trouble with
      | ending expected =>
        refine .ending hstep hle hnext ?_
        rw [Progress.outcome, hstep]
        dsimp only
        rw [hreport, if_neg hle]
      | character | token => exact .resumed hstep hle rfl hnext

/-- Wherever a parse goes on, it does so further on. -/
theorem Progress.next?_cursor (h : p.next? m o limit = some p') :
    ∃ n, 0 < n ∧ n ≤ p.cursor.rest.length ∧ p'.cursor = p.cursor.skip n := by
  have hfrom := step_from m p
  cases round_cases m o limit p with
  | read hstep _ hnext =>
    obtain rfl := Option.some.inj (hnext.symm.trans h)
    rw [hstep] at hfrom
    cases hfrom with
    | @read _ t n k hcut =>
      exact ⟨n + k, Nat.add_pos_right n hcut.pos, hcut.le,
        hcut.after.trans (Cursor.skip_skip _ _ _)⟩
  | done _ hnext | full _ _ hnext | ending _ _ hnext => cases hnext.symm.trans h
  | resumed hstep _ hresume hnext =>
    obtain rfl := Option.some.inj (hnext.symm.trans h)
    rw [hstep] at hfrom
    obtain ⟨n, k, -, hpos, hle, rfl⟩ := resume?_from hfrom hresume
    exact ⟨n + k, Nat.add_pos_right n hpos, hle, Cursor.skip_skip _ _ _⟩

theorem Progress.next?_shorter (h : p.next? m o limit = some p') :
    p'.cursor.rest.length < p.cursor.rest.length := by
  obtain ⟨n, hpos, hle, hcursor⟩ := next?_cursor h
  rw [hcursor, Cursor.length_rest_skip]
  omega

/-! ## All rounds -/

/-- The states that a parse goes through, one for each round. -/
def rounds (m : Machine) (o : Origin) (limit : Nat) (p : Progress) : List Progress :=
  p :: match _h : p.next? m o limit with
    | some p' => rounds m o limit p'
    | none => []
termination_by p.cursor.rest.length
decreasing_by exact Progress.next?_shorter _h

theorem rounds_of_some (h : p.next? m o limit = some p') :
    rounds m o limit p = p :: rounds m o limit p' := by
  rw [rounds]
  split
  · next p'' h' => rw [Option.some.inj (h'.symm.trans h)]
  · next h' => rw [h] at h'; cases h'

theorem rounds_of_none (h : p.next? m o limit = none) : rounds m o limit p = [p] := by
  rw [rounds]
  split
  · next p'' h' => rw [h] at h'; cases h'
  · rfl

theorem rounds_ne (m : Machine) (o : Origin) (limit : Nat) (p : Progress) :
    rounds m o limit p ≠ [] := by
  rw [rounds]
  exact List.cons_ne_nil _ _

/-- What holds at the start and is kept by going on holds in every round. -/
theorem forall_rounds {I : Progress → Prop} (hstart : I p)
    (hnext : ∀ q q', I q → q.next? m o limit = some q' → I q') : ∀ q ∈ rounds m o limit p, I q := by
  induction p using rounds.induct m o limit with
  | case1 p ih =>
    cases h : p.next? m o limit with
    | none =>
      rw [rounds_of_none h]
      exact List.forall_mem_singleton.mpr hstart
    | some p' =>
      rw [rounds_of_some h]
      exact List.forall_mem_cons.mpr ⟨hstart, ih p' h (hnext p p' hstart h)⟩

/-- There are no more rounds than characters, and one. -/
theorem length_rounds (m : Machine) (o : Origin) (limit : Nat) (p : Progress) :
    (rounds m o limit p).length ≤ p.cursor.rest.length + 1 := by
  induction p using rounds.induct m o limit with
  | case1 p ih =>
    cases h : p.next? m o limit with
    | none =>
      rw [rounds_of_none h, List.length_singleton]
      exact Nat.le_add_left 1 _
    | some p' =>
      rw [rounds_of_some h, List.length_cons]
      exact Nat.succ_le_succ (Nat.le_trans (ih p' h) (Progress.next?_shorter h))

/-- The last round of a parse. -/
def lastRound (m : Machine) (o : Origin) (limit : Nat) (p : Progress) : Progress :=
  (rounds m o limit p).getLast (rounds_ne m o limit p)

theorem lastRound_of_some (h : p.next? m o limit = some p') :
    lastRound m o limit p = lastRound m o limit p' := by
  unfold lastRound
  simp only [rounds_of_some h, List.getLast_cons (rounds_ne m o limit p')]

theorem lastRound_of_none (h : p.next? m o limit = none) : lastRound m o limit p = p := by
  unfold lastRound
  simp only [rounds_of_none h, List.getLast_singleton]

/-- With more fuel than there are characters a run comes to what its last round comes to. -/
theorem run_eq_outcome {fuel : Nat} (h : p.cursor.rest.length < fuel) :
    run m o limit fuel p = (lastRound m o limit p).outcome m o limit := by
  induction fuel generalizing p with
  | zero => exact absurd h (Nat.not_lt_zero _)
  | succ fuel ih =>
    rw [run_succ]
    cases hnext : p.next? m o limit with
    | none =>
      rw [lastRound_of_none hnext]
      rfl
    | some p' =>
      have hshorter := Progress.next?_shorter hnext
      rw [lastRound_of_some hnext, Option.map_some, Option.getD_some]
      exact ih (by omega)

/-! ## Troubles -/

/-- What could not be read in a step, with the state that the step leaves. -/
def Step.trouble? : Step → Option (Progress × Trouble)
  | .stuck q trouble => some (q, trouble)
  | _ => none

/-- The troubles of a parse, in the order in which they are met. -/
def troubles (m : Machine) (o : Origin) (limit : Nat) (p : Progress) : List (Progress × Trouble) :=
  (rounds m o limit p).filterMap fun q => (step m q).trouble?

theorem Step.trouble?_eq_some {s : Step} (h : s.trouble? = some (q, trouble)) :
    s = .stuck q trouble := by
  cases s with
  | stuck => cases h; rfl
  | read | done => cases h

theorem troubles_of_some (h : p.next? m o limit = some p') :
    troubles m o limit p = (step m p).trouble?.toList ++ troubles m o limit p' := by
  unfold troubles
  rw [rounds_of_some h, List.filterMap_cons]
  cases (step m p).trouble? <;> rfl

theorem troubles_of_none (h : p.next? m o limit = none) :
    troubles m o limit p = (step m p).trouble?.toList := by
  unfold troubles
  rw [rounds_of_none h, List.filterMap_cons]
  cases (step m p).trouble? <;> rfl

/-- A trouble after which a parse goes on is not the end of the input, and it began before the place
where the parse goes on. -/
theorem Progress.next?_of_stuck (hstuck : step m p = .stuck q trouble)
    (h : p.next? m o limit = some p') :
    ∃ i, trouble.offset? = some i ∧ p.cursor.place.offset ≤ i ∧ i < p'.cursor.place.offset := by
  have hfrom := step_from m p
  rw [hstuck] at hfrom
  cases round_cases m o limit p with
  | read hstep => cases hstep.symm.trans hstuck
  | done _ hnext | full _ _ hnext | ending _ _ hnext => cases hnext.symm.trans h
  | resumed hstep _ hresume hnext =>
    cases hstep.symm.trans hstuck
    obtain rfl := Option.some.inj (hnext.symm.trans h)
    obtain ⟨n, k, hoffset, hpos, hle, rfl⟩ := resume?_from hfrom hresume
    rw [Cursor.skip_skip, Cursor.skip_offset _ hle]
    rw [Cursor.skip_offset _ (by omega)] at hoffset
    exact ⟨_, hoffset, Nat.le_add_right _ _, by omega⟩

/-- What cannot be read begins where the step does or after it. -/
theorem le_offset_of_stuck (hstuck : step m p = .stuck q trouble) {i : Nat}
    (hi : trouble.offset? = some i) :
    p.cursor.place.offset ≤ i ∧ i < p.cursor.place.offset + p.cursor.rest.length := by
  have hfrom := step_from m p
  rw [hstuck] at hfrom
  cases hfrom with
  | character hlt =>
    obtain rfl := Option.some.inj hi
    rw [Cursor.skip_offset _ (Nat.le_of_lt hlt)]
    omega
  | token hcut =>
    have hpos := hcut.pos
    have hle := hcut.le
    obtain rfl := Option.some.inj hi
    rw [hcut.start, Cursor.skip_offset _ (by omega)]
    omega
  | ending => cases hi

/-- One trouble comes before another: it is not the end of the input, and the other begins after
it. -/
def Precedes (x y : Progress × Trouble) : Prop :=
  ∃ i, x.2.offset? = some i ∧ ∀ j, y.2.offset? = some j → i < j

/-- Every trouble begins after the one before it, and after the end of the input there is none. -/
theorem troubles_pairwise (m : Machine) (o : Origin) (limit : Nat) (p : Progress) :
    (troubles m o limit p).Pairwise Precedes ∧
      ∀ x ∈ troubles m o limit p, ∀ j, x.2.offset? = some j → p.cursor.place.offset ≤ j := by
  induction p using rounds.induct m o limit with
  | case1 p ih =>
    cases htrouble : (step m p).trouble? with
    | none =>
      cases h : p.next? m o limit with
      | none =>
        rw [troubles_of_none h, htrouble]
        exact ⟨.nil, List.forall_mem_nil _⟩
      | some p' =>
        obtain ⟨n, -, hle, hcursor⟩ := Progress.next?_cursor h
        obtain ⟨hpairwise, hbound⟩ := ih p' h
        rw [troubles_of_some h, htrouble]
        refine ⟨hpairwise, fun x hx j hj => Nat.le_trans ?_ (hbound x hx j hj)⟩
        rw [hcursor, Cursor.skip_offset _ hle]
        exact Nat.le_add_right _ _
    | some x =>
      have hstuck := Step.trouble?_eq_some htrouble
      cases h : p.next? m o limit with
      | none =>
        rw [troubles_of_none h, htrouble]
        exact ⟨List.pairwise_singleton _ _, List.forall_mem_singleton.mpr fun j hj =>
          (le_offset_of_stuck hstuck hj).1⟩
      | some p' =>
        obtain ⟨i, hi, hle, hlt⟩ := Progress.next?_of_stuck hstuck h
        obtain ⟨hpairwise, hbound⟩ := ih p' h
        rw [troubles_of_some h, htrouble]
        have hafter : ∀ y ∈ troubles m o limit p', ∀ j, y.2.offset? = some j → i < j :=
          fun y hy j hj => Nat.lt_of_lt_of_le hlt (hbound y hy j hj)
        refine ⟨List.pairwise_cons.mpr ⟨fun y hy => ⟨i, hi, hafter y hy⟩, hpairwise⟩,
          List.forall_mem_cons.mpr ⟨fun j hj => ?_, fun y hy j hj => ?_⟩⟩
        · rwa [← Option.some.inj (hi.symm.trans hj)]
        · exact Nat.le_of_lt (Nat.lt_of_le_of_lt hle (hafter y hy j hj))

theorem mem_of_mem_report {errors : List SyntaxError} {e e' : SyntaxError}
    (h : e ∈ report errors e') : e ∈ errors ∨ e = e' := by
  unfold report at h
  split at h
  · exact .inl h
  · exact (List.mem_cons.mp h).symm

/-- The errors of a parse are those of its troubles, each reported once. -/
theorem outcome_errors (m : Machine) (o : Origin) (limit : Nat) (p : Progress) :
    ((lastRound m o limit p).outcome m o limit).1 =
      (troubles m o limit p).foldl (fun es x => report es (errorFor m o x.1.last x.2))
        p.errors := by
  induction p using rounds.induct m o limit with
  | case1 p ih =>
    cases round_cases m o limit p with
    | read hstep herrors hnext =>
      rw [lastRound_of_some hnext, troubles_of_some hnext, hstep, ih _ hnext, herrors]
      rfl
    | done hstep hnext houtcome | full hstep _ hnext houtcome | ending hstep _ hnext houtcome =>
      rw [lastRound_of_none hnext, troubles_of_none hnext, hstep, houtcome]
      rfl
    | resumed hstep _ _ hnext =>
      rw [lastRound_of_some hnext, troubles_of_some hnext, hstep, ih _ hnext]
      rfl

/-! ## Closing what is open -/

/-- The entry that a stack is accepted with, if it is. -/
def Stack.Outcome.accepted? : Stack.Outcome → Option Entry
  | .accepted e => some e
  | _ => none

/-- The stack with the token that was offered, if it was shifted. -/
def Stack.Outcome.stack? : Stack.Outcome → Option Stack
  | .shifted s => some s
  | _ => none

section Closing

variable (a : Automaton) (extent : Extent)

/-- The closing token of a terminal. -/
def closer (t : Terminal) : Token :=
  ⟨t, closerText t, extent.start, extent.stop⟩

/-- The closing token that is put in next, if one helps, and the stack with it. -/
def closing? (s : Stack) : Option (Token × Stack) :=
  closers.findSome? fun t => (s.shift a (closer extent t)).stack?.map (closer extent t, ·)

/-- The closing tokens that are put in at the end of the input, whether or not they lead to an end
that is accepted, and the stack with them. -/
def closings : Nat → Stack → List Token × Stack
  | 0, s => ([], s)
  | fuel + 1, s =>
    match (s.finish a).accepted?, closing? a extent s with
    | none, some (k, s') => ((closings fuel s').1.cons k, (closings fuel s').2)
    | _, _ => ([], s)

theorem findSome?_closers (s : Stack) :
    (closers.findSome? fun t =>
      match s.shift a ⟨t, closerText t, extent.start, extent.stop⟩ with
      | .shifted s' => some s'
      | _ => none) = (closing? a extent s).map Prod.snd := by
  rw [closing?, List.map_findSome?]
  refine congrArg (closers.findSome? ·) (funext fun t => ?_)
  rw [Function.comp_apply, closer]
  cases s.shift a ⟨t, closerText t, extent.start, extent.stop⟩ <;> rfl

theorem close?_succ (fuel : Nat) (s : Stack) :
    close? a extent (fuel + 1) s =
      (s.finish a).accepted?.or ((closing? a extent s).bind fun x => close? a extent fuel x.2) := by
  rw [close?]
  cases s.finish a with
  | accepted e => rfl
  | shifted | refused =>
    dsimp only
    generalize hshifted : closers.findSome? _ = shifted
    obtain rfl := hshifted.symm.trans (findSome?_closers a extent s)
    cases closing? a extent s <;> rfl

/-- No more closing tokens are put in than allowed, and where it takes fewer, what is open is closed
if the end of the input is accepted after them. -/
theorem close?_eq_closings (fuel : Nat) (s : Stack) :
    (closings a extent fuel s).1.length ≤ fuel ∧
      close? a extent fuel s =
        if (closings a extent fuel s).1.length < fuel
        then ((closings a extent fuel s).2.finish a).accepted? else none := by
  induction fuel generalizing s with
  | zero => exact ⟨Nat.le_refl 0, rfl⟩
  | succ fuel ih =>
    rw [close?_succ, closings]
    cases hentry : (s.finish a).accepted? with
    | some e => exact ⟨Nat.zero_le _, by simp [hentry]⟩
    | none =>
      cases closing? a extent s with
      | none => exact ⟨Nat.zero_le _, by simp [hentry]⟩
      | some x =>
        obtain ⟨hle, hclose⟩ := ih x.2
        refine ⟨Nat.succ_le_succ hle, ?_⟩
        rw [Option.none_or, Option.bind_some, hclose, List.length_cons]
        simp only [Nat.succ_lt_succ_iff]

end Closing

/-! ## Parsing a text -/

/-- The beginning of a parse. -/
def Progress.ofText (text : List Char) : Progress :=
  { stack := [], cursor := .ofText text, last := none, errors := [] }

/-- What a parse comes to: its errors, the last one first, and what was accepted. -/
def result (m : Machine) (o : Origin) (limit : Int) (text : List Char) :
    List SyntaxError × Option Entry :=
  (lastRound m o (max limit 1).toNat (.ofText text)).outcome m o (max limit 1).toNat

theorem parse_eq_result (m : Machine) (o : Origin) (limit : Int) (text : List Char) :
    parse m o limit text =
      ((result m o limit text).1.reverse,
        (result m o limit text).2.bind fun e => (e.trees false).head?) := by
  have hrun : run m o (max limit 1).toNat (text.length + 2) (.ofText text) =
      result m o limit text :=
    run_eq_outcome (show text.length < text.length + 2 by omega)
  rw [← hrun]
  rfl

/-- Recovery makes progress.  After a trouble that is not the end of the input a parse goes on
behind the place where the trouble began, also where it goes back into a stray run.  So the troubles
begin one after the other, the end of the input is met once at most, when there is nothing after
it, and their number is bounded by the length of the text.  At most `maxClosers` tokens are put in
at the end.  What is parsed is what the last round comes to: the parse ends by itself. -/
theorem recovery_progresses (m : Machine) (o : Origin) (limit : Int) (text : List Char) :
    let n := (max limit 1).toNat
    (∀ p ∈ rounds m o n (.ofText text), ∀ q trouble p', step m p = .stuck q trouble →
      p.next? m o n = some p' →
        ∃ i, trouble.offset? = some i ∧ i < p'.cursor.place.offset) ∧
    (troubles m o n (.ofText text)).Pairwise Precedes ∧
    (troubles m o n (.ofText text)).length ≤ text.length + 1 ∧
    (∀ x ∈ troubles m o n (.ofText text), ∀ expected, x.2 = .ending expected →
      (closings m.automaton (lastExtent x.1.last) maxClosers x.1.stack).1.length ≤ 256 ∧
        close? m.automaton (lastExtent x.1.last) maxClosers x.1.stack =
          let (ks, s) := closings m.automaton (lastExtent x.1.last) maxClosers x.1.stack
          if ks.length < 256 then (s.finish m.automaton).accepted? else none) ∧
    parse m o limit text =
      ((result m o limit text).1.reverse,
        (result m o limit text).2.bind fun e => (e.trees false).head?) := by
  refine ⟨fun p _ q trouble p' hstuck hnext => ?_, (troubles_pairwise m o _ _).1, ?_,
    fun x _ _ _ => close?_eq_closings m.automaton _ _ _, parse_eq_result m o limit text⟩
  · obtain ⟨i, hi, -, hlt⟩ := Progress.next?_of_stuck hstuck hnext
    exact ⟨i, hi, hlt⟩
  · exact Nat.le_trans (List.length_filterMap_le _ _) (length_rounds m o _ _)

end Parse
end Wdl
