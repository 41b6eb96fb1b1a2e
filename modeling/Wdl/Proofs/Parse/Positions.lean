import Mathlib.Data.List.Basic
import Mathlib.Data.List.Induction
import Wdl.Language
import Wdl.Proofs.Parse.Rounds

/-!
Positions in a parse with recovery.

A lexer counts lines as it goes.  Where a stray run of text is given back, the counter is made anew
from the coordinates of the run and fed what is skipped of it.  This keeps it true: after any number
of errors every cursor is the one that has moved over the text from its start, `Cursor.Reached`, and
so tokens and errors are reported where they are.
-/

namespace Wdl

/-- The number of characters up to and with the last line end; none if there is no line end. -/
def lineStart (cs : List Char) : Nat :=
  cs.length - cs.reverse.idxOf '\n'

theorem lineStart_append (cs ds : List Char) :
    lineStart (cs ++ ds) = if '\n' ∈ ds then cs.length + lineStart ds else lineStart cs := by
  unfold lineStart
  rw [List.reverse_append, List.length_append]
  split
  · next h =>
    have hlt := List.idxOf_lt_length_of_mem (List.mem_reverse.mpr h)
    rw [List.length_reverse] at hlt
    rw [List.idxOf_append_of_mem (List.mem_reverse.mpr h)]
    omega
  · next h =>
    rw [List.idxOf_append_of_notMem fun h' => h (List.mem_reverse.mp h'), List.length_reverse]
    omega

theorem lineStart_le (cs : List Char) : lineStart cs ≤ cs.length :=
  Nat.sub_le _ _

/-- The counter of a lexer: the number of characters before it, its line and its column, both
counted from one, and the number of characters before its line. -/
structure Counter where
  charPos : Nat
  line : Nat
  column : Nat
  lineStart : Nat
  deriving DecidableEq

namespace Counter

/-- The counter is true of a text: its line is one more than the number of line ends before it, the
line starts after the last of them, and the column is counted from there. -/
structure TrueOf (text : List Char) (c : Counter) : Prop where
  le : c.charPos ≤ text.length
  line : c.line = 1 + (text.take c.charPos).count '\n'
  lineStart : c.lineStart = Wdl.lineStart (text.take c.charPos)
  column : c.column = c.charPos - c.lineStart + 1

/-- There is one true counter at each place. -/
theorem TrueOf.unique {text : List Char} {c d : Counter} (hc : c.TrueOf text) (hd : d.TrueOf text)
    (h : c.charPos = d.charPos) : c = d := by
  have hline := hc.line
  have hstart := hc.lineStart
  have hcolumn := hc.column
  rw [h] at hline hstart hcolumn
  rw [← hd.line] at hline
  rw [← hd.lineStart] at hstart
  rw [hstart, ← hd.column] at hcolumn
  obtain ⟨charPos, line, column, lineStart⟩ := c
  obtain rfl : charPos = d.charPos := h
  obtain rfl : line = d.line := hline
  obtain rfl : column = d.column := hcolumn
  obtain rfl : lineStart = d.lineStart := hstart
  rfl

/-- The counter after some text, as a lexer counts: the lines by the line ends in it, and the start
of the line by the last of them. -/
def feed (c : Counter) (cs : List Char) : Counter :=
  let start := if '\n' ∈ cs then c.charPos + Wdl.lineStart cs else c.lineStart
  ⟨c.charPos + cs.length, c.line + cs.count '\n', c.charPos + cs.length - start + 1, start⟩

/-- A way to advance a counter over text that keeps it true. -/
def Advances (feed : Counter → List Char → Counter) : Prop :=
  ∀ (text : List Char) (c : Counter) (n : Nat), c.TrueOf text → c.charPos + n ≤ text.length →
    (feed c ((text.drop c.charPos).take n)).charPos = c.charPos + n ∧
      (feed c ((text.drop c.charPos).take n)).TrueOf text

theorem feed_advances : Advances feed := by
  intro text c n hc hle
  have hlength : ((text.drop c.charPos).take n).length = n := by
    rw [List.length_take, List.length_drop]
    omega
  have htake : text.take (c.charPos + n) =
      text.take c.charPos ++ (text.drop c.charPos).take n := List.take_add
  have hpos : (c.feed ((text.drop c.charPos).take n)).charPos = c.charPos + n :=
    congrArg (c.charPos + ·) hlength
  refine ⟨hpos, hpos ▸ hle, ?_, ?_, rfl⟩
  · rw [hpos, htake, List.count_append, ← Nat.add_assoc, ← hc.line]
    rfl
  · rw [hpos, htake, lineStart_append, ← hc.lineStart, List.length_take,
      Nat.min_eq_left hc.le]
    rfl

/-- The counter after a stray token: it is made anew from the coordinates of the token, and fed the
text that is skipped. -/
def rewind (feed : Counter → List Char → Counter) (terminals : List Terminal) (t : Token) :
    Counter :=
  let start := t.start
  feed ⟨start.offset, start.line, start.column, start.offset + 1 - start.column⟩
    (t.text.toList.take (Parse.strayLength terminals t.text.toList))

end Counter

namespace Place

/-- The counter at a place. The start of the line is as far before it as the column says. -/
def counter (p : Place) : Counter :=
  ⟨p.offset, p.line, p.column, p.offset + 1 - p.column⟩

/-- A place is true of a text. -/
def TrueOf (text : List Char) (p : Place) : Prop :=
  p.counter.TrueOf text

/-- The place after a whole text. -/
theorem advance_start (cs : List Char) :
    start.advance cs = ⟨cs.length, 1 + cs.count '\n', cs.length - lineStart cs + 1⟩ := by
  induction cs using List.reverseRecOn with
  | nil => rfl
  | append_singleton cs x ih =>
    have hle := lineStart_le cs
    rw [advance_append, ih, lineStart_append, List.length_append, List.count_append]
    show next _ x = _
    unfold next
    by_cases hx : x = '\n'
    · subst hx
      simp [lineStart, Nat.add_assoc]
    · have hne : '\n' ≠ x := Ne.symm hx
      simp [hx, hne]
      omega

theorem advance_trueOf {text : List Char} {n : Nat} (h : n ≤ text.length) :
    (start.advance (text.take n)).TrueOf text := by
  have hlength : (text.take n).length = n := by rw [List.length_take, Nat.min_eq_left h]
  have hle := lineStart_le (text.take n)
  rw [advance_start, hlength]
  rw [hlength] at hle
  refine ⟨h, rfl, ?_, ?_⟩
  · show n + 1 - (n - lineStart (text.take n) + 1) = _
    dsimp only [counter]
    omega
  · show n - lineStart (text.take n) + 1 = n - (n + 1 - (n - lineStart (text.take n) + 1)) + 1
    omega

theorem eq_of_counter_eq {p q : Place} (h : p.counter = q.counter) : p = q := by
  obtain ⟨hoffset, hline, hcolumn, -⟩ := Counter.mk.inj h
  cases p
  cases q
  exact congr (congrArg₂ mk hoffset hline) hcolumn

theorem TrueOf.eq {text : List Char} {p : Place} (h : p.TrueOf text) :
    p = start.advance (text.take p.offset) := by
  have hle : p.offset ≤ text.length := h.le
  refine eq_of_counter_eq (Counter.TrueOf.unique h (advance_trueOf hle) ?_)
  rw [advance_start, counter, counter, List.length_take, Nat.min_eq_left hle]

/-- Moving on keeps a place true. -/
theorem TrueOf.advance {text : List Char} {p : Place} (h : p.TrueOf text) {n : Nat}
    (hn : p.offset + n ≤ text.length) : (p.advance ((text.drop p.offset).take n)).TrueOf text := by
  have hadvance := advance_trueOf hn
  rwa [List.take_add, advance_append, ← h.eq] at hadvance

end Place

namespace Cursor

/-- A cursor that has moved over a text from its start. -/
def Reached (text : List Char) (c : Cursor) : Prop :=
  ∃ n ≤ text.length, c = (Cursor.ofText text).skip n

namespace Reached

variable {text : List Char} {c : Cursor}

theorem ofText (text : List Char) : (Cursor.ofText text).Reached text :=
  ⟨0, Nat.zero_le _, rfl⟩

theorem skip (h : c.Reached text) {n : Nat} (hn : n ≤ c.rest.length) : (c.skip n).Reached text := by
  obtain ⟨i, hi, rfl⟩ := h
  have hrest : (Cursor.ofText text).rest.length = text.length := rfl
  rw [length_rest_skip, hrest] at hn
  exact ⟨i + n, by omega, skip_skip _ i n⟩

theorem trueOf (h : c.Reached text) : c.place.TrueOf text := by
  obtain ⟨i, hi, rfl⟩ := h
  exact Place.advance_trueOf hi

theorem rest (h : c.Reached text) : c.rest = text.drop c.place.offset := by
  obtain ⟨i, hi, rfl⟩ := h
  rw [skip_offset _ hi]
  exact congrArg (text.drop ·) (Nat.zero_add i).symm

end Reached
end Cursor

namespace Parse

variable {m : Machine} {o : Origin} {limit : Nat} {text : List Char} {p q : Progress}
  {trouble : Trouble}

theorem rounds_reached (h : p.cursor.Reached text) :
    ∀ q ∈ rounds m o limit p, q.cursor.Reached text :=
  forall_rounds h fun _ _ hq hnext => by
    obtain ⟨n, -, hle, hcursor⟩ := Progress.next?_cursor hnext
    rw [hcursor]
    exact hq.skip hle

/-- The token that a step finds, whether it can be read or not. -/
def Step.token? : Step → Option Token
  | .read q => q.last
  | .stuck _ (.token t _ _) => some t
  | _ => none

/-- What begins at a place of a text: a character or a token. -/
def Trouble.text? : Trouble → Option (List Char)
  | .character x _ => some [x]
  | .token t _ _ => some t.text.toList
  | .ending _ => none

/-- A token that is cut from a text stands where it says. -/
theorem trueOf_of_cut {c after : Cursor} {t : Token} {n k : Nat} (hc : c.Reached text)
    (h : t.Cut c after n k) :
    t.start.TrueOf text ∧ t.text.toList <+: text.drop t.start.offset := by
  have hle := h.le
  have hreached := hc.skip (n := n) (by omega)
  rw [h.start, h.text, ← hreached.rest]
  exact ⟨hreached.trueOf, List.take_prefix k _⟩

theorem token?_trueOf (hc : p.cursor.Reached text) {t : Token}
    (ht : (step m p).token? = some t) :
    t.start.TrueOf text ∧ t.text.toList <+: text.drop t.start.offset := by
  have hfrom := step_from m p
  generalize step m p = s at hfrom ht
  cases hfrom with
  | read hcut hlast =>
    obtain rfl := Option.some.inj (hlast.symm.trans ht)
    exact trueOf_of_cut hc hcut
  | token hcut =>
    obtain rfl := Option.some.inj ht
    exact trueOf_of_cut hc hcut
  | done | character | ending => cases ht

/-- What could not be read begins at a place that is true, with what the trouble names. -/
theorem place_of_stuck (hc : p.cursor.Reached text) (hstuck : step m p = .stuck q trouble) {i : Nat}
    (hi : trouble.offset? = some i) :
    i < text.length ∧ (trouble.place q.last).offset = i ∧ (trouble.place q.last).TrueOf text ∧
      ∃ cs, trouble.text? = some cs ∧ cs <+: text.drop i := by
  have hfrom := step_from m p
  rw [hstuck] at hfrom
  have hbound : i < text.length := by
    obtain ⟨hle, hlt⟩ := le_offset_of_stuck hstuck hi
    rw [hc.rest, List.length_drop] at hlt
    omega
  cases hfrom with
  | @character _ x n rest hlt _ hrest =>
    obtain rfl := Option.some.inj hi
    have hreached := hc.skip (Nat.le_of_lt hlt)
    refine ⟨hbound, rfl, hreached.trueOf, [x], rfl, ?_⟩
    rw [← hreached.rest, hrest]
    exact List.prefix_append [x] rest
  | token hcut =>
    obtain rfl := Option.some.inj hi
    obtain ⟨htrue, htext⟩ := trueOf_of_cut hc hcut
    exact ⟨hbound, rfl, htrue, _, rfl, htext⟩
  | ending => cases hi

/-- Every recorded error is that of a trouble. -/
theorem exists_trouble_of_error {e : SyntaxError} {limit : Int}
    (he : e ∈ (parse m o limit text).1) :
    ∃ x ∈ troubles m o (max limit 1).toNat (.ofText text), e = errorFor m o x.1.last x.2 := by
  have hfold (xs : List (Progress × Trouble)) (es : List SyntaxError)
      (he : e ∈ xs.foldl (fun es x => report es (errorFor m o x.1.last x.2)) es) :
      e ∈ es ∨ ∃ x ∈ xs, e = errorFor m o x.1.last x.2 := by
    induction xs generalizing es with
    | nil => exact .inl he
    | cons x xs ih =>
      rcases ih _ he with hmem | ⟨y, hy, heq⟩
      · rcases mem_of_mem_report hmem with hmem | rfl
        · exact .inl hmem
        · exact .inr ⟨x, List.mem_cons_self, rfl⟩
      · exact .inr ⟨y, List.mem_cons_of_mem x hy, heq⟩
  rw [parse_eq_result] at he
  have herrors := List.mem_reverse.mp he
  rw [result, outcome_errors] at herrors
  exact (hfold _ _ herrors).resolve_left List.not_mem_nil

theorem errorFor_trueOf {last : Option Token} {i : Nat}
    (hoffset : (trouble.place last).offset = i) (h : (trouble.place last).TrueOf text) :
    (errorFor m o last trouble).line = 1 + (text.take i).count '\n' ∧
      (errorFor m o last trouble).column = i - lineStart (text.take i) := by
  obtain rfl := hoffset
  have hcolumn := h.column
  rw [h.lineStart] at hcolumn
  exact ⟨h.line, congrArg (· - 1) hcolumn⟩

/-- The counter is true after a stray token has been given back, and it is where reading goes on. -/
theorem rewind_trueOf {feed : Counter → List Char → Counter} (hfeed : Counter.Advances feed)
    {terminals : List Terminal} {t : Token} {rest : List Char}
    (htext : t.text.toList ++ rest = text.drop t.start.offset) (htrue : t.start.TrueOf text) :
    (Counter.rewind feed terminals t).TrueOf text ∧
      Place.counter (Cursor.skip ⟨t.start, t.text.toList ++ rest⟩
        (strayLength terminals t.text.toList)).place = Counter.rewind feed terminals t := by
  have hle := strayLength_le terminals t.text.toList
  have hlength := congrArg List.length htext
  rw [List.length_append, List.length_drop] at hlength
  have hoffset : t.start.offset ≤ text.length := htrue.le
  generalize hn : strayLength terminals t.text.toList = n at hle
  have htake : t.text.toList.take n = (text.drop t.start.offset).take n := by
    rw [← htext, List.take_append_of_le_length hle]
  obtain ⟨hpos, hfed⟩ := hfeed text t.start.counter n htrue
    (show t.start.offset + n ≤ text.length by omega)
  have hrewind : Counter.rewind feed terminals t =
      feed t.start.counter ((text.drop t.start.offset).take n) := by
    rw [Counter.rewind, hn, htake]
    rfl
  have hcursor := htrue.advance (n := n) (by omega)
  rw [hrewind, htext]
  refine ⟨hfed, Counter.TrueOf.unique hcursor hfed (Eq.trans ?_ hpos.symm)⟩
  show (t.start.advance _).offset = _
  rw [Place.advance_offset, List.length_take, List.length_drop, Nat.min_eq_left (by omega)]
  rfl

/-- Positions stay true through recovery.  Wherever a lexer keeps its counter true as it goes on,
it is true after a stray token with true coordinates has been given back, and it is the place where
the parse goes on.  So the cursor is true in every round of a parse, after any number of errors; and
so is every token that is found, and every error but one at the end of the input: its line and its
column are those of the first character of what could not be read. -/
theorem positions_true {feed : Counter → List Char → Counter} (hfeed : Counter.Advances feed)
    (m : Machine) (o : Origin) (limit : Int) (text : List Char) :
    let n := (max limit 1).toNat
    (∀ (t : Token) (after : Cursor), t.text.toList ++ after.rest = text.drop t.start.offset →
      t.start.TrueOf text →
        (Counter.rewind feed m.terminals t).TrueOf text ∧
        Place.counter (Cursor.skip ⟨t.start, t.text.toList ++ after.rest⟩
          (strayLength m.terminals t.text.toList)).place = Counter.rewind feed m.terminals t) ∧
    (∀ p ∈ rounds m o n (.ofText text), p.cursor.place.TrueOf text ∧
      ∀ t, (step m p).token? = some t →
        t.start.TrueOf text ∧ t.text.toList <+: text.drop t.start.offset) ∧
    ∀ e ∈ (parse m o limit text).1, ∃ x ∈ troubles m o n (.ofText text),
      e = errorFor m o x.1.last x.2 ∧
      ∀ i, x.2.offset? = some i →
        i < text.length ∧ (∃ cs, x.2.text? = some cs ∧ cs <+: text.drop i) ∧
        e.line = 1 + (text.take i).count '\n' ∧ e.column = i - lineStart (text.take i) := by
  refine ⟨fun t after htext htrue => rewind_trueOf hfeed htext htrue, fun p hp => ?_,
    fun e he => ?_⟩
  · have hreached := rounds_reached (Cursor.Reached.ofText text) p hp
    exact ⟨hreached.trueOf, fun t ht => token?_trueOf hreached ht⟩
  · obtain ⟨x, hx, rfl⟩ := exists_trouble_of_error he
    refine ⟨x, hx, rfl, fun i hi => ?_⟩
    obtain ⟨p, hp, htrouble⟩ := List.mem_filterMap.mp hx
    obtain ⟨hlt, hoffset, htrue, htext⟩ := place_of_stuck
      (rounds_reached (Cursor.Reached.ofText text) p hp) (Step.trouble?_eq_some htrouble) hi
    exact ⟨hlt, htext, errorFor_trueOf hoffset htrue⟩

/-- A stray run that begins with two line ends, in the second line of a text: both are skipped, and
reading goes on at the start of the fourth line. -/
theorem positions_true_blank_lines :
    let t : Token := ⟨.doubleFragment, "\n\n#b", ⟨3, 2, 2⟩, ⟨7, 4, 3⟩⟩
    Counter.Advances Counter.feed ∧
      Counter.rewind Counter.feed Terminal.all t = ⟨5, 4, 1, 5⟩ ∧
      (Counter.rewind Counter.feed Terminal.all t).TrueOf "a\n?\n\n#b\n".toList :=
  ⟨Counter.feed_advances, by decide +kernel,
    ((positions_true Counter.feed_advances Language.documents ⟨"", ""⟩ 100
      "a\n?\n\n#b\n".toList).1 ⟨.doubleFragment, "\n\n#b", ⟨3, 2, 2⟩, ⟨7, 4, 3⟩⟩
      ⟨⟨7, 4, 3⟩, ['\n']⟩ (by decide) ⟨by decide, by decide, by decide, by decide⟩).1⟩

end Parse
end Wdl
