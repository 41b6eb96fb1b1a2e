import Wdl.Proofs.Grammar.Derivation

/-!
Tokens and the text that they come from.

`Terminal.match?_bounds` says that a text of a terminal is not empty and is a part of what is there.
From it, `Scanner.scan_token` says what a scanner finds: a token with a proper text, which lies in
the text at the place that the token names and not before the cursor.
-/

namespace Wdl
namespace Lexer

/-! ## Lengths -/

theorem countWhile_le (p : Char → Bool) (cs : List Char) : countWhile p cs ≤ cs.length := by
  induction cs with
  | nil => exact Nat.le_refl 0
  | cons c cs ih =>
    unfold countWhile
    rw [List.length_cons]
    split <;> omega

theorem positive_eq_some {n m : Nat} (h : positive n = some m) : m = n ∧ 0 < n := by
  unfold positive at h
  split at h
  · exact nomatch h
  · rename_i hne
    exact ⟨(Option.some.inj h).symm, Nat.pos_of_ne_zero fun h0 => hne (beq_iff_eq.mpr h0)⟩

/-- A length that is positive and not more than there is. -/
def Fits (cs : List Char) (n? : Option Nat) : Prop :=
  ∀ n, n? = some n → 0 < n ∧ n ≤ cs.length

theorem fits_none (cs : List Char) : Fits cs none := fun _ h => nomatch h

theorem fits_some {cs : List Char} {n : Nat} (hpos : 0 < n) (hle : n ≤ cs.length) :
    Fits cs (some n) := by
  intro m hm
  rw [← Option.some.inj hm]
  exact ⟨hpos, hle⟩

theorem fits_positive {cs : List Char} {n : Nat} (h : n ≤ cs.length) : Fits cs (positive n) := by
  intro m hm
  obtain ⟨rfl, hpos⟩ := positive_eq_some hm
  exact ⟨hpos, h⟩

/-- A length after `k` characters that have been read. -/
theorem fits_map_add {cs ds : List Char} {n? : Option Nat} {k : Nat} (h : Fits ds n?)
    (hlen : ds.length + k ≤ cs.length) : Fits cs (n?.map (· + k)) := by
  intro m hm
  obtain ⟨n, hn, rfl⟩ := Option.map_eq_some_iff.mp hm
  obtain ⟨hpos, hle⟩ := h n hn
  exact ⟨Nat.add_pos_left hpos k, by omega⟩

theorem digits?_fits (cs : List Char) : Fits cs (digits? cs) :=
  fits_positive (countWhile_le isDigit cs)

theorem exponent?_fits (cs : List Char) : Fits cs (exponent? cs) := by
  unfold exponent?
  split
  · exact fits_none _
  · rename_i c cs
    split
    · split
      · exact fits_map_add (digits?_fits _) (by simp)
      · exact fits_map_add (digits?_fits _) (by simp)
      · exact fits_map_add (digits?_fits _) (by simp)
    · exact fits_none _

theorem pointed?_fits (cs : List Char) : Fits cs (pointed? cs) := by
  unfold pointed?
  dsimp only
  split
  · rename_i rest hrest
    split
    · exact fits_none _
    · have hlen : rest.length + 1 + countWhile isDigit cs ≤ cs.length := by
        have := congrArg List.length hrest
        have := countWhile_le isDigit cs
        simp only [List.length_drop, List.length_cons] at *
        omega
      have hexponent : (exponent? (rest.drop (countWhile isDigit rest))).getD 0 ≤
          rest.length - countWhile isDigit rest := by
        cases he : exponent? (rest.drop (countWhile isDigit rest)) with
        | none => exact Nat.zero_le _
        | some n =>
          have := (exponent?_fits _ n he).2
          rwa [List.length_drop] at this
      have := countWhile_le isDigit rest
      exact fits_some (by omega) (by omega)
  · exact fits_none _

theorem float?_fits (cs : List Char) : Fits cs (float? cs) := by
  unfold float?
  dsimp only
  intro n hn
  rcases Option.or_eq_some_iff.mp hn with hplain | ⟨-, hpointed⟩
  · split at hplain
    · exact nomatch hplain
    · rename_i hwhole
      obtain ⟨m, hm, rfl⟩ := Option.map_eq_some_iff.mp hplain
      have hm := exponent?_fits _ m hm
      rw [List.length_drop] at hm
      have := countWhile_le isDigit cs
      omega
  · exact pointed?_fits cs n hpointed

theorem signed?_fits {form : List Char → Option Nat} (h : ∀ cs, Fits cs (form cs))
    (cs : List Char) : Fits cs (signed? form cs) := by
  unfold signed?
  split
  · exact fits_map_add (h _) (by simp)
  · exact fits_map_add (h _) (by simp)
  · exact h cs

theorem doubleTail?_fits (cs : List Char) : Fits cs (doubleTail? cs) := by
  fun_induction doubleTail? cs with
  | case1 => exact fits_none _
  | case2 c h => exact fits_some (by decide) (by simp)
  | case3 c h => exact fits_none _
  | case4 c d cs h => exact fits_some (by decide) (by simp)
  | case5 c d cs => exact fits_none _
  | case6 c d cs => exact fits_none _
  | case7 c d cs _ _ _ _ ih => exact fits_map_add ih (by simp)
  | case8 c d cs _ _ _ ih => exact fits_map_add ih (by simp)

/-- The length includes what has been read before, and so does the one to fall back on. -/
theorem singleTail?_fits {all cs : List Char} {n : Nat} {last : Option Nat}
    (hn : n + cs.length = all.length) (hlast : Fits all last) :
    Fits all (singleTail? n last cs) := by
  fun_induction singleTail? n last cs with
  | case1 => exact hlast
  | case2 => exact fits_some (by omega) (by simp at hn; omega)
  | case3 => exact hlast
  | case4 n last c d cs h ih => exact ih (by simp at hn; omega) hlast
  | case5 n last c d cs _ h ih =>
    simp only [List.length_cons] at hn
    exact ih (by omega) (fits_some (by omega) (by omega))
  | case6 => exact fits_some (by omega) (by simp at hn; omega)
  | case7 n last c d cs _ _ _ ih => exact ih (by simp at hn ⊢; omega) hlast

theorem newlines_le (cs : List Char) : newlines cs ≤ cs.length := by
  fun_induction newlines cs <;> simp_all

theorem stringRun_le (quote : Char) (cs : List Char) : stringRun quote cs ≤ cs.length := by
  fun_induction stringRun quote cs <;> simp_all

theorem braceRun_le (cs : List Char) : braceRun cs ≤ cs.length := by
  fun_induction braceRun cs <;> simp_all

theorem heredocRun_le (cs : List Char) : heredocRun cs ≤ cs.length := by
  fun_induction heredocRun cs <;> simp_all

theorem comment?_fits (cs : List Char) : Fits cs (comment? cs) := by
  unfold comment?
  dsimp only
  split
  · rename_i rest hrest
    have hlen := congrArg List.length hrest
    have := countWhile_le (fun c => c == ' ' || c == '\t') cs
    have := countWhile_le (fun c => c != '\r' && c != '\n') rest
    simp only [List.length_drop, List.length_cons] at hlen
    exact fits_some (by omega) (by omega)
  · exact fits_none _

/-- A fixed text has its own length and stands at the front. -/
theorem fixed?_eq_some {ws cs : List Char} {n : Nat} :
    fixed? ws cs = some n ↔ n = ws.length ∧ ws <+: cs := by
  fun_induction fixed? ws cs generalizing n with
  | case1 cs => simp [eq_comm]
  | case2 w ws c cs h ih =>
    rw [Option.map_eq_some_iff, List.cons_prefix_cons, List.length_cons, eq_of_beq h]
    constructor
    · rintro ⟨m, hm, rfl⟩
      obtain ⟨rfl, hprefix⟩ := ih.mp hm
      exact ⟨rfl, rfl, hprefix⟩
    · rintro ⟨rfl, -, hprefix⟩
      exact ⟨_, ih.mpr ⟨rfl, hprefix⟩, rfl⟩
  | case3 w ws c cs h =>
    simp only [List.cons_prefix_cons, reduceCtorEq, false_iff, not_and]
    rintro - rfl
    exact absurd (beq_self_eq_true _) h
  | case4 w ws => simp

theorem fixed?_fits (ws cs : List Char) : Fits cs (positive ((fixed? ws cs).getD 0)) := by
  refine fits_positive ?_
  cases h : fixed? ws cs with
  | none => exact Nat.zero_le _
  | some n =>
    obtain ⟨rfl, hprefix⟩ := fixed?_eq_some.mp h
    exact hprefix.length_le

end Lexer

namespace Terminal

open Lexer

theorem match?_of_literal {t : Terminal} {text : String} (h : t.literal? = some text)
    (cs : List Char) : t.match? cs = positive ((fixed? text.toList cs).getD 0) := by
  cases t <;> cases h <;> rfl

/-- A text of a terminal is not empty and is a part of what is there. -/
theorem match?_bounds (t : Terminal) (cs : List Char) : Fits cs (t.match? cs) := by
  cases hliteral : t.literal? with
  | some text =>
    rw [match?_of_literal hliteral]
    exact fixed?_fits text.toList cs
  | none =>
    -- what is left are the classes of texts
    cases t <;> simp only [literal?, reduceCtorEq] at hliteral <;> simp only [match?]
    case int => exact digits?_fits cs
    case signedInt => exact signed?_fits digits?_fits cs
    case float => exact float?_fits cs
    case signedFloat => exact signed?_fits float?_fits cs
    case doubleQuotedText =>
      split
      · split
        · exact fits_map_add (doubleTail?_fits _) (by simp)
        · exact fits_none _
      · exact fits_none _
    case singleQuotedText =>
      split
      · split
        · exact singleTail?_fits (by simp; omega) (fits_none _)
        · exact fits_none _
      · exact fits_none _
    case newline => exact fits_positive (newlines_le cs)
    case versionNumber => exact fits_positive (countWhile_le _ cs)
    case placeholderOpen =>
      split
      · split
        · exact fits_some (by decide) (by simp)
        · exact fits_none _
      · exact fits_none _
    case singleFragment => exact fits_positive (stringRun_le _ cs)
    case doubleFragment => exact fits_positive (stringRun_le _ cs)
    case braceFragment => exact fits_positive (braceRun_le cs)
    case heredocFragment => exact fits_positive (heredocRun_le cs)
    case name =>
      split
      · split
        · exact fits_some (Nat.succ_pos _) (Nat.succ_le_succ (countWhile_le _ _))
        · exact fits_none _
      · exact fits_none _
    case space => exact fits_positive (countWhile_le _ cs)
    case comment => exact comment?_fits cs
    all_goals
      split
      · split
        · exact fits_some (by decide) (by simp)
        · exact fits_none _
      · exact fits_none _

end Terminal

/-! ## Line ends

What stands in a document ends with a brace, a name or a quoted text, none of which ends in a line
end.  So the line end that is put after a text is never a part of it. -/

namespace Lexer

theorem countWhile_holds {p : Char → Bool} {cs : List Char} {i : Nat} (h : i < countWhile p cs) :
    ∃ c, cs[i]? = some c ∧ p c = true := by
  induction cs generalizing i with
  | nil => exact absurd h (Nat.not_lt_zero i)
  | cons c cs ih =>
    unfold countWhile at h
    split at h
    · rename_i hc
      cases i with
      | zero => exact ⟨c, rfl, hc⟩
      | succ i => exact ih (Nat.lt_of_succ_lt_succ h)
    · exact absurd h (Nat.not_lt_zero i)

theorem doubleTail?_last {cs : List Char} {n : Nat} (h : doubleTail? cs = some n) :
    cs[n - 1]? = some Text.doubleQuote := by
  fun_induction doubleTail? cs generalizing n with
  | case1 => exact nomatch h
  | case2 c hc =>
    rw [← Option.some.inj h, eq_of_beq hc]
    rfl
  | case3 => exact nomatch h
  | case4 c d cs hc =>
    rw [← Option.some.inj h, eq_of_beq hc]
    rfl
  | case5 => exact nomatch h
  | case6 => exact nomatch h
  | case7 c d cs _ _ _ _ ih =>
    obtain ⟨m, hm, rfl⟩ := Option.map_eq_some_iff.mp h
    obtain ⟨k, rfl⟩ := Nat.exists_eq_add_of_lt (doubleTail?_fits cs m hm).1
    have := ih hm
    simpa using this
  | case8 c d cs _ _ _ ih =>
    obtain ⟨m, hm, rfl⟩ := Option.map_eq_some_iff.mp h
    obtain ⟨k, rfl⟩ := Nat.exists_eq_add_of_lt (doubleTail?_fits (d :: cs) m hm).1
    have := ih hm
    simpa using this

theorem singleTail?_last (before : List Char) {cs : List Char} {n m : Nat} {last : Option Nat}
    (hn : before.length = n)
    (hlast : ∀ l, last = some l → (before ++ cs)[l - 1]? = some Text.singleQuote)
    (h : singleTail? n last cs = some m) :
    (before ++ cs)[m - 1]? = some Text.singleQuote := by
  fun_induction singleTail? n last cs generalizing before with
  | case1 => exact hlast m h
  | case2 n last c hc =>
    rw [← Option.some.inj h, ← hn, eq_of_beq hc]
    simp
  | case3 => exact hlast m h
  | case4 n last c d cs hc ih =>
    have := ih (before ++ [c, d]) (by simp [hn]) (by simpa using hlast) h
    simpa using this
  | case5 n last c d cs _ hc ih =>
    simp only [Bool.and_eq_true, beq_iff_eq] at hc
    have := ih (before ++ [c, d]) (by simp [hn]) (by simp [← hn, hc.2]) h
    simpa using this
  | case6 n last c d cs _ _ hc =>
    rw [← Option.some.inj h, ← hn, eq_of_beq hc]
    simp
  | case7 n last c d cs _ _ _ ih =>
    have := ih (before ++ [c]) (by simp [hn]) (by simpa using hlast) h
    simpa using this

end Lexer

namespace Terminal

open Lexer

/-- The terminals that end what stands in a document. -/
def isClosing : Terminal → Bool
  | .rbrace | .name | .doubleQuotedText | .singleQuotedText | .versionNumber => true
  | _ => false

theorem isClosing_last {t : Terminal} (ht : t.isClosing = true) {cs : List Char} {n : Nat}
    (h : t.match? cs = some n) : cs[n - 1]? ≠ some '\n' := by
  cases t <;> simp only [isClosing, Bool.false_eq_true] at ht
  case rbrace =>
    rw [match?_of_literal rfl] at h
    obtain ⟨hn, hpos⟩ := positive_eq_some h
    cases hfixed : fixed? "\x7d".toList cs with
    | none =>
      rw [hfixed] at hpos
      exact absurd hpos (Nat.lt_irrefl 0)
    | some m =>
      obtain ⟨rfl, rest, rfl⟩ := fixed?_eq_some.mp hfixed
      rw [hn, hfixed]
      show some '\x7d' ≠ some '\n'
      decide
  case name =>
    unfold match? at h
    dsimp only at h
    split at h
    · rename_i c rest
      split at h
      · rename_i hletter
        rw [← Option.some.inj h, Nat.add_sub_cancel]
        intro hlast
        cases hk : countWhile isNameChar rest with
        | zero =>
          rw [hk] at hlast
          rw [show c = '\n' from Option.some.inj hlast] at hletter
          exact absurd hletter (by decide)
        | succ k =>
          have hlt : k < countWhile isNameChar rest := by
            rw [hk]
            exact Nat.lt_succ_self k
          obtain ⟨d, hd, hname⟩ := countWhile_holds hlt
          rw [hk, List.getElem?_cons_succ, hd] at hlast
          rw [Option.some.inj hlast] at hname
          exact absurd hname (by decide)
      · exact nomatch h
    · exact nomatch h
  case versionNumber =>
    unfold match? at h
    obtain ⟨rfl, hpos⟩ := positive_eq_some h
    obtain ⟨k, hk⟩ := Nat.exists_eq_succ_of_ne_zero (Nat.ne_of_gt hpos)
    intro hlast
    rw [hk, Nat.succ_sub_one] at hlast
    obtain ⟨d, hd, hvisible⟩ := countWhile_holds (show k < countWhile _ cs by
      rw [hk]
      exact Nat.lt_succ_self k)
    rw [hd] at hlast
    rw [Option.some.inj hlast] at hvisible
    exact absurd hvisible (by decide)
  case doubleQuotedText =>
    unfold match? at h
    dsimp only at h
    split at h
    · rename_i c rest
      split at h
      · obtain ⟨m, hm, rfl⟩ := Option.map_eq_some_iff.mp h
        obtain ⟨k, rfl⟩ := Nat.exists_eq_add_of_lt (doubleTail?_fits rest m hm).1
        have hlast := doubleTail?_last hm
        simp only [Nat.zero_add, Nat.add_sub_cancel] at hlast ⊢
        rw [List.getElem?_cons_succ, hlast]
        decide
      · exact nomatch h
    · exact nomatch h
  case singleQuotedText =>
    unfold match? at h
    dsimp only at h
    split at h
    · rename_i c rest
      split at h
      · have hlast := singleTail?_last [c] rfl (by simp) h
        rw [List.singleton_append] at hlast
        rw [hlast]
        decide
      · exact nomatch h
    · exact nomatch h

end Terminal

/-! ## Scanning -/

@[simp] theorem Place.advance_offset (p : Place) (cs : List Char) :
    (p.advance cs).offset = p.offset + cs.length := by
  induction cs generalizing p with
  | nil => rfl
  | cons c cs ih =>
    rw [advance, List.foldl_cons, ← advance, ih, List.length_cons]
    unfold next
    split <;> simp only <;> omega

/-- A cursor that is somewhere in a text. -/
structure Cursor.At (text : List Char) (c : Cursor) : Prop where
  le : c.place.offset ≤ text.length
  rest : c.rest = text.drop c.place.offset

theorem Cursor.ofText_at (text : List Char) : (Cursor.ofText text).At text :=
  ⟨Nat.zero_le _, rfl⟩

theorem Cursor.At.skip {text : List Char} {c : Cursor} (h : c.At text) (n : Nat) :
    (c.skip n).At text := by
  have hlen : c.rest.length = text.length - c.place.offset := by rw [h.rest, List.length_drop]
  have hle := h.le
  refine ⟨?_, ?_⟩
  · simp only [Cursor.skip, Place.advance_offset, List.length_take]
    omega
  · simp only [Cursor.skip, Place.advance_offset, List.length_take, h.rest, List.drop_drop,
      List.length_drop]
    rcases Nat.le_total n (text.length - c.place.offset) with hn | hn
    · rw [Nat.min_eq_left hn]
    · rw [Nat.min_eq_right hn, List.drop_eq_nil_of_le (by omega), List.drop_eq_nil_of_le (by omega)]

/-- A token that is somewhere in a text: it is not empty, its text is what is there, and its
terminal is one of that text. -/
structure Token.Within (text : List Char) (k : Token) : Prop where
  start_lt : k.start.offset < k.stop.offset
  stop_le : k.stop.offset ≤ text.length
  text_eq : k.text.toList = (text.drop k.start.offset).take (k.stop.offset - k.start.offset)
  proper : k.Proper

/-- A token that ends what stands in a document is not cut short by a line end after it. -/
theorem Token.Within.stop_le_of_isClosing {cs : List Char} {k : Token}
    (h : k.Within (cs ++ ['\n'])) (hk : k.terminal.isClosing = true) :
    k.stop.offset ≤ cs.length := by
  obtain ⟨rest, hmatch⟩ := h.proper
  have hlast := Terminal.isClosing_last hk hmatch
  have hlt := h.start_lt
  have hle := h.stop_le
  rw [List.length_append, List.length_singleton] at hle
  refine Nat.le_of_not_lt fun hgt => hlast ?_
  have hlen : k.text.toList.length = k.stop.offset - k.start.offset := by
    rw [h.text_eq, List.length_take, List.length_drop, List.length_append, List.length_singleton]
    omega
  rw [List.getElem?_append_left (by omega), hlen, h.text_eq, List.getElem?_take_of_lt (by omega),
    List.getElem?_drop, show k.start.offset + (k.stop.offset - k.start.offset - 1) = cs.length by
      omega]
  exact List.getElem?_concat_length

namespace Scanner

theorem firstMatch?_match? {cs : List Char} {ts : List Terminal} {t : Terminal} {n : Nat}
    (h : firstMatch? cs ts = some (t, n)) : t.match? cs = some n := by
  induction ts with
  | nil => exact nomatch h
  | cons u us ih =>
    unfold firstMatch? at h
    split at h
    · rename_i m hm
      obtain ⟨rfl, rfl⟩ := Prod.mk.inj (Option.some.inj h)
      exact hm
    · exact ih h

/-- A fixed text that takes the place of a class is the text that was found. -/
theorem named_proper (s : Scanner) {cls : Terminal} {cs : List Char} {n : Nat}
    (h : cls.match? cs = some n) {text : String} (htext : text.toList = cs.take n) :
    (s.named cls text).match? cs = some n := by
  unfold named
  cases hfound : s.covered.find? fun t => t.literal? == some text && cls.covers t with
  | none => exact h
  | some t =>
    have hliteral := List.find?_some hfound
    simp only [Bool.and_eq_true, beq_iff_eq] at hliteral
    obtain ⟨hpos, hle⟩ := cls.match?_bounds cs n h
    have hlen : text.toList.length = n := by rw [htext, List.length_take, Nat.min_eq_left hle]
    have hfixed : Lexer.fixed? text.toList cs = some n :=
      Lexer.fixed?_eq_some.mpr ⟨hlen.symm, htext ▸ List.take_prefix n cs⟩
    rw [Option.getD_some, Terminal.match?_of_literal hliteral.1, hfixed, Option.getD_some,
      Lexer.positive, if_neg (by simpa using Nat.ne_of_gt hpos)]

theorem token_within {text : List Char} {c : Cursor} (hc : c.At text) {t : Terminal} {n : Nat}
    (h : t.match? c.rest = some n) : (c.token t n).Within text := by
  obtain ⟨hpos, hle⟩ := t.match?_bounds c.rest n h
  have hlen : (c.rest.take n).length = n := by rw [List.length_take, Nat.min_eq_left hle]
  have hrest : c.rest.length = text.length - c.place.offset := by rw [hc.rest, List.length_drop]
  have hstop : (c.token t n).stop.offset = c.place.offset + n := by
    rw [Cursor.token, Place.advance_offset, hlen]
  refine ⟨?_, ?_, ?_, ?_⟩
  · rw [hstop]
    exact Nat.lt_add_of_pos_right hpos
  · rw [hstop]
    omega
  · rw [hstop]
    simp only [Cursor.token, String.toList_ofList, ← hc.rest, Nat.add_sub_cancel_left]
  · refine ⟨c.rest.drop n, ?_⟩
    simp only [Cursor.token, String.toList_ofList, List.take_append_drop, hlen]
    exact h

theorem next_token {text : List Char} {s : Scanner} {fuel : Nat} {c after : Cursor} {k : Token}
    (hc : c.At text) (h : s.next fuel c = .token k after) :
    after.At text ∧ after.place = k.stop ∧ c.place.offset ≤ k.start.offset ∧ k.Within text := by
  induction fuel generalizing c with
  | zero => exact nomatch h
  | succ fuel ih =>
    unfold next at h
    split at h
    · exact nomatch h
    · split at h
      · exact nomatch h
      · rename_i cls n hfirst
        split at h
        · obtain ⟨hat, hplace, hle, hwithin⟩ := ih (hc.skip n) h
          refine ⟨hat, hplace, Nat.le_trans ?_ hle, hwithin⟩
          rw [Cursor.skip, Place.advance_offset]
          exact Nat.le_add_right _ _
        · obtain ⟨rfl, rfl⟩ := Finding.token.inj h
          refine ⟨hc.skip n, rfl, Nat.le_refl _, token_within hc ?_⟩
          exact named_proper s (firstMatch?_match? hfirst) String.toList_ofList

/-- What a scanner finds lies in the text, after the cursor. -/
theorem scan_token {text : List Char} {s : Scanner} {c after : Cursor} {k : Token}
    (hc : c.At text) (h : s.scan c = .token k after) :
    after.At text ∧ after.place = k.stop ∧ c.place.offset ≤ k.start.offset ∧ k.Within text :=
  next_token hc h

end Scanner
end Wdl
