import Wdl.Proofs.Lexer.Tokens
import Wdl.Proofs.Grammar.Fragments

/-!
What a scanner passes over.

Between two tokens there is only ignored text.  There is nothing at all where a run of text of a
command is tried, since it begins with any character that ignored text begins with and is tried
first; and nothing after such a run, since it goes on as far as it can.
-/

namespace Wdl

/-- `rest` is what is left of `cs` after some ignored text. -/
inductive Passes : List Char → List Char → Prop
  | refl (cs : List Char) : Passes cs cs
  | skip {t : Terminal} {n : Nat} {cs rest : List Char} : t.isIgnored = true →
      t.match? cs = some n → Passes (cs.drop n) rest → Passes cs rest

/-- A text that no ignored text begins. -/
def Bound (cs : List Char) : Prop :=
  ∀ t : Terminal, t.isIgnored = true → t.match? cs = none

/-- The characters that ignored text begins with. -/
def isBlankStart (c : Char) : Bool :=
  c == ' ' || c == '\t' || c == '\n' || c == '\r' || c == '#'

open Lexer

theorem countWhile_pos {p : Char → Bool} {cs : List Char} (h : 0 < countWhile p cs) :
    ∃ c rest, cs = c :: rest ∧ p c = true := by
  cases cs with
  | nil => exact absurd h (Nat.lt_irrefl 0)
  | cons c rest =>
    refine ⟨c, rest, rfl, ?_⟩
    unfold countWhile at h
    split at h
    · assumption
    · exact absurd h (Nat.lt_irrefl 0)

/-- Ignored text begins with one of a few characters. -/
theorem exists_blankStart {t : Terminal} (ht : t.isIgnored = true) {cs : List Char} {n : Nat}
    (h : t.match? cs = some n) : ∃ c rest, cs = c :: rest ∧ isBlankStart c = true := by
  cases t <;> simp only [Terminal.isIgnored, Bool.false_eq_true] at ht
  case space =>
    obtain ⟨c, rest, hcs, hc⟩ := countWhile_pos (positive_eq_some h).2
    refine ⟨c, rest, hcs, ?_⟩
    simp only [Bool.or_eq_true, beq_iff_eq] at hc
    rcases hc with rfl | rfl <;> rfl
  case newline =>
    have hpos := (positive_eq_some h).2
    cases cs with
    | nil => exact absurd hpos (Nat.lt_irrefl 0)
    | cons c rest =>
      refine ⟨c, rest, rfl, ?_⟩
      cases rest with
      | nil =>
        unfold newlines at hpos
        split at hpos
        · rename_i hc
          rw [eq_of_beq hc]
          rfl
        · exact absurd hpos (Nat.lt_irrefl 0)
      | cons d rest =>
        unfold newlines at hpos
        split at hpos
        · rename_i hc
          rw [eq_of_beq hc]
          rfl
        · split at hpos
          · rename_i hc
            rw [Bool.and_eq_true, beq_iff_eq] at hc
            rw [hc.1]
            rfl
          · exact absurd hpos (Nat.lt_irrefl 0)
  case comment =>
    change comment? cs = some n at h
    unfold comment? at h
    dsimp only at h
    cases hblanks : countWhile (fun c => c == ' ' || c == '\t') cs with
    | zero =>
      rw [hblanks, List.drop_zero] at h
      split at h
      · exact ⟨_, _, rfl, rfl⟩
      · cases h
    | succ k =>
      obtain ⟨c, rest, hcs, hc⟩ := countWhile_pos (Nat.lt_of_lt_of_eq (Nat.succ_pos k) hblanks.symm)
      refine ⟨c, rest, hcs, ?_⟩
      simp only [Bool.or_eq_true, beq_iff_eq] at hc
      rcases hc with rfl | rfl <;> rfl

theorem bound_of_head {cs : List Char} (h : ∀ c rest, cs = c :: rest → isBlankStart c = false) :
    Bound cs := by
  intro t ht
  cases hm : t.match? cs with
  | none => rfl
  | some n =>
    obtain ⟨c, rest, hcs, hc⟩ := exists_blankStart ht hm
    rw [h c rest hcs] at hc
    exact nomatch hc

/-! ## Runs of text -/

namespace CommandStyle

/-- Whether a placeholder of a command begins with a character. -/
def isSigil : CommandStyle → Char → Bool
  | .brace, c => c == '~' || c == '$'
  | .heredoc, c => c == '~'

/-- Whether a placeholder begins at the front of a text. -/
def opensPlaceholder (c : CommandStyle) : List Char → Bool
  | a :: b :: _ => c.isSigil a && b == '\x7b'
  | _ => false

/-- The length of the run of text at the front. -/
def run : CommandStyle → List Char → Nat
  | .brace, cs => braceRun cs
  | .heredoc, cs => heredocRun cs

theorem match?_fragment (c : CommandStyle) (cs : List Char) :
    c.fragment.match? cs = positive (c.run cs) := by
  cases c <;> rfl

/-- A run of text can begin with any character that ignored text begins with. -/
theorem run_pos (c : CommandStyle) {a : Char} (ha : isBlankStart a = true) (rest : List Char) :
    0 < c.run (a :: rest) := by
  have hne : (a == '~') = false ∧ (a == '$') = false ∧ (a == '\x7d') = false ∧
      (a == '>') = false := by
    simp only [isBlankStart, Bool.or_eq_true, beq_iff_eq] at ha
    rcases ha with (((rfl | rfl) | rfl) | rfl) | rfl <;> decide
  obtain ⟨h₁, h₂, h₃, h₄⟩ := hne
  cases c <;> cases rest
  case brace.nil => simp [run, braceRun, h₁, h₂, h₃]
  case brace.cons => simp [run, braceRun, h₁, h₂, h₃]
  case heredoc.nil => simp [run, heredocRun, h₁, h₄]
  case heredoc.cons =>
    unfold run heredocRun
    simp [h₁, h₄]

/-- Nothing in the first `n` characters opens a placeholder. -/
def Plain (c : CommandStyle) (cs : List Char) (n : Nat) : Prop :=
  ∀ i < n, c.opensPlaceholder (cs.drop i) = false

theorem plain_succ {c : CommandStyle} {a : Char} {cs : List Char} {n : Nat}
    (h : c.opensPlaceholder (a :: cs) = false) (hcs : c.Plain cs n) : c.Plain (a :: cs) (n + 1) := by
  intro i hi
  cases i with
  | zero => exact h
  | succ i => exact hcs i (Nat.lt_of_succ_lt_succ hi)

theorem plain_zero {c : CommandStyle} {cs : List Char} : c.Plain cs 0 :=
  fun i hi => absurd hi (Nat.not_lt_zero i)

theorem braceRun_spec (cs : List Char) : Plain .brace cs (braceRun cs) ∧
    ∀ a rest, cs.drop (braceRun cs) = a :: rest → a = '~' ∨ a = '$' ∨ a = '\x7d' := by
  fun_induction braceRun cs with
  | case1 => exact ⟨plain_zero, by simp⟩
  | case2 c h =>
    refine ⟨plain_zero, fun a rest heq => ?_⟩
    obtain ⟨rfl, -⟩ := List.cons.inj heq
    simp only [Bool.or_eq_true, beq_iff_eq] at h
    rcases h with (h | h) | h
    · exact .inr (.inr h)
    · exact .inl h
    · exact .inr (.inl h)
  | case3 c h => exact ⟨plain_succ rfl plain_zero, by simp⟩
  | case4 c d cs h hd =>
    refine ⟨plain_zero, fun a rest heq => ?_⟩
    obtain ⟨rfl, -⟩ := List.cons.inj heq
    simp only [Bool.or_eq_true, beq_iff_eq] at h
    exact h.imp_right .inl
  | case5 c d cs h hd ih =>
    exact ⟨plain_succ (by simpa [opensPlaceholder] using fun _ => hd) ih.1, ih.2⟩
  | case6 c d cs h hc =>
    refine ⟨plain_zero, fun a rest heq => ?_⟩
    obtain ⟨rfl, -⟩ := List.cons.inj heq
    exact .inr (.inr (eq_of_beq hc))
  | case7 c d cs h hc ih =>
    exact ⟨plain_succ (by simp [opensPlaceholder, isSigil, h]) ih.1, ih.2⟩

theorem heredocRun_spec (cs : List Char) : Plain .heredoc cs (heredocRun cs) ∧
    ∀ a rest, cs.drop (heredocRun cs) = a :: rest → a = '~' ∨ a = '>' := by
  fun_induction heredocRun cs with
  | case1 => exact ⟨plain_zero, by simp⟩
  | case2 c h =>
    refine ⟨plain_zero, fun a rest heq => ?_⟩
    obtain ⟨rfl, -⟩ := List.cons.inj heq
    simpa using h
  | case3 c h => exact ⟨plain_succ rfl plain_zero, by simp⟩
  | case4 c d cs hc hd =>
    refine ⟨plain_zero, fun a rest heq => ?_⟩
    obtain ⟨rfl, -⟩ := List.cons.inj heq
    exact .inl (eq_of_beq hc)
  | case5 c d cs hc hd ih =>
    exact ⟨plain_succ (by simpa [opensPlaceholder] using fun _ => hd) ih.1, ih.2⟩
  | case6 c d hn hc hd =>
    refine ⟨plain_zero, fun a rest heq => ?_⟩
    obtain ⟨rfl, -⟩ := List.cons.inj heq
    exact .inr (eq_of_beq hc)
  | case7 c d hn hc hd e es he =>
    refine ⟨plain_zero, fun a rest heq => ?_⟩
    obtain ⟨rfl, -⟩ := List.cons.inj heq
    exact .inr (eq_of_beq hc)
  | case8 c d hn hc hd e es he ih =>
    refine ⟨plain_succ ?_ (plain_succ ?_ ih.1), ih.2⟩
    · rw [eq_of_beq hc]
      rfl
    · rw [eq_of_beq hd]
      rfl
  | case9 c d cs hn hc hd ih =>
    refine ⟨plain_succ ?_ ih.1, ih.2⟩
    rw [eq_of_beq hc]
    rfl
  | case10 c d cs hn hc ih =>
    exact ⟨plain_succ (by simp [opensPlaceholder, isSigil, hn]) ih.1, ih.2⟩

/-- A run of text opens no placeholder, and what stands after it is no ignored text. -/
theorem run_spec (c : CommandStyle) (cs : List Char) :
    c.Plain cs (c.run cs) ∧ Bound (cs.drop (c.run cs)) := by
  cases c with
  | brace =>
    refine ⟨(braceRun_spec cs).1, bound_of_head fun a rest h => ?_⟩
    rcases (braceRun_spec cs).2 a rest h with rfl | rfl | rfl <;> rfl
  | heredoc =>
    refine ⟨(heredocRun_spec cs).1, bound_of_head fun a rest h => ?_⟩
    rcases (heredocRun_spec cs).2 a rest h with rfl | rfl <;> rfl

end CommandStyle

/-! ## Scanning -/

namespace Scanner

variable {s : Scanner} {c after : Cursor} {k : Token} {style : CommandStyle}

/-- Between the cursor and the next token there is only ignored text. -/
theorem next_passes {fuel : Nat} (h : s.next fuel c = .token k after) :
    ∃ between, Passes c.rest between ∧ (∃ n, k.terminal.match? between = some n ∧
      after.rest = between.drop n) ∧ (Bound c.rest → between = c.rest ∧ k.start = c.place) ∧
      ∃ text, c.rest = text ++ between ∧ k.start = c.place.advance text := by
  induction fuel generalizing c with
  | zero => cases h
  | succ fuel ih =>
    unfold next at h
    split at h
    · cases h
    · split at h
      · cases h
      · rename_i cls n hfirst
        have hmatch := firstMatch?_match? hfirst
        split at h
        · rename_i hignored
          obtain ⟨between, hpasses, hk, -, text, hrest, hstart⟩ := ih h
          refine ⟨between, .skip hignored hmatch hpasses, hk, fun hbound => ?_,
            c.rest.take n ++ text, ?_, ?_⟩
          · rw [hbound cls hignored] at hmatch
            cases hmatch
          · rw [List.append_assoc, ← hrest]
            exact (List.take_append_drop n c.rest).symm
          · rw [hstart]
            simp [Cursor.skip, Place.advance]
        · obtain ⟨rfl, rfl⟩ := Finding.token.inj h
          exact ⟨c.rest, .refl _, ⟨n, named_proper s hmatch String.toList_ofList, rfl⟩,
            fun _ => ⟨rfl, rfl⟩, [], rfl, rfl⟩

/-- The first match is not after one that is there. -/
theorem mem_of_firstMatch? {cs : List Char} {before later : List Terminal} {t u : Terminal}
    {n m : Nat} (ht : t.match? cs = some m)
    (h : firstMatch? cs (before ++ t :: later) = some (u, n)) : u ∈ before ∨ u = t := by
  induction before with
  | nil =>
    rw [List.nil_append, firstMatch?, ht] at h
    exact .inr (Prod.mk.inj (Option.some.inj h)).1.symm
  | cons v before ih =>
    rw [List.cons_append, firstMatch?] at h
    split at h
    · exact .inl (List.mem_cons.mpr (.inl (Prod.mk.inj (Option.some.inj h)).1.symm))
    · exact (ih h).imp_left (List.mem_cons_of_mem v)

/-- Runs of text are tried before ignored text. -/
theorem ofTerminals_tried {ts : List Terminal} (h : style.fragment ∈ ts) :
    ∃ before later, (ofTerminals ts).tried = before ++ style.fragment :: later ∧
      ∀ t ∈ before, t.isIgnored = false := by
  obtain ⟨front, back, horder, hfront⟩ : ∃ front back,
      Terminal.inOrder = front ++ style.fragment :: back ∧ ∀ t ∈ front, t.isIgnored = false := by
    unfold Terminal.inOrder
    cases style with
    | brace =>
      exact ⟨Terminal.classesInOrder.take 6, _, rfl, by decide⟩
    | heredoc =>
      exact ⟨Terminal.classesInOrder.take 4, _, rfl, by decide⟩
  have huncovered : ∀ cls : Terminal, cls.covers style.fragment = false := by
    intro cls
    unfold Terminal.covers
    cases style <;> rfl
  have hsplit : ∀ (p : Terminal → Bool) (l : List Terminal) (front back : List Terminal),
      p style.fragment = true → l = front ++ style.fragment :: back →
      l.filter p = front.filter p ++ style.fragment :: back.filter p := by
    rintro p l front back hp rfl
    rw [List.filter_append, List.filter_cons, if_pos hp]
  have hpresent := hsplit (fun t => ts.contains t || t.isIgnored) _ _ _
    (by rw [List.contains_iff_mem.mpr h, Bool.true_or]) horder
  refine ⟨_, _, hsplit _ _ _ _ ?_ hpresent, fun t ht => hfront t ?_⟩
  · dsimp only
    rw [List.any_eq_false.mpr fun cls _ => by rw [huncovered cls]; exact Bool.false_ne_true]
    rfl
  · exact (List.mem_filter.mp (List.mem_filter.mp ht).1).1

/-- Where a run of text is tried, nothing is passed over. -/
theorem next_of_tried {fuel : Nat} {before later : List Terminal}
    (htried : s.tried = before ++ style.fragment :: later)
    (hbefore : ∀ t ∈ before, t.isIgnored = false) (h : s.next fuel c = .token k after) :
    k.start = c.place := by
  cases fuel with
  | zero => cases h
  | succ fuel =>
    unfold next at h
    split at h
    · cases h
    · split at h
      · cases h
      · rename_i cls n hfirst
        split at h
        · rename_i hignored
          -- the run of text would have been found before
          obtain ⟨a, rest, hrest, ha⟩ := exists_blankStart hignored (firstMatch?_match? hfirst)
          have hrun : style.fragment.match? c.rest = some (style.run c.rest) := by
            have hpos := style.run_pos ha rest
            rw [CommandStyle.match?_fragment, hrest, positive,
              if_neg (by simpa using Nat.ne_of_gt hpos)]
          rw [htried] at hfirst
          rcases mem_of_firstMatch? hrun hfirst with hmem | rfl
          · rw [hbefore cls hmem] at hignored
            cases hignored
          · cases style <;> cases hignored
        · obtain ⟨rfl, -⟩ := Finding.token.inj h
          rfl

/-- What a scanner finds in a text comes after ignored text. -/
theorem scan_gap {text : List Char} (hc : c.At text) (h : s.scan c = .token k after) :
    Passes (text.drop c.place.offset) (text.drop k.start.offset) ∧
      (Bound c.rest → k.start = c.place) ∧
      ∃ n, k.terminal.match? (text.drop k.start.offset) = some n ∧
        after.rest = (text.drop k.start.offset).drop n := by
  obtain ⟨between, hpasses, hk, hbound, skipped, hrest, hstart⟩ := next_passes h
  have hbetween : text.drop k.start.offset = between := by
    rw [hstart, Place.advance_offset, ← List.drop_drop, ← hc.rest, hrest, List.drop_left]
  rw [hbetween, ← hc.rest]
  exact ⟨hpasses, fun hb => (hbound hb).2, hk⟩

end Scanner

end Wdl
