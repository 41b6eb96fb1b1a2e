import Mathlib.Data.List.Basic
import Wdl.Text.Escape

/-!
Escapes, run by run.

`Decodes` says what the escapes in a run stand for, one step after another, without a bound on the
number of steps; `decodeRun?` finds it whenever the bound is not below the length of the run,
`decodeRun?_eq_some_iff`.  An escape stands for no more code points than it has characters, so a run
never becomes longer.

A character that cannot be part of an escape ends the run before it, whatever stands there: the two
sides of such a character are decoded, and refused, each on its own, `decodeFrom?_append`.
-/

namespace Wdl
namespace Text

/-! ## Escapes -/

theorem length_filter_take_le {α : Type} (p : α → Bool) (width : Nat) (cs : List α) :
    ((cs.take width).filter p).length ≤ cs.length := by
  have hfilter := List.length_filter_le p (cs.take width)
  have htake := List.length_take_le' width cs
  omega

/-- A hexadecimal escape has all its digits. -/
theorem hexEscape?_fits {width n : Nat} {cs : List Char} (h : hexEscape? width cs = some n) :
    width ≤ cs.length := by
  have hdigits := length_filter_take_le (fun c => (hexValue? c).isSome) width cs
  unfold hexEscape? at h
  dsimp only at h
  split at h
  · next hall =>
    simp only [Bool.and_eq_true, beq_iff_eq] at hall
    omega
  · cases h

/-- A name has both its braces. -/
theorem nameEscape?_fits {n length : Nat} {cs : List Char}
    (h : nameEscape? cs = some (n, length)) : length ≤ cs.length := by
  unfold nameEscape? at h
  split at h
  · next rest =>
    dsimp only at h
    split at h
    · next hname =>
      simp only [Bool.and_eq_true, decide_eq_true_eq] at hname
      obtain ⟨_, -, hpair⟩ := Option.map_eq_some_iff.mp h
      cases hpair
      rw [List.length_cons]
      omega
    · cases h
  · cases h

theorem simpleEscape?_length {c : Char} {ns : List Nat} (h : simpleEscape? c = some ns) :
    ns.length ≤ 1 := by
  unfold simpleEscape? at h
  split at h
  -- only the single quote, which stands last, is behind a condition
  all_goals try split at h
  all_goals cases h
  all_goals decide

/-- An escape takes at least one character after the backslash and none that is not there, and it
stands for no more code points than it has characters with the backslash. -/
theorem escape?_fits {cs : List Char} {ns : List Nat} {length : Nat}
    (h : escape? cs = some (ns, length)) :
    0 < length ∧ length ≤ cs.length ∧ ns.length ≤ length + 1 := by
  cases cs with
  | nil => cases h
  | cons c cs =>
    rw [List.length_cons]
    simp only [escape?] at h
    split at h
    · next simple hsimple =>
      cases h
      have hone := simpleEscape?_length hsimple
      omega
    split at h
    · next width _ =>
      obtain ⟨n, hn, hpair⟩ := Option.map_eq_some_iff.mp h
      cases hpair
      have hdigits := hexEscape?_fits hn
      simp only [List.length_singleton]
      omega
    split at h
    · obtain ⟨⟨n, size⟩, hn, hpair⟩ := Option.map_eq_some_iff.mp h
      cases hpair
      have hname := nameEscape?_fits hn
      simp only [List.length_singleton]
      omega
    split at h
    · cases h
      simp only [List.length_cons, List.length_nil]
      omega
    · next hsome =>
      cases h
      have hpos : 0 < (((c :: cs).takeWhile isOctalDigit).take 3).length :=
        List.length_pos_iff.mpr fun hnil => hsome (List.isEmpty_iff.mpr hnil)
      have htake := List.length_take_le' 3 ((c :: cs).takeWhile isOctalDigit)
      have hwhile := (List.takeWhile_prefix isOctalDigit (l := c :: cs)).length_le
      rw [List.length_cons] at hwhile
      simp only [List.length_singleton]
      omega

/-! ## Runs -/

/-- The code points `ns` are what a run stands for: an escape for what it says, and every other
character for itself. -/
inductive Decodes : List Char → List Nat → Prop
  | nil : Decodes [] []
  | plain {c : Char} {cs : List Char} {ns : List Nat} (hc : c ≠ '\\') (h : Decodes cs ns) :
      Decodes (c :: cs) (c.toNat :: ns)
  | escaped {cs : List Char} {own ns : List Nat} {length : Nat}
      (hown : escape? cs = some (own, length)) (h : Decodes (cs.drop length) ns) :
      Decodes ('\\' :: cs) (own ++ ns)

theorem decodeRun?_plain (fuel : Nat) {c : Char} (hc : c ≠ '\\') (cs : List Char) :
    decodeRun? (fuel + 1) (c :: cs) = (decodeRun? fuel cs).map (c.toNat :: ·) := by
  rw [decodeRun?]
  intro hback
  exact absurd hback hc

theorem decodes_of_decodeRun? {fuel : Nat} {cs : List Char} {ns : List Nat}
    (h : decodeRun? fuel cs = some ns) : Decodes cs ns := by
  induction fuel generalizing cs ns with
  | zero =>
    cases cs with
    | nil => cases h; exact .nil
    | cons c cs => cases h
  | succ fuel ih =>
    cases cs with
    | nil => cases h; exact .nil
    | cons c cs =>
      by_cases hc : c = '\\'
      · subst hc
        simp only [decodeRun?] at h
        split at h
        · cases h
        · next own length hown =>
          obtain ⟨rest, hrest, rfl⟩ := Option.map_eq_some_iff.mp h
          exact .escaped hown (ih hrest)
      · rw [decodeRun?_plain fuel hc] at h
        obtain ⟨rest, hrest, rfl⟩ := Option.map_eq_some_iff.mp h
        exact .plain hc (ih hrest)

theorem Decodes.decodeRun? {cs : List Char} {ns : List Nat} (h : Decodes cs ns) {fuel : Nat}
    (hfuel : cs.length ≤ fuel) : Text.decodeRun? fuel cs = some ns := by
  induction h generalizing fuel with
  | nil => cases fuel <;> rfl
  | @plain c cs ns hc _ ih =>
    obtain ⟨fuel, rfl⟩ := Nat.exists_eq_add_of_le' (show 1 ≤ fuel by
      rw [List.length_cons] at hfuel; omega)
    rw [List.length_cons] at hfuel
    rw [decodeRun?_plain fuel hc, ih (by omega)]
    rfl
  | @escaped cs own ns length hown _ ih =>
    rw [List.length_cons] at hfuel
    obtain ⟨fuel, rfl⟩ := Nat.exists_eq_add_of_le' (show 1 ≤ fuel by omega)
    have hpos := (escape?_fits hown).1
    simp only [Text.decodeRun?, hown]
    rw [ih (by rw [List.length_drop]; omega)]
    rfl

/-- As many steps as a run has characters are enough to decode it. -/
theorem decodeRun?_eq_some_iff {fuel : Nat} {cs : List Char} (hfuel : cs.length ≤ fuel)
    {ns : List Nat} : decodeRun? fuel cs = some ns ↔ Decodes cs ns :=
  ⟨decodes_of_decodeRun?, fun h => h.decodeRun? hfuel⟩

namespace Decodes

/-- A run stands for no more code points than it has characters. -/
theorem length_le {cs : List Char} {ns : List Nat} (h : Decodes cs ns) :
    ns.length ≤ cs.length := by
  induction h with
  | nil => exact Nat.le_refl 0
  | plain _ _ ih =>
    rw [List.length_cons, List.length_cons]
    omega
  | escaped hown _ ih =>
    obtain ⟨-, hfits, hshort⟩ := escape?_fits hown
    rw [List.length_drop] at ih
    rw [List.length_append, List.length_cons]
    omega

/-- A run without a backslash stands for itself. -/
theorem of_plain {cs : List Char} (h : '\\' ∉ cs) : Decodes cs (cs.map Char.toNat) := by
  induction cs with
  | nil => exact .nil
  | cons c cs ih =>
    rw [List.mem_cons, not_or] at h
    exact .plain (Ne.symm h.1) (ih h.2)

end Decodes

theorem decodeRun?_reverse_plain {run : List Char} (hrun : '\\' ∉ run) :
    decodeRun? run.length run.reverse = some (run.reverse.map Char.toNat) := by
  have hplain : '\\' ∉ run.reverse := fun hmem => hrun (List.mem_reverse.mp hmem)
  exact (Decodes.of_plain hplain).decodeRun? (Nat.le_of_eq List.length_reverse)

/-! ## Texts -/

theorem decodeFrom?_boundary (run : List Char) {c : Char} (hc : isEscapable c = false)
    (cs : List Char) :
    decodeFrom? run (c :: cs) = (do
      let before ← decodeRun? run.length run.reverse
      let after ← decodeFrom? [] cs
      some (before ++ c.toNat :: after)) := by
  rw [decodeFrom?, if_neg (by rw [hc]; exact Bool.false_ne_true)]

theorem decodeFrom?_escapable (run : List Char) {c : Char} (hc : isEscapable c = true)
    (cs : List Char) : decodeFrom? run (c :: cs) = decodeFrom? (c :: run) cs := by
  rw [decodeFrom?, if_pos hc]

/-- A text is decoded in two parts wherever a character stands that cannot be in an escape. -/
theorem decodeFrom?_append (run a b : List Char) {c : Char} (hc : isEscapable c = false) :
    decodeFrom? run (a ++ c :: b) = (do
      let before ← decodeFrom? run a
      let after ← decodeFrom? [] b
      some (before ++ c.toNat :: after)) := by
  induction a generalizing run with
  | nil => exact decodeFrom?_boundary run hc b
  | cons d a ih =>
    rw [List.cons_append]
    by_cases hd : isEscapable d = true
    · rw [decodeFrom?_escapable run hd, decodeFrom?_escapable run hd, ih]
    · have hd : isEscapable d = false := Bool.eq_false_iff.mpr hd
      rw [decodeFrom?_boundary run hd, decodeFrom?_boundary run hd, ih]
      cases decodeRun? run.length run.reverse with
      | none => rfl
      | some before =>
        cases decodeFrom? [] a with
        | none => rfl
        | some middle =>
          cases decodeFrom? [] b with
          | none => rfl
          | some after => simp

/-- A text stands for no more code points than it has characters, the run before it included. -/
theorem decodeFrom?_length {run cs : List Char} {ns : List Nat}
    (h : decodeFrom? run cs = some ns) : ns.length ≤ run.length + cs.length := by
  induction cs generalizing run ns with
  | nil =>
    have hrun := (decodes_of_decodeRun? h).length_le
    rw [List.length_reverse] at hrun
    rw [List.length_nil]
    omega
  | cons c cs ih =>
    rw [List.length_cons]
    by_cases hc : isEscapable c = true
    · rw [decodeFrom?_escapable run hc] at h
      have hlength := ih h
      rw [List.length_cons] at hlength
      omega
    · rw [decodeFrom?_boundary run (Bool.eq_false_iff.mpr hc)] at h
      obtain ⟨before, hbefore, h⟩ := Option.bind_eq_some_iff.mp h
      obtain ⟨after, hafter, h⟩ := Option.bind_eq_some_iff.mp h
      cases h
      have hrun := (decodes_of_decodeRun? hbefore).length_le
      have hrest := ih hafter
      rw [List.length_reverse] at hrun
      rw [List.length_nil] at hrest
      rw [List.length_append, List.length_cons]
      omega

/-- A text without a backslash stands for itself, the run before it included. -/
theorem decodeFrom?_plain {run cs : List Char} (hrun : '\\' ∉ run) (hcs : '\\' ∉ cs) :
    decodeFrom? run cs = some ((run.reverse ++ cs).map Char.toNat) := by
  induction cs generalizing run with
  | nil =>
    rw [List.append_nil]
    exact decodeRun?_reverse_plain hrun
  | cons c cs ih =>
    rw [List.mem_cons, not_or] at hcs
    by_cases hc : isEscapable c = true
    · have hmore : '\\' ∉ c :: run := by
        rw [List.mem_cons, not_or]
        exact ⟨hcs.1, hrun⟩
      rw [decodeFrom?_escapable run hc, ih hmore hcs.2, List.reverse_cons, List.append_assoc]
      rfl
    · rw [decodeFrom?_boundary run (Bool.eq_false_iff.mpr hc), decodeRun?_reverse_plain hrun,
        ih List.not_mem_nil hcs.2]
      simp

theorem isEscapable_eq_false {c : Char} (hc : ¬(0x01 ≤ c.toNat ∧ c.toNat ≤ 0x7F)) :
    isEscapable c = false := by
  rw [isEscapable, Bool.eq_false_iff]
  simpa only [ne_eq, Bool.and_eq_true, decide_eq_true_eq] using hc

theorem decodeEscapes?_append (a b : String) {c : Char} (hc : isEscapable c = false) :
    decodeEscapes? (a ++ String.singleton c ++ b) = (do
      let before ← decodeEscapes? a
      let after ← decodeEscapes? b
      some (before ++ c.toNat :: after)) := by
  unfold decodeEscapes?
  rw [String.toList_append, String.toList_append, String.toList_singleton, List.append_assoc,
    List.singleton_append]
  exact decodeFrom?_append [] _ _ hc

/-- The two sides of a character that cannot be in an escape are decoded on their own, and the whole
is refused exactly when one of them is; a text without a backslash stands for itself; and a text
never stands for more code points than it has. -/
theorem decodeEscapes?_splits :
    (∀ (a b : String) (c : Char), ¬(0x01 ≤ c.toNat ∧ c.toNat ≤ 0x7F) →
      (∀ before after, decodeEscapes? a = some before → decodeEscapes? b = some after →
        decodeEscapes? (a ++ String.singleton c ++ b) = some (before ++ c.toNat :: after)) ∧
      (decodeEscapes? (a ++ String.singleton c ++ b) = none ↔
        decodeEscapes? a = none ∨ decodeEscapes? b = none)) ∧
    (∀ s : String, '\\' ∉ s.toList → decodeEscapes? s = some (s.toList.map Char.toNat)) ∧
    ∀ (s : String) (ns : List Nat), decodeEscapes? s = some ns → ns.length ≤ s.length := by
  refine ⟨fun a b c hc => ⟨fun before after ha hb => ?_, ?_⟩, fun s hs => ?_, fun s ns hns => ?_⟩
  · rw [decodeEscapes?_append a b (isEscapable_eq_false hc), ha, hb]
    rfl
  · rw [decodeEscapes?_append a b (isEscapable_eq_false hc)]
    cases decodeEscapes? a with
    | none => simp
    | some before =>
      cases decodeEscapes? b with
      | none => simp
      | some after => simp
  · exact decodeFrom?_plain List.not_mem_nil hs
  · have hlength := decodeFrom?_length hns
    rw [List.length_nil, Nat.zero_add] at hlength
    exact hlength

/-- A backslash in front of `é` is refused there, although what it would escape after that is well
formed; without it both sides count, and the line end that is escaped makes the text shorter. -/
theorem decodeEscapes?_splits_accent :
    ¬(0x01 ≤ 'é'.toNat ∧ 'é'.toNat ≤ 0x7F) ∧
      decodeEscapes? ("\\x41\\" ++ String.singleton 'é' ++ "n\\\n") = none ∧
      decodeEscapes? ("\\x41" ++ String.singleton 'é' ++ "n\\\n") = some [0x41, 0xE9, 0x6E] ∧
      decodeEscapes? "aé" = some [0x61, 0xE9] ∧
      [0x41, 0xE9, 0x6E].length ≤ "\\x41én\\\n".length := by
  have hc : ¬(0x01 ≤ 'é'.toNat ∧ 'é'.toNat ≤ 0x7F) := by decide
  have hwhole := (decodeEscapes?_splits.1 "\\x41" "n\\\n" 'é' hc).1 [0x41] [0x6E]
    (by decide) (by decide)
  refine ⟨hc, ?_, hwhole, ?_, ?_⟩
  · exact (decodeEscapes?_splits.1 "\\x41\\" "n\\\n" 'é' hc).2.mpr (.inl (by decide))
  · exact decodeEscapes?_splits.2.1 "aé" (by decide)
  · exact decodeEscapes?_splits.2.2 _ _ hwhole

end Text
end Wdl
