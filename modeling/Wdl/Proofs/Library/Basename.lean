import Mathlib.Data.List.DropRight
import Wdl.Document.Node
import Wdl.Library.Functions

/-!
The last component of a path without a suffix.

`basename` takes the suffix from the end of the whole path, and then the last component of what
remains.  For a suffix without a slash this is the last component without the suffix, as one would
have it, `lastComponent_withoutSuffix`.  A suffix with a slash reaches beyond the last component: it
takes this away altogether, and the result is the last component of what stands before the suffix.
-/

namespace Wdl

open ImportBody

/-- A text without a suffix, if it ends with it. -/
def withoutSuffix (suffix text : List Char) : List Char :=
  if suffix.isSuffixOf text then text.take (text.length - suffix.length) else text

/-- `stem` is `text` without the suffix, if it ends with it, and otherwise the whole text. -/
def IsStem (suffix text stem : List Char) : Prop :=
  text = stem ++ suffix ∨ ¬suffix <:+ text ∧ stem = text

theorem withoutSuffix_append (stem suffix : List Char) :
    withoutSuffix suffix (stem ++ suffix) = stem := by
  have hends : suffix.isSuffixOf (stem ++ suffix) = true :=
    List.isSuffixOf_iff_suffix.mpr (List.suffix_append stem suffix)
  rw [withoutSuffix, if_pos hends, List.length_append, Nat.add_sub_cancel, List.take_left]

theorem withoutSuffix_of_not {suffix text : List Char} (h : ¬suffix <:+ text) :
    withoutSuffix suffix text = text := by
  rw [withoutSuffix, if_neg]
  intro hends
  exact h (List.isSuffixOf_iff_suffix.mp hends)

theorem isStem_withoutSuffix (suffix text : List Char) :
    IsStem suffix text (withoutSuffix suffix text) := by
  by_cases h : suffix <:+ text
  · obtain ⟨stem, rfl⟩ := h
    rw [withoutSuffix_append]
    exact .inl rfl
  · exact .inr ⟨h, withoutSuffix_of_not h⟩

theorem withoutSuffix_prefix (suffix text : List Char) : withoutSuffix suffix text <+: text := by
  by_cases h : suffix <:+ text
  · obtain ⟨stem, rfl⟩ := h
    rw [withoutSuffix_append]
    exact List.prefix_append stem suffix
  · exact ⟨[], by rw [withoutSuffix_of_not h, List.append_nil]⟩

/-! ## Last components -/

/-- `base` is what stands after the last slash of `path`, or the whole of it if it has none. -/
def IsLastComponent (base path : List Char) : Prop :=
  '/' ∉ base ∧ ∃ front, path = front ++ base ∧ (front = [] ∨ front.getLast? = some '/')

theorem lastComponent_eq_rtakeWhile (path : List Char) :
    lastComponent path = path.rtakeWhile (· != '/') := rfl

/-- Every path has a last component. -/
theorem isLastComponent_lastComponent (path : List Char) :
    IsLastComponent (lastComponent path) path := by
  rw [lastComponent_eq_rtakeWhile]
  refine ⟨fun hmem => ?_, path.rdropWhile (· != '/'), ?_, ?_⟩
  · have hslash := List.mem_rtakeWhile_imp hmem
    simp at hslash
  · exact List.rdropWhile_append_rtakeWhile.symm
  · by_cases hne : path.rdropWhile (· != '/') = []
    · exact .inl hne
    · have hlast := List.rdropWhile_last_not (· != '/') path hne
      right
      rw [List.getLast?_eq_some_getLast hne]
      simpa using hlast

theorem lastComponent_suffix (path : List Char) : lastComponent path <:+ path :=
  List.rtakeWhile_suffix _ path

/-- And it has only one. -/
theorem IsLastComponent.eq {base path : List Char} (h : IsLastComponent base path) :
    lastComponent path = base := by
  obtain ⟨hbase, front, rfl, hfront⟩ := h
  have hall : ∀ c ∈ base.reverse, (c != '/') = true := by
    intro c hc
    rw [bne_iff_ne]
    rintro rfl
    exact hbase (List.mem_reverse.mp hc)
  have hstop : front.reverse.takeWhile (· != '/') = [] := by
    rcases hfront with rfl | hlast
    · rfl
    · obtain ⟨others, rfl⟩ := List.getLast?_eq_some_iff.mp hlast
      rw [List.reverse_append]
      rfl
  rw [lastComponent, List.reverse_append, List.takeWhile_append_of_pos hall, hstop,
    List.append_nil, List.reverse_reverse]

/-- A suffix of a path that has no slash is a suffix of its last component. -/
theorem suffix_lastComponent {suffix path : List Char} (hslash : '/' ∉ suffix)
    (h : suffix <:+ path) : suffix <:+ lastComponent path := by
  obtain ⟨-, front, hpath, hfront⟩ := isLastComponent_lastComponent path
  rcases List.suffix_or_suffix_of_suffix h (lastComponent_suffix path) with hle | ⟨extra, hextra⟩
  · exact hle
  -- what the suffix has before the last component ends with the slash there
  obtain ⟨stem, hstem⟩ := h
  have hsplit : front = stem ++ extra := by
    rw [hpath, ← hextra, ← List.append_assoc] at hstem
    exact (List.append_cancel_right hstem).symm
  by_cases hnil : extra = []
  · rw [← hextra, hnil]
    exact List.suffix_refl _
  · have hlast : extra.getLast? = some '/' := by
      rw [← List.getLast?_append_of_ne_nil stem hnil, ← hsplit]
      refine hfront.resolve_left fun hempty => hnil ?_
      exact (List.append_eq_nil_iff.mp (hsplit.symm.trans hempty)).2
    refine absurd ?_ hslash
    rw [← hextra]
    exact List.mem_append_left _ (List.mem_of_getLast? hlast)

/-- A suffix without a slash can be taken from the path or from its last component. -/
theorem lastComponent_withoutSuffix {suffix : List Char} (hslash : '/' ∉ suffix)
    (path : List Char) :
    lastComponent (withoutSuffix suffix path) = withoutSuffix suffix (lastComponent path) := by
  by_cases h : suffix <:+ path
  · obtain ⟨hbase, front, hpath, hfront⟩ := isLastComponent_lastComponent path
    obtain ⟨stem, hstem⟩ := suffix_lastComponent hslash h
    rw [← hstem, withoutSuffix_append]
    rw [← hstem, ← List.append_assoc] at hpath
    rw [hpath, withoutSuffix_append]
    refine IsLastComponent.eq ⟨fun hmem => hbase ?_, front, rfl, hfront⟩
    rw [← hstem]
    exact List.mem_append_left _ hmem
  · have hnot : ¬suffix <:+ lastComponent path := by
      intro hsuffix
      exact h (hsuffix.trans (lastComponent_suffix path))
    rw [withoutSuffix_of_not h, withoutSuffix_of_not hnot]

namespace Library

theorem coerce_text {v : Value} (hv : v ≠ .null) (optional : Bool) :
    v.coerce ⟨.string, optional⟩ = .ok (.string v.text) := by
  cases v with
  | null => exact absurd rfl hv
  | _ => rfl

/-- What `basename` is called with becomes text. -/
theorem call_basename {v w : Value} (hv : v ≠ .null) (hw : w ≠ .null) :
    Static.basename.call [v, w] = .ok (.string (String.ofList
      (lastComponent (withoutSuffix w.text.toList v.text.toList)))) := by
  have hargs : coerceArguments "basename" 1 [v, w] [.string, ⟨.string, true⟩] =
      .ok [.string v.text, .string w.text] := by
    simp only [coerceArguments, Ty.string, coerce_text hv, coerce_text hw]
    rfl
  show (coerceArguments "basename" 1 [v, w] [.string, ⟨.string, true⟩] >>= _) = _
  rw [hargs]
  rfl

theorem ofName?_basename : Function.ofName? "basename" = some (.static .basename) := by
  rfl

/-- A suffix without a slash, or one that the path does not end with, is taken from the end of the
last component, which the result is a beginning of; with any other the result is the last component
of what stands before the suffix. -/
theorem basename_without_suffix {v w : Value} (hv : v ≠ .null) (hw : w ≠ .null)
    {base : List Char} (hbase : IsLastComponent base v.text.toList) :
    ∃ function result, Function.ofName? "basename" = some function ∧
      function.call [v, w] = .ok (.string (String.ofList result)) ∧
      ('/' ∉ w.text.toList ∨ ¬w.text.toList <:+ v.text.toList →
        IsStem w.text.toList base result ∧ result <+: base) ∧
      ∀ stem, '/' ∈ w.text.toList → v.text.toList = stem ++ w.text.toList →
        IsLastComponent result stem := by
  refine ⟨_, _, ofName?_basename, call_basename hv hw, fun h => ?_, fun stem _ hstem => ?_⟩
  · have hresult : lastComponent (withoutSuffix w.text.toList v.text.toList) =
        withoutSuffix w.text.toList base := by
      rw [← hbase.eq]
      rcases h with hslash | hnot
      · exact lastComponent_withoutSuffix hslash _
      · rw [withoutSuffix_of_not hnot, withoutSuffix_of_not]
        intro hsuffix
        exact hnot (hsuffix.trans (lastComponent_suffix _))
    rw [hresult]
    exact ⟨isStem_withoutSuffix _ _, withoutSuffix_prefix _ _⟩
  · rw [hstem, withoutSuffix_append]
    exact isLastComponent_lastComponent stem

theorem basename_without_suffix_file :
    Value.file "/a/b.txt" ≠ .null ∧ Value.string ".txt" ≠ .null ∧
      IsLastComponent "b.txt".toList "/a/b.txt".toList ∧
      ∃ function result, Function.ofName? "basename" = some function ∧
        function.call [.file "/a/b.txt", .string ".txt"] = .ok (.string (String.ofList result)) ∧
        IsStem ".txt".toList "b.txt".toList result := by
  have hbase : IsLastComponent "b.txt".toList "/a/b.txt".toList :=
    ⟨by decide, "/a/".toList, by decide, .inr (by decide)⟩
  obtain ⟨function, result, hname, hcall, hstem, -⟩ :=
    basename_without_suffix (v := .file "/a/b.txt") (w := .string ".txt") nofun nofun hbase
  exact ⟨nofun, nofun, hbase, function, result, hname, hcall, (hstem (.inl (by decide))).1⟩

/-- With the suffix `/b` the path `a/b` does not give its last component `b`, which does not end
with the suffix, but `a`, which is no beginning of it. -/
theorem basename_not_stem :
    Static.basename.call [.string "a/b", .string "/b"] = .ok (.string "a") ∧
      IsLastComponent "b".toList "a/b".toList ∧
      ¬IsStem "/b".toList "b".toList "a".toList ∧ ¬"a".toList <+: "b".toList := by
  refine ⟨rfl, ⟨by decide, "a/".toList, by decide, .inr (by decide)⟩, ?_, by decide⟩
  unfold IsStem
  decide

end Library
end Wdl
