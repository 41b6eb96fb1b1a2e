import Mathlib.Data.List.Dedup
import Mathlib.Data.List.Induction
import Mathlib.Data.List.Perm.Basic
import Wdl.Assoc

/-!
Keys of lists.

Of several things with the same key the first one counts, and those that come later are reported.
`firsts` and `repeats` cut a list into the ones and the others, in order: as many are kept as there
are different keys, `length_firsts`, and the rest are repeats, `length_repeats`.

In association lists binding a key that is new puts it at the end, so lists whose keys are distinct
come to what they are as they are bound one after the other.

Two parts of a list without repetitions are the same if they have the same members,
`eq_of_sublists`.
-/

namespace Wdl

variable {α κ : Type} [DecidableEq κ]

/-- The elements whose keys are not among `seen` and not among those of elements before them. -/
def firstsFrom (key : α → κ) (seen : List κ) : List α → List α
  | [] => []
  | x :: xs =>
    let rest := firstsFrom key (seen ++ [key x]) xs
    if key x ∈ seen then rest else x :: rest

/-- The elements whose keys are among `seen` or among those of elements before them. -/
def repeatsFrom (key : α → κ) (seen : List κ) : List α → List α
  | [] => []
  | x :: xs =>
    let rest := repeatsFrom key (seen ++ [key x]) xs
    if key x ∈ seen then x :: rest else rest

/-- The elements at the first occurrences of their keys. -/
def firsts (key : α → κ) (xs : List α) : List α := firstsFrom key [] xs

/-- The elements at later occurrences of their keys. -/
def repeats (key : α → κ) (xs : List α) : List α := repeatsFrom key [] xs

variable {key : α → κ}

theorem firstsFrom_append (seen : List κ) (xs ys : List α) : firstsFrom key seen (xs ++ ys) =
    firstsFrom key seen xs ++ firstsFrom key (seen ++ xs.map key) ys := by
  induction xs generalizing seen with
  | nil => rw [List.map_nil, List.append_nil]; rfl
  | cons x xs ih =>
    simp only [List.cons_append, firstsFrom, ih, List.map_cons, List.append_assoc, List.nil_append]
    split <;> rfl

theorem repeatsFrom_append (seen : List κ) (xs ys : List α) : repeatsFrom key seen (xs ++ ys) =
    repeatsFrom key seen xs ++ repeatsFrom key (seen ++ xs.map key) ys := by
  induction xs generalizing seen with
  | nil => rw [List.map_nil, List.append_nil]; rfl
  | cons x xs ih =>
    simp only [List.cons_append, repeatsFrom, ih, List.map_cons, List.append_assoc,
      List.nil_append]
    split <;> rfl

theorem firsts_concat (xs : List α) (x : α) : firsts key (xs ++ [x]) =
    if key x ∈ xs.map key then firsts key xs else firsts key xs ++ [x] := by
  rw [firsts, firstsFrom_append, List.nil_append, firstsFrom, firstsFrom, firsts]
  split
  · rw [List.append_nil]
  · rfl

theorem repeats_concat (xs : List α) (x : α) : repeats key (xs ++ [x]) =
    if key x ∈ xs.map key then repeats key xs ++ [x] else repeats key xs := by
  rw [repeats, repeatsFrom_append, List.nil_append, repeatsFrom, repeatsFrom, repeats]
  split
  · rfl
  · rw [List.append_nil]

theorem firstsFrom_sublist (seen : List κ) (xs : List α) : (firstsFrom key seen xs).Sublist xs := by
  induction xs generalizing seen with
  | nil => exact .slnil
  | cons x xs ih =>
    rw [firstsFrom]
    split
    · exact (ih _).cons x
    · exact (ih _).cons_cons x

theorem mem_of_mem_firsts {xs : List α} {x : α} (h : x ∈ firsts key xs) : x ∈ xs :=
  (firstsFrom_sublist [] xs).subset h

/-- Every key has its first occurrence. -/
theorem mem_map_firsts {xs : List α} {k : κ} : k ∈ (firsts key xs).map key ↔ k ∈ xs.map key := by
  induction xs using List.reverseRecOn with
  | nil => rfl
  | append_singleton xs x ih =>
    rw [firsts_concat, List.map_append, List.mem_append]
    split
    · next hx =>
      rw [ih]
      refine ⟨.inl, fun h => h.elim id fun h => ?_⟩
      rw [List.map_singleton, List.mem_singleton] at h
      exact h ▸ hx
    · rw [List.map_append, List.mem_append, ih]

/-- No key is kept twice. -/
theorem nodup_map_firsts (xs : List α) : ((firsts key xs).map key).Nodup := by
  induction xs using List.reverseRecOn with
  | nil => exact .nil
  | append_singleton xs x ih =>
    rw [firsts_concat]
    split
    · exact ih
    · next hx =>
      rw [List.map_append, List.map_singleton]
      refine List.nodup_append.mpr ⟨ih, List.pairwise_singleton _ _, fun a ha b hb heq => hx ?_⟩
      rw [heq, List.mem_singleton.mp hb] at ha
      exact mem_map_firsts.mp ha

theorem length_firsts (xs : List α) : (firsts key xs).length = (xs.map key).dedup.length := by
  have hperm : ((firsts key xs).map key).Perm (xs.map key).dedup := by
    refine (List.perm_ext_iff_of_nodup (nodup_map_firsts xs) (List.nodup_dedup _)).mpr fun k => ?_
    rw [mem_map_firsts, List.mem_dedup]
  rw [← hperm.length_eq, List.length_map]

theorem length_firsts_add_repeats (xs : List α) :
    (firsts key xs).length + (repeats key xs).length = xs.length := by
  induction xs using List.reverseRecOn with
  | nil => rfl
  | append_singleton xs x ih =>
    rw [firsts_concat, repeats_concat, List.length_append, List.length_singleton]
    split
    · rw [List.length_append, List.length_singleton, ← Nat.add_assoc, ih]
    · rw [List.length_append, List.length_singleton, Nat.add_right_comm, ih]

/-- As many are repeated as there are more elements than keys. -/
theorem length_repeats (xs : List α) :
    (repeats key xs).length = xs.length - (xs.map key).dedup.length := by
  have hsum : (firsts key xs).length + (repeats key xs).length = xs.length :=
    length_firsts_add_repeats xs
  rw [← hsum, length_firsts, Nat.add_sub_cancel_left]

end Wdl

/-! ## Association lists without a key that is bound twice -/

namespace Wdl
namespace Assoc

variable {α : Type} {key : String} {l new : List (String × α)}

theorem contains_eq_false_iff : contains key l = false ↔ key ∉ l.map Prod.fst := by
  rw [contains, List.any_eq_false]
  constructor
  · intro h hmem
    obtain ⟨kv, hkv, rfl⟩ := List.mem_map.mp hmem
    exact h kv hkv (beq_self_eq_true _)
  · intro h kv hkv heq
    exact h (List.mem_map.mpr ⟨kv, hkv, beq_iff_eq.mp heq⟩)

theorem contains_concat (kv : String × α) :
    contains key (l ++ [kv]) = true ↔ contains key l = true ∨ key = kv.1 := by
  rw [contains, List.any_append, Bool.or_eq_true, List.any_cons, List.any_nil, Bool.or_false,
    beq_iff_eq, eq_comm (a := key)]
  rfl

theorem insert_of_not_contains (h : contains key l = false) (v : α) :
    insert key v l = l ++ [(key, v)] := by
  induction l with
  | nil => rfl
  | cons kv l ih =>
    rw [contains, List.any_cons, Bool.or_eq_false_iff] at h
    rw [insert, h.1, ih h.2]
    rfl

/-- Keys that are new and distinct are added at the end. -/
theorem update_of_nodup (h : ((l ++ new).map Prod.fst).Nodup) : update l new = l ++ new := by
  induction new generalizing l with
  | nil => exact (List.append_nil l).symm
  | cons kv new ih =>
    have hnew : contains kv.1 l = false := by
      rw [contains_eq_false_iff]
      rw [List.map_append, List.map_cons] at h
      exact fun hmem => (List.nodup_append.mp h).2.2 _ hmem _ List.mem_cons_self rfl
    have hrest : ((l ++ [kv] ++ new).map Prod.fst).Nodup := by
      rwa [List.append_assoc]
    rw [update, List.foldl_cons, insert_of_not_contains hnew]
    exact (ih hrest).trans (List.append_assoc ..)

theorem lookup_of_contains (h : contains key l = true) : (l.lookup key).isSome = true := by
  induction l with
  | nil => cases h
  | cons kv l ih =>
    rw [List.lookup_cons]
    by_cases hk : (key == kv.1) = true
    · rw [hk]
      rfl
    · rw [Bool.eq_false_iff.mpr hk]
      rw [contains, List.any_cons, Bool.or_eq_true] at h
      rcases h with h | h
      · exact absurd (beq_iff_eq.mpr (beq_iff_eq.mp h).symm) hk
      · exact ih h

end Assoc
end Wdl

namespace Wdl

/-- What is looked up in an association list is one of its entries. -/
theorem mem_of_lookup {α β : Type} [BEq α] [LawfulBEq α] {l : List (α × β)} {a : α} {b : β}
    (h : l.lookup a = some b) : (a, b) ∈ l := by
  obtain ⟨before, after, rfl, -⟩ := List.lookup_eq_some_iff.mp h
  exact List.mem_append_right _ List.mem_cons_self

/-! ## Lists with the same keys -/

/-- A list is told from another that it is a part of by its members. -/
theorem eq_filter_of_sublist {α : Type} [DecidableEq α] {xs ys : List α} (h : xs.Sublist ys)
    (hys : ys.Nodup) : xs = ys.filter (· ∈ xs) := by
  induction h with
  | slnil => rfl
  | @cons xs ys a h ih =>
    obtain ⟨ha, hys⟩ := List.nodup_cons.mp hys
    rw [List.filter_cons_of_neg (by simpa using fun hmem => ha (h.subset hmem))]
    exact ih hys
  | @cons_cons xs ys a h ih =>
    obtain ⟨ha, hys⟩ := List.nodup_cons.mp hys
    rw [List.filter_cons_of_pos (by simp)]
    refine congrArg (a :: ·) ((ih hys).trans (List.filter_congr fun x hx => ?_))
    have hne : x ≠ a := fun heq => ha (heq ▸ hx)
    simp [hne]

theorem eq_of_sublists {α : Type} [DecidableEq α] {xs ys zs : List α} (hx : xs.Sublist zs)
    (hy : ys.Sublist zs) (hzs : zs.Nodup) (h : ∀ a, a ∈ xs ↔ a ∈ ys) : xs = ys := by
  rw [eq_filter_of_sublist hx hzs, eq_filter_of_sublist hy hzs]
  simp only [h]

/-- Two lists with the same keys agree where what has the same key agrees. -/
theorem map_eq_map_of_keys {α β κ γ : Type} {xs : List α} {ys : List β} {k : α → κ} {k' : β → κ}
    {g : α → γ} {g' : β → γ} (hkeys : xs.map k = ys.map k')
    (h : ∀ x ∈ xs, ∀ y ∈ ys, k x = k' y → g x = g' y) : xs.map g = ys.map g' := by
  induction xs generalizing ys with
  | nil =>
    rw [List.map_eq_nil_iff.mp hkeys.symm]
    rfl
  | cons x xs ih =>
    obtain ⟨y, ys, rfl, hy, hys⟩ := List.map_eq_cons_iff.mp hkeys.symm
    rw [List.map_cons, List.map_cons,
      h x List.mem_cons_self y List.mem_cons_self hy.symm, ih hys.symm fun a ha b hb =>
        h a (List.mem_cons_of_mem x ha) b (List.mem_cons_of_mem y hb)]

end Wdl
