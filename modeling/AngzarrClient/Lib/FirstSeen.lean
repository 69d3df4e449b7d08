/-
Loops that gather what they have not seen yet, each element at its first
occurrence.  They compute `List.eraseDups`, which keeps every element once, in the
order of the first occurrences.
-/
import Mathlib.Data.List.Induction
import Mathlib.Data.List.Nodup

universe u

namespace FirstSeen

variable {α : Type u} [DecidableEq α]

/-- Push `x` unless it is there. -/
def push (seen : List α) (x : α) : List α :=
  if x ∈ seen then seen else seen ++ [x]

theorem eraseDups_concat (xs : List α) (x : α) :
    (xs ++ [x]).eraseDups = push xs.eraseDups x := by
  rw [List.eraseDups_append, push]
  by_cases hx : x ∈ xs
  · rw [if_pos (List.mem_eraseDups.mpr hx), List.removeAll, List.filter_cons_of_neg (by simpa)]
    simp
  · rw [if_neg (mt List.mem_eraseDups.mp hx), List.removeAll,
      List.filter_cons_of_pos (by simpa)]
    simp [List.eraseDups_cons]

/-- The loop, from what an earlier loop has gathered. -/
theorem foldl_push_eraseDups (seen xs : List α) :
    xs.foldl push seen.eraseDups = (seen ++ xs).eraseDups := by
  induction xs generalizing seen with
  | nil => simp
  | cons x xs ih =>
      rw [List.foldl_cons, ← eraseDups_concat, ih, List.append_assoc, List.singleton_append]

theorem foldl_push (xs : List α) : xs.foldl push [] = xs.eraseDups := by
  simpa using foldl_push_eraseDups [] xs

theorem nodup_push {seen : List α} (x : α) (hseen : seen.Nodup) : (push seen x).Nodup := by
  rw [push]
  split
  · exact hseen
  · rename_i hx
    rw [← List.concat_eq_append]
    exact hseen.concat hx

theorem nodup_eraseDups (xs : List α) : xs.eraseDups.Nodup := by
  induction xs using List.reverseRecOn with
  | nil => simp
  | append_singleton xs x ih =>
      rw [eraseDups_concat]
      exact nodup_push x ih

theorem filter_push (p : α → Bool) (seen : List α) (x : α) :
    (push seen x).filter p = if p x then push (seen.filter p) x else seen.filter p := by
  by_cases hp : p x = true
  · by_cases hx : x ∈ seen
    · simp [push, hx, hp]
    · simp [push, hx, hp]
  · rw [if_neg hp, push]
    split
    · rfl
    · simp [hp]

/-- It does not matter whether a condition is tested before or after. -/
theorem eraseDups_filter (p : α → Bool) (xs : List α) :
    (xs.filter p).eraseDups = xs.eraseDups.filter p := by
  induction xs using List.reverseRecOn with
  | nil => simp
  | append_singleton xs x ih =>
      rw [eraseDups_concat, filter_push, List.filter_append]
      by_cases hp : p x = true
      · rw [if_pos hp, List.filter_cons_of_pos hp, List.filter_nil, eraseDups_concat, ih]
      · rw [if_neg hp, List.filter_cons_of_neg hp, List.filter_nil, List.append_nil, ih]

/-- The elements stand in the order of their first occurrences. -/
theorem pairwise_idxOf_eraseDups (xs : List α) :
    xs.eraseDups.Pairwise fun x y => xs.idxOf x < xs.idxOf y := by
  induction xs using List.reverseRecOn with
  | nil => simp
  | append_singleton xs x ih =>
      have hearlier : ∀ y ∈ xs, (xs ++ [x]).idxOf y = xs.idxOf y := by
        intro y hy
        exact List.idxOf_append_of_mem hy
      have hkept : xs.eraseDups.Pairwise fun y z =>
          (xs ++ [x]).idxOf y < (xs ++ [x]).idxOf z := by
        refine ih.imp_of_mem ?_
        intro y z hy hz hlt
        rwa [hearlier y (List.mem_eraseDups.mp hy), hearlier z (List.mem_eraseDups.mp hz)]
      rw [eraseDups_concat, push]
      split
      · exact hkept
      · rename_i hx
        have hnew : x ∉ xs := mt List.mem_eraseDups.mpr hx
        rw [List.pairwise_append]
        refine ⟨hkept, List.pairwise_singleton _ _, ?_⟩
        intro y hy z hz
        obtain rfl := List.mem_singleton.mp hz
        have hmem := List.mem_eraseDups.mp hy
        rw [hearlier y hmem, List.idxOf_append_of_notMem hnew]
        exact Nat.lt_of_lt_of_le (List.idxOf_lt_length_of_mem hmem) (Nat.le_add_right _ _)

end FirstSeen
