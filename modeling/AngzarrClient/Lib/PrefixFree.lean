/-
Prefix codes: words that can be told apart, and cut off, whatever follows them.
-/
import Mathlib.Data.List.Basic

namespace PrefixFree

universe u

variable {α : Type u} {words : List (List α)}

/-- No word of the list starts another one. -/
def Code (words : List (List α)) : Prop :=
  ∀ word ∈ words, ∀ other ∈ words, word <+: other → word = other

/-- Of two words that start one list, one starts the other. -/
theorem Code.append_inj (hcode : Code words) {word other rest rest' : List α}
    (hword : word ∈ words) (hother : other ∈ words)
    (heq : word ++ rest = other ++ rest') :
    word = other ∧ rest = rest' := by
  have hwords : word = other := by
    rcases List.prefix_or_prefix_of_prefix (List.prefix_append word rest)
      (heq ▸ List.prefix_append other rest') with hstarts | hstarts
    · exact hcode word hword other hother hstarts
    · exact (hcode other hother word hword hstarts).symm
  subst hwords
  exact ⟨rfl, List.append_cancel_left heq⟩

end PrefixFree
