/-
Journals: a list that grows at its end until some step writes it anew.  After a run it
holds what the last such step wrote, and what the steps after it added.
-/
import Mathlib.Data.List.DropRight
import Mathlib.Data.List.Induction

universe u v w

namespace Journal

variable {σ : Type u} {ω : Type v} {α : Type w}

/-- The last step that writes anew, if there is one, and the steps after it. -/
def sinceRewritten (rewrites : ω → Bool) (steps : List ω) : List ω :=
  (steps.rdropWhile fun step => !rewrites step).getLast?.toList ++
    steps.rtakeWhile fun step => !rewrites step

/-- Each step either writes the field anew or adds at its end. -/
structure Keeps (apply : σ → ω → σ) (field : σ → List α) (rewrites : ω → Bool)
    (written : ω → List α) : Prop where
  rewritten : ∀ s step, rewrites step = true → field (apply s step) = written step
  appended : ∀ s step, rewrites step = false →
    field (apply s step) = field s ++ written step

theorem sinceRewritten_concat_of_rewrites {rewrites : ω → Bool} {step : ω}
    (hrewrites : rewrites step = true) (steps : List ω) :
    sinceRewritten rewrites (steps ++ [step]) = [step] := by
  have hdrop := List.rdropWhile_concat_neg (fun step => !rewrites step) steps step
    (by simp [hrewrites])
  have htake := List.rtakeWhile_concat_neg (fun step => !rewrites step) steps step
    (by simp [hrewrites])
  rw [sinceRewritten, hdrop, htake, List.getLast?_concat]
  rfl

theorem sinceRewritten_concat_of_keeps {rewrites : ω → Bool} {step : ω}
    (hrewrites : rewrites step = false) (steps : List ω) :
    sinceRewritten rewrites (steps ++ [step]) =
      sinceRewritten rewrites steps ++ [step] := by
  have hdrop := List.rdropWhile_concat_pos (fun step => !rewrites step) steps step
    (by simp [hrewrites])
  have htake := List.rtakeWhile_concat_pos (fun step => !rewrites step) steps step
    (by simp [hrewrites])
  rw [sinceRewritten, hdrop, htake, ← List.append_assoc, ← sinceRewritten]

/-- A field that starts out empty holds what the steps from the last rewriting one on
wrote. -/
theorem Keeps.foldl {apply : σ → ω → σ} {field : σ → List α} {rewrites : ω → Bool}
    {written : ω → List α} (hkeeps : Keeps apply field rewrites written) {s : σ}
    (hempty : field s = []) (steps : List ω) :
    field (steps.foldl apply s) = (sinceRewritten rewrites steps).flatMap written := by
  induction steps using List.reverseRecOn with
  | nil => exact hempty
  | append_singleton steps step ih =>
      rw [List.foldl_append, List.foldl_cons, List.foldl_nil]
      cases hrewrites : rewrites step with
      | true =>
          rw [hkeeps.rewritten _ step hrewrites,
            sinceRewritten_concat_of_rewrites hrewrites, List.flatMap_singleton]
      | false =>
          rw [hkeeps.appended _ step hrewrites,
            sinceRewritten_concat_of_keeps hrewrites, ih, List.flatMap_append,
            List.flatMap_singleton]

end Journal
