/-
Sums of answers that may fail.  Answers are added in order and the first
error ends the sum without a partial result, so a sum over a concatenation
is the sum of the sums.
-/
import Mathlib.Algebra.Group.Defs
import Mathlib.Data.List.Basic

universe u v

namespace FanOut

variable {ε : Type u} {M : Type v} [AddMonoid M]

/-- Add up the answers, up to the first error. -/
def gather : List (Except ε M) → Except ε M
  | [] => .ok 0
  | .error error :: _ => .error error
  | .ok answer :: rest => (gather rest).map (answer + ·)

@[simp] theorem gather_nil : gather ([] : List (Except ε M)) = .ok 0 := rfl

@[simp] theorem gather_error_cons (error : ε) (rest : List (Except ε M)) :
    gather (.error error :: rest) = .error error := rfl

@[simp] theorem gather_ok_cons (answer : M) (rest : List (Except ε M)) :
    gather (.ok answer :: rest) = (gather rest).map (answer + ·) := rfl

theorem gather_append (left right : List (Except ε M)) :
    gather (left ++ right) =
      (gather left).bind fun a => (gather right).map (a + ·) := by
  induction left with
  | nil =>
      cases hright : gather right with
      | error error => simp [Except.bind, Except.map, hright]
      | ok b => simp [Except.bind, Except.map, hright]
  | cons answer rest ih =>
      cases answer with
      | error error => rfl
      | ok a =>
          rw [List.cons_append, gather_ok_cons, gather_ok_cons, ih]
          cases gather rest with
          | error error => rfl
          | ok b =>
              cases gather right with
              | error error => rfl
              | ok c => simp [Except.bind, Except.map, add_assoc]

/-- The sum fails exactly with the first error among the answers. -/
theorem gather_eq_error_iff {answers : List (Except ε M)} {error : ε} :
    gather answers = .error error ↔
      ∃ before after, answers = before ++ .error error :: after ∧
        ∀ answer ∈ before, ∃ value, answer = .ok value := by
  constructor
  · intro hgather
    induction answers with
    | nil => cases hgather
    | cons answer rest ih =>
        cases answer with
        | error error' =>
            rw [gather_error_cons, Except.error.injEq] at hgather
            exact ⟨[], rest, by rw [hgather]; rfl, by simp⟩
        | ok value =>
            cases hrest : gather rest with
            | ok total => simp [hrest, Except.map] at hgather
            | error error' =>
                have herror : error' = error := by
                  simpa [hrest, Except.map] using hgather
                subst herror
                obtain ⟨before, after, rfl, hbefore⟩ := ih hrest
                refine ⟨.ok value :: before, after, rfl, ?_⟩
                intro other hother
                rcases List.mem_cons.mp hother with rfl | hother
                · exact ⟨value, rfl⟩
                · exact hbefore other hother
  · rintro ⟨before, after, rfl, hbefore⟩
    induction before with
    | nil => rfl
    | cons answer before ih =>
        obtain ⟨value, rfl⟩ := hbefore answer (by simp)
        rw [List.cons_append, gather_ok_cons,
          ih fun other hother => hbefore other (by simp [hother])]
        rfl

/-- A sum exists exactly when every answer is one. -/
theorem gather_isOk_iff {answers : List (Except ε M)} :
    (∃ total, gather answers = .ok total) ↔
      ∀ answer ∈ answers, ∃ value, answer = .ok value := by
  induction answers with
  | nil => simp
  | cons answer rest ih =>
      cases answer with
      | error error => simp
      | ok value =>
          rw [gather_ok_cons, List.forall_mem_cons, ← ih]
          cases gather rest with
          | error error => simp [Except.map]
          | ok total => simp [Except.map]

end FanOut
