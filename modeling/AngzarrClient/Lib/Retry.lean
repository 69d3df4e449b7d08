/-
Retrying with backoff.  The attempts of a bounded retry end with the first
success or with the last permitted attempt; a pause stands between every two of
them.  The pauses double up to a cap, and a bound on the doublings is not seen
where the cap is reached before it.
-/
import Mathlib.Algebra.Order.Ring.Nat

universe u v w

namespace Retry

section Attempts

variable {ε : Type u} {α : Type v} (outcome : Nat → Except ε α)

/-- How many of the attempts permitted from `start` on are made. -/
def attempts : Nat → Nat → Nat
  | _, 0 => 0
  | start, permitted + 1 =>
      match outcome start with
      | .ok _ => 1
      | .error _ => attempts (start + 1) permitted + 1

variable {outcome} {start permitted : Nat}

theorem attempts_of_ok {a : α} (hok : outcome start = .ok a) :
    attempts outcome start (permitted + 1) = 1 := by
  rw [attempts, hok]

theorem attempts_of_error {e : ε} (herror : outcome start = .error e) :
    attempts outcome start (permitted + 1) = attempts outcome (start + 1) permitted + 1 := by
  rw [attempts, herror]

theorem attempts_pos : 0 < attempts outcome start (permitted + 1) := by
  cases hstart : outcome start with
  | ok a => rw [attempts_of_ok hstart]; omega
  | error e => rw [attempts_of_error hstart]; omega

theorem attempts_le : attempts outcome start permitted ≤ permitted := by
  induction permitted generalizing start with
  | zero => exact Nat.le_refl 0
  | succ permitted ih =>
      cases hstart : outcome start with
      | ok a => rw [attempts_of_ok hstart]; omega
      | error e =>
          rw [attempts_of_error hstart]
          exact Nat.succ_le_succ ih

/-- Every attempt but the last one made has failed. -/
theorem failed_of_lt_attempts {k : Nat}
    (hk : k + 1 < attempts outcome start permitted) :
    ∃ e, outcome (start + k) = .error e := by
  induction permitted generalizing start k with
  | zero => exact absurd hk (Nat.not_lt_zero _)
  | succ permitted ih =>
      cases hstart : outcome start with
      | ok a => rw [attempts_of_ok hstart] at hk; omega
      | error e =>
          rw [attempts_of_error hstart] at hk
          cases k with
          | zero => exact ⟨e, hstart⟩
          | succ k =>
              obtain ⟨e, he⟩ := @ih (start + 1) k (by omega)
              refine ⟨e, ?_⟩
              rwa [Nat.add_assoc, Nat.add_comm 1 k] at he

/-- The last attempt made is a success, or the last one permitted. -/
theorem last_of_attempts :
    (∃ a, outcome (start + (attempts outcome start (permitted + 1) - 1)) = .ok a) ∨
      attempts outcome start (permitted + 1) = permitted + 1 := by
  induction permitted generalizing start with
  | zero =>
      cases hstart : outcome start with
      | ok a => exact Or.inr (attempts_of_ok hstart)
      | error e => exact Or.inr (attempts_of_error hstart)
  | succ permitted ih =>
      cases hstart : outcome start with
      | ok a =>
          rw [attempts_of_ok hstart]
          exact Or.inl ⟨a, hstart⟩
      | error e =>
          rw [attempts_of_error hstart]
          have hpos : 0 < attempts outcome (start + 1) (permitted + 1) := attempts_pos
          rcases @ih (start + 1) with ⟨a, ha⟩ | hall
          · refine Or.inl ⟨a, ?_⟩
            rw [← ha]
            congr 1
            omega
          · exact Or.inr (by omega)

end Attempts

section Rounds

variable {β : Type w} (attempt pause : Nat → List β)

/-- `n` attempts from `start` on, a pause between every two. -/
def rounds : Nat → Nat → List β
  | _, 0 => []
  | start, 1 => attempt start
  | start, n + 2 => attempt start ++ pause start ++ rounds (start + 1) (n + 1)

variable {attempt pause}

theorem rounds_succ {start n : Nat} (hn : 0 < n) :
    rounds attempt pause start (n + 1) =
      attempt start ++ pause start ++ rounds attempt pause (start + 1) n := by
  cases n with
  | zero => exact absurd hn (Nat.lt_irrefl 0)
  | succ n => rfl

theorem rounds_one (start : Nat) : rounds attempt pause start 1 = attempt start := rfl

/-- What is kept of the pauses is kept once between every two attempts, where
nothing is kept of the attempts. -/
theorem filterMap_rounds_pauses {γ : Type w} {f : β → Option γ}
    (hattempt : ∀ k, (attempt k).filterMap f = []) (start n : Nat) :
    (rounds attempt pause start n).filterMap f =
      (List.range' start (n - 1)).flatMap fun k => (pause k).filterMap f := by
  induction n generalizing start with
  | zero => rfl
  | succ n ih =>
      cases n with
      | zero => rw [rounds_one, hattempt]; rfl
      | succ n =>
          rw [rounds_succ (Nat.succ_pos n), List.filterMap_append, List.filterMap_append,
            hattempt, List.nil_append, ih]
          rfl

end Rounds

section Delay

variable (base cap limit : Nat)

/-- `base` doubled for each attempt, at most `limit` times, and capped. -/
def delay (attempt : Nat) : Nat :=
  min (base * 2 ^ min attempt limit) cap

theorem delay_le_cap (attempt : Nat) : delay base cap limit attempt ≤ cap :=
  Nat.min_le_right _ _

theorem delay_mono {a b : Nat} (hab : a ≤ b) :
    delay base cap limit a ≤ delay base cap limit b := by
  have hexp : min a limit ≤ min b limit := by omega
  exact min_le_min (Nat.mul_le_mul_left _ (Nat.pow_le_pow_right (by decide) hexp)) le_rfl

variable {base cap limit}

/-- The limit is not seen where the cap is reached before it. -/
theorem delay_eq_of_cap_le (hcap : cap ≤ base * 2 ^ limit) (attempt : Nat) :
    delay base cap limit attempt = min (base * 2 ^ attempt) cap := by
  rw [delay]
  rcases Nat.le_total attempt limit with hle | hle
  · rw [Nat.min_eq_left hle]
  · have hpow : base * 2 ^ limit ≤ base * 2 ^ attempt :=
      Nat.mul_le_mul_left _ (Nat.pow_le_pow_right (by decide) hle)
    rw [Nat.min_eq_right hle, Nat.min_eq_right hcap, Nat.min_eq_right (hcap.trans hpow)]

end Delay

end Retry
