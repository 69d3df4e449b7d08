/-
Machines that step by a partial function.  A run is a list of actions, each
enabled in the state it meets; what every step keeps holds along every run.
-/
import Mathlib.Tactic.Common

universe u v

namespace Machine

variable {σ : Type u} {α : Type v} (step : σ → α → Option σ)

/-- The state after the actions, if each is enabled when its turn comes. -/
def exec : σ → List α → Option σ
  | s, [] => some s
  | s, action :: rest => (step s action).bind fun s' => exec s' rest

/-- Some run from a starting state leads here. -/
def Reachable (Start : σ → Prop) (s : σ) : Prop :=
  ∃ start actions, Start start ∧ exec step start actions = some s

variable {step}

theorem exec_cons_eq_some_iff {s final : σ} {action : α} {rest : List α} :
    exec step s (action :: rest) = some final ↔
      ∃ s', step s action = some s' ∧ exec step s' rest = some final := by
  rw [exec, Option.bind_eq_some_iff]

theorem exec_append (s : σ) (first second : List α) :
    exec step s (first ++ second) =
      (exec step s first).bind fun s' => exec step s' second := by
  induction first generalizing s with
  | nil => rfl
  | cons action rest ih =>
      rw [List.cons_append, exec, exec, Option.bind_assoc]
      simp only [ih]

/-- A property that every step keeps is kept by every run. -/
theorem exec_keeps {Inv : σ → Prop}
    (hstep : ∀ s action s', step s action = some s' → Inv s → Inv s')
    {s final : σ} {actions : List α} (hexec : exec step s actions = some final)
    (hinv : Inv s) : Inv final := by
  induction actions generalizing s with
  | nil =>
      cases hexec
      exact hinv
  | cons action rest ih =>
      obtain ⟨s', hfirst, hrest⟩ := exec_cons_eq_some_iff.mp hexec
      exact ih hrest (hstep s action s' hfirst hinv)

/-- A state in which nothing is enabled is the last one of a run. -/
theorem eq_of_exec_of_halted {s final : σ} {actions : List α}
    (hhalted : ∀ action, step s action = none)
    (hexec : exec step s actions = some final) : final = s := by
  cases actions with
  | nil =>
      cases hexec
      rfl
  | cons action rest =>
      rw [exec, hhalted action] at hexec
      cases hexec

section Rank

variable {Inv Done : σ → Prop} {rank : σ → Nat}

/-- Where a step of some kind lowers a rank and no step raises it, the rank bounds the
steps of that kind in any run. -/
theorem countP_add_rank_le {kind : α → Bool}
    (hstep : ∀ s action s', step s action = some s' →
      rank s' + (if kind action then 1 else 0) ≤ rank s)
    {s final : σ} {actions : List α} (hexec : exec step s actions = some final) :
    actions.countP kind + rank final ≤ rank s := by
  induction actions generalizing s with
  | nil =>
      cases hexec
      exact Nat.le_of_eq (Nat.zero_add _)
  | cons action rest ih =>
      obtain ⟨s', hfirst, hrest⟩ := exec_cons_eq_some_iff.mp hexec
      have hless := hstep s action s' hfirst
      have hlater := ih hrest
      rw [List.countP_cons]
      omega

/-- Where some permitted step lowers the rank of each state that is not done, permitted
steps alone lead to a state that is. -/
theorem exists_exec_done {Permitted : α → Prop}
    (hprogress : ∀ s, Inv s → ¬Done s → ∃ action s', Permitted action ∧
      step s action = some s' ∧ Inv s' ∧ rank s' < rank s)
    (s : σ) (hinv : Inv s) :
    ∃ actions final, exec step s actions = some final ∧
      (∀ action ∈ actions, Permitted action) ∧ Inv final ∧ Done final := by
  induction hrank : rank s using Nat.strongRecOn generalizing s with
  | ind left ih =>
      by_cases hdone : Done s
      · exact ⟨[], s, rfl, by simp, hinv, hdone⟩
      · obtain ⟨action, s', hpermitted, hfirst, hinv', hless⟩ := hprogress s hinv hdone
        obtain ⟨rest, final, hrest, hall, hend⟩ := ih _ (hrank ▸ hless) s' hinv' rfl
        have hexec : exec step s (action :: rest) = some final :=
          exec_cons_eq_some_iff.mpr ⟨s', hfirst, hrest⟩
        have hpermittedAll := List.forall_mem_cons.mpr ⟨hpermitted, hall⟩
        exact ⟨action :: rest, final, hexec, hpermittedAll, hend⟩

end Rank

namespace Reachable

variable {Start : σ → Prop}

/-- What holds at the start and is kept by every step is an invariant. -/
theorem keeps {Inv : σ → Prop} {s : σ} (hreach : Reachable step Start s)
    (hstart : ∀ start, Start start → Inv start)
    (hstep : ∀ s action s', step s action = some s' → Inv s → Inv s') : Inv s := by
  obtain ⟨start, actions, hbegin, hexec⟩ := hreach
  exact exec_keeps hstep hexec (hstart start hbegin)

/-- What runs on from a reachable state stays reachable. -/
theorem exec {s final : σ} {actions : List α} (hreach : Reachable step Start s)
    (hexec : Machine.exec step s actions = some final) : Reachable step Start final := by
  obtain ⟨start, before, hbegin, hbefore⟩ := hreach
  refine ⟨start, before ++ actions, hbegin, ?_⟩
  rw [exec_append, hbefore]
  exact hexec

end Reachable

end Machine
