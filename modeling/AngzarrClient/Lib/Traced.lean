/-
Fallible computations that leave a trace.  The trace is kept when the
computation fails, so a statement can say what had been done by the time an
error came back, and a sequence of computations stops at the first error.
-/
import Mathlib.Data.List.Basic
import Mathlib.Tactic.Common

universe u v w

/-- The events emitted so far and the outcome: a value, or the error that
ended the computation. -/
structure Traced (E : Type u) (ε : Type v) (α : Type w) where
  trace : List E
  outcome : Except ε α

namespace Traced

variable {E F : Type u} {ε : Type v} {α β : Type w}

@[ext] theorem ext {x y : Traced E ε α} (htrace : x.trace = y.trace)
    (houtcome : x.outcome = y.outcome) : x = y := by
  cases x
  cases y
  simp_all

/-- Return a value and emit nothing. -/
protected def pure (a : α) : Traced E ε α := ⟨[], .ok a⟩

/-- Run `x`, then `f` on its value; an error of `x` ends the run there. -/
protected def bind (x : Traced E ε α) (f : α → Traced E ε β) : Traced E ε β :=
  match x.outcome with
  | .ok a => ⟨x.trace ++ (f a).trace, (f a).outcome⟩
  | .error e => ⟨x.trace, .error e⟩

instance : Monad (Traced E ε) where
  pure := Traced.pure
  bind := Traced.bind

/-- End the run with an error. -/
def fail (e : ε) : Traced E ε α := ⟨[], .error e⟩

/-- A step that emits nothing. -/
def ofExcept (x : Except ε α) : Traced E ε α := ⟨[], x⟩

/-- Emit one event. -/
def emit (e : E) : Traced E ε PUnit := ⟨[e], .ok ⟨⟩⟩

/-- Rename the events of a run. -/
def mapTrace (f : E → F) (x : Traced E ε α) : Traced F ε α :=
  ⟨x.trace.map f, x.outcome⟩

@[simp] theorem trace_pure (a : α) : (pure a : Traced E ε α).trace = [] := rfl

@[simp] theorem outcome_pure (a : α) :
    (pure a : Traced E ε α).outcome = .ok a := rfl

@[simp] theorem trace_fail (e : ε) : (fail e : Traced E ε α).trace = [] := rfl

@[simp] theorem outcome_fail (e : ε) :
    (fail e : Traced E ε α).outcome = .error e := rfl

@[simp] theorem trace_ofExcept (x : Except ε α) :
    (ofExcept x : Traced E ε α).trace = [] := rfl

@[simp] theorem outcome_ofExcept (x : Except ε α) :
    (ofExcept x : Traced E ε α).outcome = x := rfl

@[simp] theorem ofExcept_ok (a : α) :
    (ofExcept (.ok a) : Traced E ε α) = pure a := rfl

@[simp] theorem ofExcept_error (e : ε) :
    (ofExcept (.error e) : Traced E ε α) = fail e := rfl

@[simp] theorem trace_mapTrace (f : E → F) (x : Traced E ε α) :
    (x.mapTrace f).trace = x.trace.map f := rfl

@[simp] theorem outcome_mapTrace (f : E → F) (x : Traced E ε α) :
    (x.mapTrace f).outcome = x.outcome := rfl

theorem bind_of_ok {x : Traced E ε α} {a : α} (hx : x.outcome = .ok a)
    (f : α → Traced E ε β) :
    x >>= f = ⟨x.trace ++ (f a).trace, (f a).outcome⟩ := by
  change Traced.bind x f = _
  rw [Traced.bind, hx]

theorem bind_of_error {x : Traced E ε α} {e : ε} (hx : x.outcome = .error e)
    (f : α → Traced E ε β) : x >>= f = ⟨x.trace, .error e⟩ := by
  change Traced.bind x f = _
  rw [Traced.bind, hx]

@[simp] theorem fail_bind (e : ε) (f : α → Traced E ε β) :
    (fail e >>= f : Traced E ε β) = fail e := rfl

@[simp] theorem outcome_bind (x : Traced E ε α) (f : α → Traced E ε β) :
    (x >>= f).outcome = x.outcome.bind fun a => (f a).outcome := by
  cases hx : x.outcome with
  | ok a => rw [bind_of_ok hx]; rfl
  | error e => rw [bind_of_error hx]; rfl

instance : LawfulMonad (Traced E ε) := LawfulMonad.mk' (Traced E ε)
  (fun x => by
    change Traced.bind x Traced.pure = x
    cases x with
    | mk trace outcome => cases outcome <;> simp [Traced.bind, Traced.pure])
  (fun _ _ => rfl)
  (fun x f g => by
    change Traced.bind (Traced.bind x f) g =
      Traced.bind x fun a => Traced.bind (f a) g
    cases x with
    | mk trace outcome =>
        cases outcome with
        | error e => rfl
        | ok a =>
            simp only [Traced.bind]
            cases (f a).outcome <;> simp)

@[simp] theorem outcome_map (f : α → β) (x : Traced E ε α) :
    (f <$> x).outcome = x.outcome.map f := by
  rw [map_eq_pure_bind, outcome_bind]
  cases x.outcome <;> rfl

@[simp] theorem trace_map (f : α → β) (x : Traced E ε α) :
    (f <$> x).trace = x.trace := by
  rw [map_eq_pure_bind]
  cases hx : x.outcome with
  | ok a => simp [bind_of_ok hx]
  | error e => rw [bind_of_error hx]

@[simp] theorem emit_bind (e : E) (f : PUnit → Traced E ε β) :
    (emit e >>= f : Traced E ε β) = ⟨e :: (f ⟨⟩).trace, (f ⟨⟩).outcome⟩ := rfl

end Traced
