/-
Who is to blame when a run fails.  An error that a run hands on comes from the thing
it did last; every other error the run raised itself.
-/
import AngzarrClient.Lib.Traced

universe u v w

namespace Blame

variable {E F : Type u} {ε : Type v} {α β : Type w}

/-- A run that fails raised the error itself, or what it did last raised it. -/
def Explained (own : ε → Prop) (raised : E → ε → Prop) (x : Traced E ε α) : Prop :=
  ∀ error, x.outcome = .error error →
    own error ∨ ∃ done last, x.trace = done ++ [last] ∧ raised last error

variable {own : ε → Prop} {raised : E → ε → Prop}

theorem Explained.of_ok {x : Traced E ε α} {a : α} (hx : x.outcome = .ok a) :
    Explained own raised x := by
  intro error herror
  rw [hx] at herror
  cases herror

theorem explained_pure (a : α) : Explained own raised (pure a : Traced E ε α) :=
  .of_ok rfl

theorem explained_emit (event : E) :
    Explained own raised (Traced.emit event : Traced E ε PUnit) :=
  .of_ok rfl

theorem explained_fail {error : ε} (hown : own error) :
    Explained own raised (Traced.fail error : Traced E ε α) := by
  intro other hother
  cases hother
  exact Or.inl hown

theorem explained_ofExcept {x : Except ε α} (hown : ∀ error, x = .error error → own error) :
    Explained own raised (Traced.ofExcept x : Traced E ε α) :=
  fun error herror => Or.inl (hown error herror)

/-- What is done last in the second run is done last in both. -/
theorem Explained.bind {x : Traced E ε α} {f : α → Traced E ε β}
    (hx : Explained own raised x)
    (hf : ∀ a, x.outcome = .ok a → Explained own raised (f a)) :
    Explained own raised (x >>= f) := by
  intro error herror
  cases houtcome : x.outcome with
  | error first =>
      rw [Traced.bind_of_error houtcome] at herror ⊢
      cases herror
      exact hx error houtcome
  | ok a =>
      rw [Traced.bind_of_ok houtcome] at herror ⊢
      apply (hf a houtcome error herror).imp_right
      rintro ⟨done, last, htrace, hraised⟩
      exact ⟨x.trace ++ done, last, by rw [htrace, List.append_assoc], hraised⟩

theorem Explained.map {x : Traced E ε α} (f : α → β) (hx : Explained own raised x) :
    Explained own raised (f <$> x) := by
  rw [map_eq_pure_bind]
  exact hx.bind fun a _ => explained_pure (f a)

/-- Renamed events are to blame for what they were to blame for. -/
theorem Explained.mapTrace {raised' : F → ε → Prop} {f : E → F} {x : Traced E ε α}
    (hx : Explained own raised x)
    (hraised : ∀ event error, raised event error → raised' (f event) error) :
    Explained own raised' (x.mapTrace f) := by
  intro error herror
  apply (hx error herror).imp_right
  rintro ⟨done, last, htrace, hlast⟩
  refine ⟨done.map f, f last, ?_, hraised last error hlast⟩
  rw [Traced.trace_mapTrace, htrace, List.map_append]
  rfl

theorem Explained.mono {raised' : E → ε → Prop} {x : Traced E ε α}
    (hx : Explained own raised x)
    (hraised : ∀ event error, raised event error → raised' event error) :
    Explained own raised' x := by
  intro error herror
  apply (hx error herror).imp_right
  rintro ⟨done, last, htrace, hlast⟩
  exact ⟨done, last, htrace, hraised last error hlast⟩

end Blame
