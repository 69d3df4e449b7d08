/-
Records that are written field by field.  After a run of writes a field holds the
last value that was written to it, so writes of different fields can change places.
-/
import Mathlib.Data.List.Basic

universe u v w x

namespace LastWrite

variable {σ : Type u} {ω : Type v} {φ : Type w} {ψ : Type x}

/-- The last of the values that the steps write. -/
def last? (written : ω → Option φ) (steps : List ω) : Option φ :=
  (steps.filterMap written).getLast?

/-- A step either writes the field or leaves it as it is. -/
def Writes (apply : σ → ω → σ) (field : σ → φ) (written : ω → Option φ) : Prop :=
  ∀ s step, field (apply s step) = (written step).getD (field s)

/-- The same for a field that is empty until it is written. -/
def Fills (apply : σ → ω → σ) (field : σ → Option φ) (written : ω → Option φ) : Prop :=
  ∀ s step, field (apply s step) = (written step).or (field s)

section Last

variable {written : ω → Option φ} {steps : List ω} {step : ω}

@[simp] theorem last?_nil : last? written [] = none := rfl

/-- The first step only counts where no later one writes. -/
theorem last?_cons : last? written (step :: steps) = (last? written steps).or (written step) := by
  rw [last?, last?]
  cases hstep : written step with
  | none => rw [List.filterMap_cons_none hstep, Option.or_none]
  | some value =>
      rw [List.filterMap_cons_some hstep, List.getLast?_cons]
      cases (steps.filterMap written).getLast? with
      | none => rfl
      | some later => rfl

theorem last?_eq_none_iff :
    last? written steps = none ↔ ∀ step ∈ steps, written step = none := by
  rw [last?, List.getLast?_eq_none_iff, List.filterMap_eq_nil_iff]

/-- Writing a part of a value is writing the value, and taking the part at the end. -/
theorem last?_map (f : φ → ψ) :
    last? (fun step => (written step).map f) steps = (last? written steps).map f := by
  induction steps with
  | nil => rfl
  | cons step rest ih => rw [last?_cons, last?_cons, ih, Option.map_or]

end Last

section Run

variable {apply : σ → ω → σ} {written : ω → Option φ}

/-- After a run of writes the field holds the last value written to it. -/
theorem Writes.foldl {field : σ → φ} (hwrites : Writes apply field written) (s : σ)
    (steps : List ω) :
    field (steps.foldl apply s) = (last? written steps).getD (field s) := by
  induction steps generalizing s with
  | nil => rfl
  | cons step rest ih =>
      rw [List.foldl_cons, ih, hwrites, last?_cons, Option.getD_or]

theorem Fills.foldl {field : σ → Option φ} (hfills : Fills apply field written) (s : σ)
    (steps : List ω) :
    field (steps.foldl apply s) = (last? written steps).or (field s) := by
  induction steps generalizing s with
  | nil => rfl
  | cons step rest ih =>
      rw [List.foldl_cons, ih, hfills, last?_cons, Option.or_assoc]

/-- A field that no step writes keeps its value. -/
theorem Writes.foldl_of_untouched {field : σ → φ}
    (huntouched : ∀ s step, field (apply s step) = field s) (s : σ) (steps : List ω) :
    field (steps.foldl apply s) = field s := by
  apply (@Writes.foldl _ _ _ apply (fun _ => none) field huntouched s steps).trans
  rw [last?_eq_none_iff.mpr fun _ _ => rfl]
  rfl

end Run

end LastWrite
