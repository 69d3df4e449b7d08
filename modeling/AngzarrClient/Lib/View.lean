/-
What an observer is shown of a run, and runs that the observer cannot tell apart: they
end alike, and the events that are shown are the same, whatever else they did.
-/
import AngzarrClient.Lib.Traced

universe u v w

namespace Traced

variable {E F : Type u} {ε : Type v} {α β : Type w} {view : E → Option F}

/-- The run as an observer sees it. -/
def shown (view : E → Option F) (x : Traced E ε α) : Traced F ε α :=
  ⟨x.trace.filterMap view, x.outcome⟩

@[simp] theorem shown_pure (a : α) :
    (pure a : Traced E ε α).shown view = (pure a : Traced F ε α) := rfl

@[simp] theorem shown_ofExcept (x : Except ε α) :
    (ofExcept x : Traced E ε α).shown view = ofExcept x := rfl

@[simp] theorem shown_bind (x : Traced E ε α) (f : α → Traced E ε β) :
    (x >>= f).shown view = x.shown view >>= fun a => (f a).shown view := by
  cases hx : x.outcome with
  | error error =>
      have hshown : (x.shown view).outcome = .error error := hx
      rw [bind_of_error hx, bind_of_error hshown]
      rfl
  | ok a =>
      have hshown : (x.shown view).outcome = .ok a := hx
      rw [bind_of_ok hx, bind_of_ok hshown, shown, List.filterMap_append]
      rfl

@[simp] theorem shown_map (f : α → β) (x : Traced E ε α) :
    (f <$> x).shown view = f <$> x.shown view := by
  rw [map_eq_pure_bind, shown_bind, map_eq_pure_bind]
  rfl

/-- A step that the observer is not shown does not matter. -/
theorem shown_emit_bind {event : E} (hevent : view event = none)
    (f : PUnit → Traced E ε β) : (emit event >>= f).shown view = (f ⟨⟩).shown view := by
  rw [emit_bind, shown, List.filterMap_cons_none hevent]
  rfl

/-- Two runs that end alike and show the same events. -/
structure SameView (view : E → Option F) (x y : Traced E ε α) : Prop where
  outcome : x.outcome = y.outcome
  shown : x.trace.filterMap view = y.trace.filterMap view

theorem sameView_iff {x y : Traced E ε α} :
    SameView view x y ↔ x.shown view = y.shown view := by
  constructor
  · rintro ⟨houtcome, hshown⟩
    exact Traced.ext hshown houtcome
  · intro heq
    have houtcome := congrArg Traced.outcome heq
    have hshown := congrArg Traced.trace heq
    exact ⟨houtcome, hshown⟩

theorem SameView.refl (x : Traced E ε α) : SameView view x x := ⟨rfl, rfl⟩

/-- Runs that look alike are followed by runs that look alike. -/
theorem SameView.bind {x y : Traced E ε α} {f g : α → Traced E ε β}
    (hxy : SameView view x y) (hfg : ∀ a, SameView view (f a) (g a)) :
    SameView view (x >>= f) (y >>= g) := by
  rw [sameView_iff, shown_bind, shown_bind, sameView_iff.mp hxy]
  exact congrArg _ (funext fun a => sameView_iff.mp (hfg a))

/-- Steps that the observer is not shown do not matter. -/
theorem sameView_emit_bind {first second : E} (hfirst : view first = none)
    (hsecond : view second = none) {f g : PUnit → Traced E ε β}
    (hfg : SameView view (f ⟨⟩) (g ⟨⟩)) :
    SameView view (emit first >>= f) (emit second >>= g) := by
  rw [sameView_iff, shown_emit_bind hfirst, shown_emit_bind hsecond]
  exact sameView_iff.mp hfg

end Traced
