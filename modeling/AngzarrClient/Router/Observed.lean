/-
What an observer is shown of a router who only asks for the methods that run.  The two
loops over the factories then run the items behind these, one after the other, as far as
they react.
-/
import AngzarrClient.Router.RunsArm

universe u

namespace AngzarrClient

open Traced

/-- The methods of a run, with its outcome. -/
abbrev methodsOf {α : Type} (run : Run α) : HandlerRun α := run.shown Event.methodRun?

theorem methodsOf_bind {α β : Type} (run : Run α) (f : α → Run β) :
    methodsOf (run >>= f) = methodsOf run >>= fun a => methodsOf (f a) :=
  shown_bind run f

@[simp] theorem methodsOf_call (handler : Handler) (request : HandlerRequest) :
    methodsOf (handler.call request) = handler.dispatch request :=
  Traced.ext (methodRuns_call handler request) rfl

@[simp] theorem methodsOf_produce_bind {α : Type} (factory : Factory)
    (f : Handler → Run α) :
    methodsOf (factory.produce >>= f) = methodsOf (f factory.handler) := by
  rw [Factory.produce, bind_assoc]
  exact shown_emit_bind rfl _

section Loops

variable {ι : Type u} {α σ : Type} {factory : ι → Factory}
  {selects : HandlerConfig → Bool} {unwrap : HandlerResponse → Except ClientError α}
  (wrap : α → HandlerResponse)

/-- A loop that commits to the first match runs the first item that reacts. -/
theorem methodsOf_dispatchFirst {reaction : ι → Option (HandlerRun α)}
    {request : HandlerRequest}
    (hselects : ∀ item, selects (factory item).handler.config = (reaction item).isSome)
    (hdispatch : ∀ item run, reaction item = some run →
      (factory item).handler.dispatch request = wrap <$> run)
    (hunwrap : ∀ answer, unwrap (wrap answer) = .ok answer) (otherwise : Run α)
    (items : List ι) :
    methodsOf (dispatchFirst selects request unwrap otherwise (items.map factory)) =
      match items.findSome? reaction with
      | some run => run
      | none => methodsOf otherwise := by
  induction items with
  | nil => rfl
  | cons item rest ih =>
      rw [List.map_cons, dispatchFirst, methodsOf_produce_bind, hselects,
        List.findSome?_cons]
      cases hreaction : reaction item with
      | none => exact ih
      | some run =>
          rw [Option.isSome_some, if_pos rfl, methodsOf_bind]
          simp only [methodsOf_call, hdispatch item run hreaction]
          simp [hunwrap]

/-- A merging loop runs the items that react one after the other, each on what is merged
so far, up to the first that fails. -/
theorem methodsOf_dispatchEach {reaction : ι → Option (σ → HandlerRun α)}
    {request : σ → HandlerRequest} (merge : σ → α → σ)
    (hselects : ∀ item, selects (factory item).handler.config = (reaction item).isSome)
    (hdispatch : ∀ item run merged, reaction item = some run →
      (factory item).handler.dispatch (request merged) = wrap <$> run merged)
    (hunwrap : ∀ answer, unwrap (wrap answer) = .ok answer) (items : List ι) (merged : σ) :
    methodsOf (dispatchEach selects request unwrap merge merged (items.map factory)) =
      (items.filterMap reaction).foldlM (fun merged run => merge merged <$> run merged)
        merged := by
  induction items generalizing merged with
  | nil => rfl
  | cons item rest ih =>
      rw [List.map_cons, dispatchEach, methodsOf_produce_bind, hselects]
      cases hreaction : reaction item with
      | none =>
          rw [List.filterMap_cons_none hreaction]
          exact ih merged
      | some run =>
          rw [List.filterMap_cons_some hreaction, List.foldlM_cons, Option.isSome_some,
            if_pos rfl, methodsOf_bind]
          simp only [methodsOf_bind, ih, methodsOf_call, hdispatch item run merged hreaction]
          simp [hunwrap]

/-- Runs that do not depend on what is merged give all their answers, which are merged
then. -/
theorem foldlM_merge_eq (merge : σ → α → σ) (runs : List (HandlerRun α)) (merged : σ) :
    runs.foldlM (fun merged run => merge merged <$> run) merged =
      (·.foldl merge merged) <$> runs.mapM id := by
  induction runs generalizing merged with
  | nil => rfl
  | cons run rest ih =>
      rw [List.foldlM_cons, List.mapM_cons]
      simp [ih]

/-- The merging loop over such items. -/
theorem methodsOf_dispatchEach_const {reaction : ι → Option (HandlerRun α)}
    {request : σ → HandlerRequest} (merge : σ → α → σ)
    (hselects : ∀ item, selects (factory item).handler.config = (reaction item).isSome)
    (hdispatch : ∀ item run merged, reaction item = some run →
      (factory item).handler.dispatch (request merged) = wrap <$> run)
    (hunwrap : ∀ answer, unwrap (wrap answer) = .ok answer) (items : List ι) (merged : σ) :
    methodsOf (dispatchEach selects request unwrap merge merged (items.map factory)) =
      (·.foldl merge merged) <$> (items.filterMap reaction).mapM id := by
  have hloop := methodsOf_dispatchEach wrap merge
    (fun item => (hselects item).trans (Option.isSome_map (f := fun run _ => run)).symm)
    (fun item run merged hreaction => by
      obtain ⟨constant, hconstant, rfl⟩ := Option.map_eq_some_iff.mp hreaction
      exact hdispatch item constant merged hconstant) hunwrap items merged
  rw [hloop, ← List.map_filterMap, List.foldlM_map, foldlM_merge_eq]

end Loops

end AngzarrClient
