/-
The handlers that `#[saga(..)]` and `#[process_manager(..)]` generate
(`expand_saga`, `expand_process_manager`).  Both act on the last page of the
triggering book; neither has a dispatch path for rejections.
-/
import AngzarrClient.Macros.Arms
import AngzarrClient.Macros.State

namespace AngzarrClient

/-- An impl block under `#[saga(name, source, target, sync)]`. -/
structure Saga (Msg : Type) where
  name : NonEmptyString
  source : NonEmptyString
  target : NonEmptyString
  sync : Bool := false
  handles : List (TypedArm Msg PUnit SagaResponse) := []
  rejected : List RejectedMark := []

namespace Saga

variable {Msg : Type} (saga : Saga Msg)

/-- The generated `config`. -/
def config : SagaConfig where
  name := saga.name.value
  source := saga.source.value
  target := saga.target.value
  sync := saga.sync
  handled := armUrls saga.handles
  rejected := saga.rejected.map RejectedMark.key

/-- The generated `dispatch`. -/
def dispatch : HandlerRequest → HandlerRun HandlerResponse
  | .saga request => do
      let eventAny ← Traced.ofExcept (lastEvent sagaErrors request.source)
      let answer ← runArms .handles ⟨⟩ eventAny saga.handles
      pure (.saga (answer.getD {}))
  | _ => .fail (.wrongRequestKind "Saga")

/-- The generated `impl Handler`. -/
def handler : Handler where
  config := .saga saga.config
  dispatch := saga.dispatch

/-- `with_handler(|| saga)`. -/
def factory : Factory where
  kind := .saga
  handler := saga.handler

variable {saga} {request : SagaHandleRequest}

theorem dispatch_of_event {eventAny : Any}
    (hevent : lastEvent sagaErrors request.source = .ok eventAny) :
    saga.dispatch (.saga request) =
      (fun answer => .saga (answer.getD {})) <$>
        runArms .handles ⟨⟩ eventAny saga.handles := by
  simp only [dispatch, hevent, Traced.ofExcept_ok, pure_bind, map_eq_pure_bind]

theorem dispatch_of_no_event {error : ClientError}
    (hevent : lastEvent sagaErrors request.source = .error error) :
    saga.dispatch (.saga request) = .fail error := by
  simp only [dispatch, hevent, Traced.ofExcept_error, Traced.fail_bind]

/-- A saga only ever runs its first arm for the last event's type. -/
theorem ran_of_mem_dispatch {run : MethodRun}
    (hmem : run ∈ (saga.dispatch (.saga request)).trace) :
    ∃ eventAny arm, lastEvent sagaErrors request.source = .ok eventAny ∧
      firstArm eventAny.typeUrl saga.handles = some arm ∧
      run = ⟨arm.method, .handles eventAny.typeUrl, eventAny⟩ := by
  cases hevent : lastEvent sagaErrors request.source with
  | error error => rw [dispatch_of_no_event hevent] at hmem; cases hmem
  | ok eventAny =>
      rw [dispatch_of_event hevent, Traced.trace_map] at hmem
      obtain ⟨arm, harm, hrun⟩ := mem_trace_runArms hmem
      exact ⟨eventAny, arm, rfl, harm, hrun⟩

/-- On an event it handles, a saga runs one method unless the event does not
decode. -/
theorem runs_or_fails {eventAny : Any}
    (hevent : lastEvent sagaErrors request.source = .ok eventAny)
    (hhandled : eventAny.typeUrl ∈ armUrls saga.handles) :
    RunsOneMethod saga.handles eventAny (saga.dispatch (.saga request)).trace ∨
      FailsToDecode saga.handles eventAny (saga.dispatch (.saga request)) := by
  rw [dispatch_of_event hevent, Traced.trace_map]
  exact (runArms_runs_or_fails hhandled).imp_right (FailsToDecode.map _)

end Saga

/-- No method ran, since a page of the history did not decode. -/
def StateModel.FailsToRebuild {S Msg α : Type} (model : StateModel S Msg)
    (pages : List EventPage) (run : HandlerRun α) : Prop :=
  run.trace = [] ∧ (∃ page ∈ pages, model.Undecodable page) ∧
    ∃ error, model.rebuild pages = .error error ∧ run.outcome = .error error

/-- An impl block under `#[process_manager(name, pm_domain, state, sources,
targets, sync_targets)]`. -/
structure ProcessManager (S Msg : Type) where
  name : NonEmptyString
  pmDomain : NonEmptyString
  state : StateModel S Msg
  sources : List NonEmptyString
  sources_ne_nil : sources ≠ []
  targets : List NonEmptyString
  targets_ne_nil : targets ≠ []
  syncTargets : List NonEmptyString := []
  syncTargets_subset : syncTargets ⊆ targets
  handles : List (TypedArm Msg S ProcessManagerHandleResponse) := []
  rejected : List RejectedMark := []

namespace ProcessManager

variable {S Msg : Type} (manager : ProcessManager S Msg)

/-- The generated `config`. -/
def config : ProcessManagerConfig where
  name := manager.name.value
  pmDomain := manager.pmDomain.value
  sources := manager.sources.map NonEmptyString.value
  targets := manager.targets.map NonEmptyString.value
  syncTargets := manager.syncTargets.map NonEmptyString.value
  handled := armUrls manager.handles
  rejected := manager.rejected.map RejectedMark.key
  applies := manager.state.applies.map fun arm => fullTypeUrl arm.eventType
  stateFactory := manager.state.stateFactory.map Prod.fst

/-- The generated `dispatch`. -/
def dispatch : HandlerRequest → HandlerRun HandlerResponse
  | .processManager request => do
      let state ← Traced.ofExcept
        (manager.state.rebuild (request.processState.getD {}).pages)
      let eventAny ← Traced.ofExcept (lastEvent pmErrors request.trigger)
      let answer ← runArms .handles state eventAny manager.handles
      pure (.processManager (answer.getD {}))
  | _ => .fail (.wrongRequestKind "ProcessManager")

/-- The generated `impl Handler`. -/
def handler : Handler where
  config := .processManager manager.config
  dispatch := manager.dispatch

/-- `with_handler(|| manager)`. -/
def factory : Factory where
  kind := .processManager
  handler := manager.handler

variable {manager} {request : ProcessManagerHandleRequest}

theorem dispatch_of_rebuild_error {error : ClientError}
    (hstate : manager.state.rebuild (request.processState.getD {}).pages =
      .error error) :
    manager.dispatch (.processManager request) = .fail error := by
  simp only [dispatch, hstate, Traced.ofExcept_error, Traced.fail_bind]

theorem dispatch_of_event {eventAny : Any} {state : S}
    (hstate : manager.state.rebuild (request.processState.getD {}).pages =
      .ok state)
    (hevent : lastEvent pmErrors request.trigger = .ok eventAny) :
    manager.dispatch (.processManager request) =
      (fun answer => .processManager (answer.getD {})) <$>
        runArms .handles state eventAny manager.handles := by
  simp only [dispatch, hstate, hevent, Traced.ofExcept_ok, pure_bind,
    map_eq_pure_bind]

theorem dispatch_of_no_event {error : ClientError} {state : S}
    (hstate : manager.state.rebuild (request.processState.getD {}).pages = .ok state)
    (hevent : lastEvent pmErrors request.trigger = .error error) :
    manager.dispatch (.processManager request) = .fail error := by
  simp only [dispatch, hstate, hevent, Traced.ofExcept_ok, pure_bind,
    Traced.ofExcept_error, Traced.fail_bind]

/-- A process manager only ever runs its first arm for the last event's type. -/
theorem ran_of_mem_dispatch {run : MethodRun}
    (hmem : run ∈ (manager.dispatch (.processManager request)).trace) :
    ∃ eventAny arm, lastEvent pmErrors request.trigger = .ok eventAny ∧
      firstArm eventAny.typeUrl manager.handles = some arm ∧
      run = ⟨arm.method, .handles eventAny.typeUrl, eventAny⟩ := by
  cases hstate : manager.state.rebuild (request.processState.getD {}).pages with
  | error error => rw [dispatch_of_rebuild_error hstate] at hmem; cases hmem
  | ok state =>
      cases hevent : lastEvent pmErrors request.trigger with
      | error error => rw [dispatch_of_no_event hstate hevent] at hmem; cases hmem
      | ok eventAny =>
          rw [dispatch_of_event hstate hevent, Traced.trace_map] at hmem
          obtain ⟨arm, harm, hrun⟩ := mem_trace_runArms hmem
          exact ⟨eventAny, arm, rfl, harm, hrun⟩

/-- On an event it handles, a process manager runs one method unless the event
or its own state does not decode. -/
theorem runs_or_fails {eventAny : Any}
    (hevent : lastEvent pmErrors request.trigger = .ok eventAny)
    (hhandled : eventAny.typeUrl ∈ armUrls manager.handles) :
    RunsOneMethod manager.handles eventAny
        (manager.dispatch (.processManager request)).trace ∨
      FailsToDecode manager.handles eventAny
          (manager.dispatch (.processManager request)) ∨
        manager.state.FailsToRebuild (request.processState.getD {}).pages
          (manager.dispatch (.processManager request)) := by
  by_cases hundecodable : ∃ page ∈ (request.processState.getD {}).pages,
      manager.state.Undecodable page
  · obtain ⟨typeUrl, cause, hstate⟩ := StateModel.rebuild_of_undecodable hundecodable
    rw [dispatch_of_rebuild_error hstate]
    exact Or.inr (Or.inr ⟨rfl, hundecodable, _, hstate, rfl⟩)
  · push Not at hundecodable
    rw [dispatch_of_event (StateModel.rebuild_of_decodable hundecodable) hevent,
      Traced.trace_map]
    exact (runArms_runs_or_fails hhandled).imp_right fun hfails => Or.inl (hfails.map _)

end ProcessManager

end AngzarrClient
