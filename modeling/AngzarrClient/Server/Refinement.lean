/-
The services over routers of generated handlers compute what the programs over the impl
blocks say: the same methods run, and the caller gets the same answer or the status of the
same error.
-/
import AngzarrClient.Router.PageRefinement
import AngzarrClient.Router.Refinement
import AngzarrClient.Server.Services

namespace AngzarrClient

open CommandHandlerRouter

section Gates

variable (prost : Prost) (aggregates : List AnyAggregate)

/-- The gate of facts is open if some aggregate declares a method for facts. -/
theorem supportsHandleFact_eq :
    supportsHandleFact ⟨aggregates.map (AnyAggregate.factory prost)⟩ =
      aggregates.any fun any => !any.aggregate.handlesFact.isEmpty := by
  rw [supportsHandleFact, List.any_map]
  congr 1
  funext any
  change (!(armUrls any.aggregate.handlesFact).isEmpty) = _
  rw [armUrls, List.isEmpty_map]

/-- The gate of replays is open if some aggregate opted in. -/
theorem supportsReplay_eq :
    supportsReplay ⟨aggregates.map (AnyAggregate.factory prost)⟩ =
      aggregates.any fun any => any.aggregate.replay.isSome := by
  rw [supportsReplay, List.any_map]
  rfl

end Gates

/-- Each RPC over generated handlers runs the methods of the program, and answers what the
program says, with the status of its error.  Facts and replays are behind their gates. -/
structure ServicesRefine (prost : Prost) : Prop where
  handle : ∀ aggregates cmd,
    (CommandHandlerGrpc.handle prost
        ⟨⟨aggregates.map (AnyAggregate.factory prost)⟩⟩ cmd).shown Event.methodRun? =
      answered (serveCommand prost aggregates cmd)
  handleFact : ∀ aggregates request,
    (CommandHandlerGrpc.handleFact
        ⟨⟨aggregates.map (AnyAggregate.factory prost)⟩⟩ request).shown Event.methodRun? =
      if aggregates.any fun any => !any.aggregate.handlesFact.isEmpty then
        answered (serveFact aggregates request)
      else
        .fail ⟨.unimplemented,
          "no #[handles_fact] methods declared on registered command_handler"⟩
  replay : ∀ aggregates request,
    (CommandHandlerGrpc.replay
        ⟨⟨aggregates.map (AnyAggregate.factory prost)⟩⟩ request).shown Event.methodRun? =
      if aggregates.any fun any => any.aggregate.replay.isSome then
        answered (serveReplay aggregates request)
      else
        .fail ⟨.unimplemented,
          "command_handler did not opt in via #[command_handler(supports_replay = true)]"⟩
  saga : ∀ sagas request,
    (SagaGrpc.handle ⟨⟨sagas.map AnySaga.factory⟩⟩ request).shown Event.methodRun? =
      answered (serveSaga sagas request)
  processManager : ∀ managers request,
    (ProcessManagerGrpc.handle
        ⟨⟨managers.map AnyProcessManager.factory⟩⟩ request).shown Event.methodRun? =
      answered (serveProcessManager managers request)
  project : ∀ projectors book,
    (ProjectorGrpc.handle ⟨⟨projectors.map AnyProjector.factory⟩⟩ book).shown
        (fun entry => entry.2.methodRun?) =
      answered (serveProjection projectors book)
  projectSpeculative : ∀ projectors book,
    (ProjectorGrpc.handleSpeculative ⟨⟨projectors.map AnyProjector.factory⟩⟩ book).shown
        (fun entry => entry.2.methodRun?) =
      answered (serveProjection projectors book)
  upcast : ∀ upcasters request,
    (UpcasterGrpc.upcast ⟨⟨upcasters.map AnyUpcaster.factory⟩⟩ request).shown
        Event.methodRun? =
      answered (serveUpcast upcasters request)

theorem services_refine (prost : Prost) : ServicesRefine prost where
  handle aggregates cmd :=
    congrArg answered (methodsOf_dispatch_command prost aggregates cmd)
  handleFact aggregates request := by
    rw [CommandHandlerGrpc.handleFact, supportsHandleFact_eq]
    split
    · exact congrArg answered (methodsOf_dispatchFact prost aggregates request)
    · rfl
  replay aggregates request := by
    rw [CommandHandlerGrpc.replay, supportsReplay_eq]
    split
    · exact congrArg answered (methodsOf_dispatchReplay prost aggregates request)
    · rfl
  saga sagas request := congrArg answered (methodsOf_dispatchSaga sagas request)
  processManager managers request :=
    congrArg answered (methodsOf_dispatchProcessManager managers request)
  project projectors book := congrArg answered (methodsOfAll_dispatch projectors book)
  projectSpeculative projectors book :=
    congrArg answered (methodsOfAll_dispatch projectors book)
  upcast upcasters request := congrArg answered (methodsOf_dispatchUpcast upcasters request)

end AngzarrClient
