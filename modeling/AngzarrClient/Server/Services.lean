/-
The gRPC services over the routers (`handler.rs`), and what an error status says about
the run that ended with it.
-/
import AngzarrClient.Grpc
import AngzarrClient.Router.Attribution

namespace AngzarrClient

open Blame

variable {E α : Type}

/-- `.map_err(client_error_to_status)`. -/
def answered (run : Traced E ClientError α) : Traced E Status α where
  trace := run.trace
  outcome := run.outcome.mapError clientErrorToStatus

/-- `CommandHandlerGrpc::handle`. -/
def CommandHandlerGrpc.handle (prost : Prost) (service : CommandHandlerGrpc)
    (request : ContextualCommand) : Traced Event Status BusinessResponse :=
  answered (service.router.dispatch prost request)

/-- `CommandHandlerGrpc::handle_fact`: UNIMPLEMENTED unless some handler declares a
`#[handles_fact]` method. -/
def CommandHandlerGrpc.handleFact (service : CommandHandlerGrpc) (request : FactRequest) :
    Traced Event Status EventBook :=
  if service.router.supportsHandleFact then answered (service.router.dispatchFact request)
  else
    .fail ⟨.unimplemented,
      "no #[handles_fact] methods declared on registered command_handler"⟩

/-- `SagaGrpc`. -/
structure SagaGrpc where
  router : SagaRouter

/-- `SagaGrpc::handle`. -/
def SagaGrpc.handle (service : SagaGrpc) (request : SagaHandleRequest) :
    Traced Event Status SagaResponse :=
  answered (service.router.dispatch request)

/-- `ProcessManagerGrpc`. -/
structure ProcessManagerGrpc where
  router : ProcessManagerRouter

/-- `ProcessManagerGrpc::handle`. -/
def ProcessManagerGrpc.handle (service : ProcessManagerGrpc)
    (request : ProcessManagerHandleRequest) :
    Traced Event Status ProcessManagerHandleResponse :=
  answered (service.router.dispatch request)

/-- `ProjectorGrpc`. -/
structure ProjectorGrpc where
  router : ProjectorRouter

/-- `ProjectorGrpc::handle`. -/
def ProjectorGrpc.handle (service : ProjectorGrpc) (request : EventBook) :
    Traced (Nat × Event) Status Projection :=
  answered (service.router.dispatch request)

/-- `ProjectorGrpc::handle_speculative`: a projection like any other. -/
def ProjectorGrpc.handleSpeculative (service : ProjectorGrpc) (request : EventBook) :
    Traced (Nat × Event) Status Projection :=
  service.handle request

/-- `UpcasterGrpc`. -/
structure UpcasterGrpc where
  router : UpcasterRouter

/-- `UpcasterGrpc::upcast`. -/
def UpcasterGrpc.upcast (service : UpcasterGrpc) (request : UpcastRequest) :
    Traced Event Status UpcastResponse :=
  answered (service.router.dispatch request)

/-- A status that a service may answer after the events: the framework's own one, under
one of its fixed messages, or the rejection of the method that ran last. -/
def StatusExplained (prost : Prost) (factories : List Factory) (events : List Event)
    (status : Status) : Prop :=
  (∃ message ∈ messages.ofRouters, status = ⟨.invalidArgument, message⟩) ∨
    ∃ done run rejection, events = done ++ [.ran run] ∧
      RejectedBy prost factories run rejection ∧ status = rejection.toStatus

/-- A call of one of the RPCs that the services offer. -/
inductive ServiceCall
  | handle (request : ContextualCommand)
  | handleFact (request : FactRequest)
  | replay (request : ReplayRequest)
  | handleSaga (request : SagaHandleRequest)
  | handleProcessManager (request : ProcessManagerHandleRequest)
  | project (request : EventBook)
  | projectSpeculative (request : EventBook)
  | upcast (request : UpcastRequest)
deriving DecidableEq, Repr

/-- A run without its answer. -/
def dropped {ε : Type} (run : Traced E ε α) : Traced E ε PUnit := (fun _ => ⟨⟩) <$> run

/-- The call of a service over a router with the given factories, without its answer. -/
def ServiceCall.serve (prost : Prost) (factories : List Factory) :
    ServiceCall → Traced Event Status PUnit
  | .handle request => dropped (CommandHandlerGrpc.handle prost ⟨⟨factories⟩⟩ request)
  | .handleFact request => dropped (CommandHandlerGrpc.handleFact ⟨⟨factories⟩⟩ request)
  | .replay request => dropped (CommandHandlerGrpc.replay ⟨⟨factories⟩⟩ request)
  | .handleSaga request => dropped (SagaGrpc.handle ⟨⟨factories⟩⟩ request)
  | .handleProcessManager request =>
      dropped (ProcessManagerGrpc.handle ⟨⟨factories⟩⟩ request)
  | .project request =>
      dropped ((ProjectorGrpc.handle ⟨⟨factories⟩⟩ request).mapTrace Prod.snd)
  | .projectSpeculative request =>
      dropped ((ProjectorGrpc.handleSpeculative ⟨⟨factories⟩⟩ request).mapTrace Prod.snd)
  | .upcast request => dropped (UpcasterGrpc.upcast ⟨⟨factories⟩⟩ request)

/-- The gate in front of the RPC is closed. -/
def ServiceCall.Closed (factories : List Factory) : ServiceCall → Prop
  | .handleFact _ => CommandHandlerRouter.supportsHandleFact ⟨factories⟩ = false
  | .replay _ => CommandHandlerRouter.supportsReplay ⟨factories⟩ = false
  | _ => False

section Statuses

variable {prost : Prost} {factories : List Factory}

/-- The status of an explained error. -/
theorem statusExplained_of_error {events : List Event} {error : ClientError}
    (herror : error.IsFramework ∨ ∃ done last, events = done ++ [last] ∧
      BlamesMethod (RejectedBy prost factories) last error) :
    StatusExplained prost factories events (clientErrorToStatus error) := by
  rcases herror with hown | ⟨done, last, hevents, hblamed⟩
  · cases error with
    | invalidArgument detail => exact Or.inl ⟨detail.message, hown, rfl⟩
    | connection | transport | grpc | invalidTimestamp | rejected => cases hown
  · cases last with
    | ran run =>
        obtain ⟨rejection, rfl, hrejected⟩ := hblamed
        exact Or.inr ⟨done, run, rejection, hevents, hrejected, rfl⟩
    | produced | dispatched => cases hblamed

/-- Every error status of the run is explained. -/
def StatusesExplained (prost : Prost) (factories : List Factory)
    (run : Traced Event Status PUnit) : Prop :=
  ∀ status, run.outcome = .error status →
    StatusExplained prost factories run.trace status

theorem statusesExplained_answered {run : Run α}
    (hrun : RunExplained (RejectedBy prost factories) run) :
    StatusesExplained prost factories (dropped (answered run)) := by
  intro status hstatus
  rw [dropped, Traced.outcome_map] at hstatus
  rw [dropped, Traced.trace_map]
  cases herror : run.outcome with
  | ok a => rw [answered, herror] at hstatus; cases hstatus
  | error error =>
      rw [answered, herror] at hstatus
      cases hstatus
      exact statusExplained_of_error (hrun error herror)

/-- The codes that an explained status can carry. -/
theorem StatusExplained.code_mem {events : List Event} {status : Status}
    (hstatus : StatusExplained prost factories events status) :
    status.code ∈ [.invalidArgument, .notFound, .failedPrecondition] := by
  rcases hstatus with ⟨message, -, rfl⟩ | ⟨-, -, rejection, -, -, rfl⟩
  · exact List.mem_cons_self
  · rw [CommandRejectedError.toStatus]
    dsimp only
    split_ifs <;> simp

/-- Behind an open gate, every RPC explains its error statuses. -/
theorem ServiceCall.statusesExplained
    (hgenerated : ∀ factory ∈ factories, factory.handler.Generated prost)
    {call : ServiceCall} (hopen : ¬call.Closed factories) :
    StatusesExplained prost factories (call.serve prost factories) := by
  have hprojected : ∀ book, StatusesExplained prost factories
      (dropped (answered
        ((ProjectorRouter.dispatch ⟨factories⟩ book).mapTrace Prod.snd))) := fun book =>
    statusesExplained_answered <|
      (explained_dispatchProjector hgenerated book).mapTrace
        fun entry error hblamed => hblamed
  cases call with
  | handle request =>
      exact statusesExplained_answered (explained_dispatchCommand hgenerated request)
  | handleFact request =>
      rw [Closed, Bool.not_eq_false] at hopen
      rw [serve, CommandHandlerGrpc.handleFact, if_pos hopen]
      exact statusesExplained_answered (explained_dispatchFact hgenerated request)
  | replay request =>
      rw [Closed, Bool.not_eq_false] at hopen
      rw [serve, CommandHandlerGrpc.replay, if_pos hopen]
      exact statusesExplained_answered (explained_dispatchReplay hgenerated request)
  | handleSaga request =>
      exact statusesExplained_answered (explained_dispatchSaga hgenerated request)
  | handleProcessManager request =>
      exact statusesExplained_answered
        (explained_dispatchProcessManager hgenerated request)
  | project request => exact hprojected request
  | projectSpeculative request => exact hprojected request
  | upcast request =>
      exact statusesExplained_answered (explained_dispatchUpcaster hgenerated request)

/-- A closed gate answers UNIMPLEMENTED before anything happens. -/
theorem ServiceCall.serve_of_closed (prost : Prost) {call : ServiceCall}
    (hclosed : call.Closed factories) :
    ∃ message, call.serve prost factories = .fail ⟨.unimplemented, message⟩ := by
  cases call with
  | handleFact request =>
      rw [Closed] at hclosed
      rw [serve, CommandHandlerGrpc.handleFact, if_neg (by simp [hclosed])]
      exact ⟨_, rfl⟩
  | replay request =>
      rw [Closed] at hclosed
      rw [serve, CommandHandlerGrpc.replay, if_neg (by simp [hclosed])]
      exact ⟨_, rfl⟩
  | handle | handleSaga | handleProcessManager | project | projectSpeculative | upcast =>
      cases hclosed

end Statuses

/-- What the error statuses of a service over generated handlers mean.  A closed gate
answers UNIMPLEMENTED, and UNIMPLEMENTED says that the gate of the RPC is closed and
nothing has happened.  Otherwise the framework refused the request, under one of its
fixed messages, or the method that ran last rejected it, and the status is that
rejection's.  No status looks like a connection error to the client. -/
theorem error_statuses_explained (prost : Prost) (factories : List Factory)
    (hgenerated : ∀ factory ∈ factories, factory.handler.Generated prost)
    (call : ServiceCall) :
    (call.Closed factories →
        ∃ message, call.serve prost factories = .fail ⟨.unimplemented, message⟩) ∧
      ∀ status, (call.serve prost factories).outcome = .error status →
        (call.Closed factories ∧ status.code = .unimplemented ∧
            (call.serve prost factories).trace = [] ∨
          ¬call.Closed factories ∧
            status.code ∈ [.invalidArgument, .notFound, .failedPrecondition] ∧
            StatusExplained prost factories (call.serve prost factories).trace status) ∧
          (ClientError.ofStatus status).isConnectionError = false := by
  refine ⟨ServiceCall.serve_of_closed prost, fun status hstatus => ?_⟩
  by_cases hclosed : call.Closed factories
  · obtain ⟨message, hserve⟩ := ServiceCall.serve_of_closed prost hclosed
    rw [hserve] at hstatus ⊢
    cases hstatus
    exact ⟨Or.inl ⟨hclosed, rfl, rfl⟩, rfl⟩
  · have hexplained := ServiceCall.statusesExplained hgenerated hclosed status hstatus
    have hcode := hexplained.code_mem
    refine ⟨Or.inr ⟨hclosed, hcode, hexplained⟩, ?_⟩
    change decide (status.code = .unavailable) = false
    rw [decide_eq_false_iff_not]
    intro hunavailable
    rw [hunavailable] at hcode
    simp at hcode

namespace Sample

/-- A saga on `order.Created` that finds no stock. -/
def outOfStockSaga : Saga Bool where
  name := named "saga-reserve"
  source := named "order"
  target := named "stock"
  handles := [⟨"reserve", flagType "order.Created", fun _ _ =>
    .error (.notFound "NO_STOCK" "no stock" [])⟩]

def orderWasCreated : SagaHandleRequest where
  source := some
    { cover := some { domain := "order" }
      pages := [eventPage "type.googleapis.com/order.Created" []] }

end Sample

open Sample in
/-- The rejection of a saga reaches the client as NOT_FOUND, after the run of its
method. -/
theorem error_statuses_explained_sample :
    StatusExplained (prost {}) [outOfStockSaga.factory]
        (ServiceCall.serve (prost {}) [outOfStockSaga.factory]
          (.handleSaga orderWasCreated)).trace ⟨.notFound, "no stock"⟩ ∧
      (ClientError.ofStatus ⟨.notFound, "no stock"⟩).isConnectionError = false ∧
      ∃ message, ServiceCall.serve (prost {}) [outOfStockSaga.factory] (.replay {}) =
        .fail ⟨.unimplemented, message⟩ := by
  have hgenerated : ∀ factory ∈ [outOfStockSaga.factory],
      factory.handler.Generated (prost {}) := by
    intro factory hmem
    rw [List.mem_singleton.mp hmem]
    exact .saga outOfStockSaga
  obtain ⟨-, hstatuses⟩ := error_statuses_explained (prost {})
    [outOfStockSaga.factory] hgenerated (.handleSaga orderWasCreated)
  obtain ⟨hgate, -⟩ := error_statuses_explained (prost {})
    [outOfStockSaga.factory] hgenerated (.replay {})
  obtain ⟨⟨hclosed, -⟩ | ⟨-, -, hexplained⟩, hclient⟩ :=
    hstatuses ⟨.notFound, "no stock"⟩ (by rfl)
  · cases hclosed
  · exact ⟨hexplained, hclient, hgate (by rfl)⟩

end AngzarrClient
