/-
What a service over generated handlers computes, in the terms of the impl blocks: which of
their methods run, in which order, and what the caller is answered.  Factories, configs
and the requests that handlers are sent do not occur here; they are how a router does it.
-/
import AngzarrClient.Macros.CommandHandler
import AngzarrClient.Macros.Projector
import AngzarrClient.Macros.Saga
import AngzarrClient.Macros.Upcaster
import AngzarrClient.Router.Rejection

namespace AngzarrClient

open CommandHandlerRouter Traced

/-- An aggregate over any state and any messages. -/
structure AnyAggregate where
  {S Msg : Type}
  aggregate : Aggregate S Msg

structure AnySaga where
  {Msg : Type}
  saga : Saga Msg

structure AnyProcessManager where
  {S Msg : Type}
  manager : ProcessManager S Msg

structure AnyProjector where
  {I Msg : Type}
  projector : Projector I Msg

structure AnyUpcaster where
  {Msg : Type}
  upcaster : Upcaster Msg

namespace AnyAggregate

/-- What the aggregate does about a command: nothing in another domain or without a
method for its type; otherwise its first such method, on the state of the history. -/
def command (cmd : ContextualCommand) (payload : Any) (any : AnyAggregate) :
    Option (HandlerRun BusinessResponse) :=
  if any.aggregate.domain.value = cmd.coverDomain.getD "" then
    (firstArm payload.typeUrl any.aggregate.handles).map fun arm => do
      let state ← ofExcept (any.aggregate.state.rebuild (cmd.events.getD {}).pages)
      let events ← arm.execute .handles (state, (cmd.events.getD {}).nextSequence) payload
      pure { result := some (.events events) }
  else none

/-- What the aggregate does about a rejection with the key: its first rejected method for
it, on the state of the history, or nothing without such a method. -/
def reaction (key : String × String) (notification : Notification) (payload : Any)
    (pages : List EventPage) (any : AnyAggregate) : Option (HandlerRun BusinessResponse) :=
  (any.aggregate.rejected.find? fun arm => key = arm.key).map fun arm => do
    let state ← ofExcept (any.aggregate.state.rebuild pages)
    arm.execute notification state payload

/-- Its methods for the facts, one after the other, on one state. -/
def fact (request : FactRequest) (any : AnyAggregate) : HandlerRun EventBook := do
  let state ← ofExcept
    (any.aggregate.state.rebuild (request.priorEvents.getD {}).pages)
  let pages ← any.aggregate.walkFacts state [] (request.facts.getD {}).pages
  pure { pages := pages }

/-- The state of the history on top of the snapshot; no method but the appliers runs. -/
def replay (request : ReplayRequest) (any : AnyAggregate) : HandlerRun ReplayResponse :=
  match any.aggregate.replay with
  | none => .fail (.wrongRequestKind "CommandHandler (supports_replay=false)")
  | some codec => do
      let base ← ofExcept (any.aggregate.baseState codec request.baseSnapshot)
      let state ← ofExcept (replayPages any.aggregate.state.applies base request.events)
      let value ← ofExcept ((codec.encode state).mapError .stateCodecFailed)
      pure { state := some ⟨fullTypeUrl codec.toMessageType, value⟩ }

def factory (prost : Prost) (any : AnyAggregate) : Factory := any.aggregate.factory prost

end AnyAggregate

/-- The answer to a rejection: all events of the answers, counted on from the history. -/
def compensations (delivery : ContextualCommand) (answers : List BusinessResponse) :
    BusinessResponse where
  result := some (.events
    { pages := answers.flatMap BusinessResponse.eventPages
      nextSequence := initialSeq delivery +
        UInt32.ofNat (answers.flatMap BusinessResponse.eventPages).length })

/-- A command is for the first aggregate that has a method for it, a rejection for all that
react to it, in turn. -/
def serveCommand (prost : Prost) (aggregates : List AnyAggregate)
    (cmd : ContextualCommand) : HandlerRun BusinessResponse := do
  let payload ← ofExcept (commandPayload cmd)
  if payload.typeUrl = notificationTypeUrl then do
    let opened ← ofExcept (openNotification prost payload)
    compensations cmd <$> (aggregates.filterMap
      (AnyAggregate.reaction opened.2.key opened.1 payload (cmd.events.getD {}).pages)).mapM id
  else
    match aggregates.findSome? (AnyAggregate.command cmd payload) with
    | some run => run
    | none => .fail (.noHandlerRegistered (cmd.coverDomain.getD "<missing>") payload.typeUrl)

/-- Facts are for the first aggregate, whatever their domain. -/
def serveFact (aggregates : List AnyAggregate) (request : FactRequest) :
    HandlerRun EventBook :=
  match aggregates with
  | [] => pure {}
  | any :: _ => any.fact request

/-- So are replays. -/
def serveReplay (aggregates : List AnyAggregate) (request : ReplayRequest) :
    HandlerRun ReplayResponse :=
  match aggregates with
  | [] => pure {}
  | any :: _ => any.replay request

namespace AnySaga

/-- What the saga does about an event: nothing in another domain or without a method for
its type; otherwise its first such method. -/
def reaction (request : SagaHandleRequest) (url : String) (any : AnySaga) :
    Option (HandlerRun SagaResponse) :=
  if any.saga.source.value = bookDomain request.source then
    (firstArm url any.saga.handles).map fun arm => do
      let event ← ofExcept (lastEvent sagaErrors request.source)
      arm.execute .handles ⟨⟩ event
  else none

def factory (any : AnySaga) : Factory := any.saga.factory

end AnySaga

/-- All sagas that react, in turn. -/
def serveSaga (sagas : List AnySaga) (request : SagaHandleRequest) :
    HandlerRun SagaResponse := do
  let url ← ofExcept (extractSagaEventTypeUrl request)
  List.sum <$> (sagas.filterMap (AnySaga.reaction request url)).mapM id

namespace AnyProcessManager

/-- The same for a process manager, on the state of its own history. -/
def reaction (request : ProcessManagerHandleRequest) (url : String)
    (any : AnyProcessManager) : Option (HandlerRun ProcessManagerHandleResponse) :=
  if bookDomain request.trigger ∈ any.manager.sources.map NonEmptyString.value then
    (firstArm url any.manager.handles).map fun arm => do
      let state ← ofExcept
        (any.manager.state.rebuild (request.processState.getD {}).pages)
      let event ← ofExcept (lastEvent pmErrors request.trigger)
      arm.execute .handles state event
  else none

def factory (any : AnyProcessManager) : Factory := any.manager.factory

end AnyProcessManager

def serveProcessManager (managers : List AnyProcessManager)
    (request : ProcessManagerHandleRequest) :
    HandlerRun ProcessManagerHandleResponse := do
  let url ← ofExcept (extractPmEventTypeUrl request)
  List.sum <$> (managers.filterMap (AnyProcessManager.reaction request url)).mapM id

namespace AnyProjector

/-- The projector takes part in the projection of the book. -/
def listens (book : EventBook) (any : AnyProjector) : Bool :=
  match book.cover.map Cover.domain with
  | some domain => any.projector.domains.any fun x => x.value = domain ∨ x.value = "*"
  | none => true

/-- The page on the instance that the served pages left behind. -/
def project (served : List EventPage) (page : EventPage) (any : AnyProjector) :
    HandlerRun PUnit :=
  match served.foldlM (fun self page => (any.projector.projectPage self page).outcome)
      any.projector.fresh with
  | .error error => .fail error
  | .ok self => (fun _ => ⟨⟩) <$> any.projector.projectPage self page

def factory (any : AnyProjector) : Factory := any.projector.factory

end AnyProjector

/-- The pages one after the other, each on all projectors in turn. -/
def projectEach (projectors : List AnyProjector) (served : List EventPage) :
    List EventPage → HandlerRun PUnit
  | [] => pure ⟨⟩
  | page :: rest => do
      projectors.forM (AnyProjector.project served page)
      projectEach projectors (served ++ [page]) rest

def serveProjection (projectors : List AnyProjector) (book : EventBook) :
    HandlerRun Projection := do
  projectEach (projectors.filter (AnyProjector.listens book)) [] book.pages
  pure { cover := book.cover, projector := "", sequence := book.nextSequence }

def AnyUpcaster.factory (any : AnyUpcaster) : Factory := any.upcaster.factory

/-- Each page through the upcasters of the domain, in turn. -/
def serveUpcast (upcasters : List AnyUpcaster) (request : UpcastRequest) :
    HandlerRun UpcastResponse := do
  let pages ← request.events.mapM fun page =>
    (upcasters.filter fun any => any.upcaster.domain.value = request.domain).foldlM
      (fun current any => any.upcaster.upcastPage current) page
  pure { events := pages }

end AngzarrClient
