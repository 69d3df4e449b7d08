/-
The event log is the state.  A caller sends the log with every request and appends to it
as it likes, from the answers or from elsewhere.  Generated handlers then answer like
objects that live on between the requests: each keeps its state, and applies what is
appended to the log.
-/
import AngzarrClient.Lib.Session
import AngzarrClient.Router.Refinement

namespace AngzarrClient

open CommandHandlerRouter Traced

namespace StateModel

variable {S Msg : Type} (model : StateModel S Msg)

/-- A state, if there is one, on which more events are applied. -/
def advance (state : Except ClientError S) (more : List EventPage) : Except ClientError S :=
  state.bind fun state => replayPages model.applies state more

theorem rebuild_append (log more : List EventPage) :
    model.rebuild (log ++ more) = model.advance (model.rebuild log) more := by
  rw [rebuild_eq_replay, rebuild_eq_replay, EventFold.replay_append, advance]
  simp only [replayPages_eq_replay]

end StateModel

/-- An aggregate that is kept in memory.  Once an event of the log cannot be read, there
is no state any more, but the error. -/
structure LiveAggregate where
  {S Msg : Type}
  aggregate : Aggregate S Msg
  state : Except ClientError S

/-- What a command handler is asked.  The history of the request is the log. -/
inductive LogRequest
  | command (cmd : ContextualCommand)
  | fact (request : FactRequest)
  | replay

namespace LiveAggregate

variable (live : LiveAggregate)

/-- The state follows the log. -/
def advance (more : List EventPage) : LiveAggregate where
  aggregate := live.aggregate
  state := live.aggregate.state.advance live.state more

def command (cmd : ContextualCommand) (payload : Any) :
    Option (HandlerRun BusinessResponse) :=
  if live.aggregate.domain.value = cmd.coverDomain.getD "" then
    (firstArm payload.typeUrl live.aggregate.handles).map fun arm => do
      let state ← ofExcept live.state
      let events ← arm.execute .handles (state, (cmd.events.getD {}).nextSequence) payload
      pure { result := some (.events events) }
  else none

def reaction (key : String × String) (notification : Notification) (payload : Any) :
    Option (HandlerRun BusinessResponse) :=
  (live.aggregate.rejected.find? fun arm => key = arm.key).map fun arm => do
    let state ← ofExcept live.state
    arm.execute notification state payload

def fact (facts : List EventPage) : HandlerRun EventBook := do
  let state ← ofExcept live.state
  let pages ← live.aggregate.walkFacts state [] facts
  pure { pages := pages }

def replay : HandlerRun ReplayResponse :=
  match live.aggregate.replay with
  | none => .fail (.wrongRequestKind "CommandHandler (supports_replay=false)")
  | some codec => do
      let state ← ofExcept live.state
      let value ← ofExcept ((codec.encode state).mapError .stateCodecFailed)
      pure { state := some ⟨fullTypeUrl codec.toMessageType, value⟩ }

end LiveAggregate

/-- The answers of aggregates that are kept in memory. -/
def serveLive (prost : Prost) (lives : List LiveAggregate) :
    LogRequest → HandlerRun HandlerResponse
  | .command cmd => HandlerResponse.commandHandler <$> do
      let payload ← ofExcept (commandPayload cmd)
      if payload.typeUrl = notificationTypeUrl then do
        let opened ← ofExcept (openNotification prost payload)
        compensations cmd <$> (lives.filterMap fun live =>
          live.reaction opened.2.key opened.1 payload).mapM id
      else
        match lives.findSome? fun live => live.command cmd payload with
        | some run => run
        | none =>
            .fail (.noHandlerRegistered (cmd.coverDomain.getD "<missing>") payload.typeUrl)
  | .fact request => HandlerResponse.handleFact <$>
      match lives with
      | [] => pure {}
      | live :: _ => live.fact (request.facts.getD {}).pages
  | .replay => HandlerResponse.replay <$>
      match lives with
      | [] => pure {}
      | live :: _ => live.replay

/-- The book of a request, with the log for its pages. -/
def EventBook.onLog (book : Option EventBook) (log : List EventPage) : EventBook :=
  { book.getD {} with pages := log }

/-- The answers of the router over the log. -/
def serveLog (prost : Prost) (aggregates : List AnyAggregate) (log : List EventPage) :
    LogRequest → HandlerRun HandlerResponse
  | .command cmd => .commandHandler <$> methodsOf
      (dispatch prost ⟨aggregates.map (AnyAggregate.factory prost)⟩
        { cmd with events := some (.onLog cmd.events log) })
  | .fact request => .handleFact <$> methodsOf
      (dispatchFact ⟨aggregates.map (AnyAggregate.factory prost)⟩
        { request with priorEvents := some (.onLog request.priorEvents log) })
  | .replay => .replay <$> methodsOf
      (dispatchReplay ⟨aggregates.map (AnyAggregate.factory prost)⟩ { events := log })

namespace AnyAggregate

/-- The aggregate with the state of the log. -/
def live (log : List EventPage) (any : AnyAggregate) : LiveAggregate where
  aggregate := any.aggregate
  state := any.aggregate.state.rebuild log

theorem live_append (log more : List EventPage) (any : AnyAggregate) :
    any.live (log ++ more) = (any.live log).advance more := by
  rw [live, live, LiveAggregate.advance, StateModel.rebuild_append]

theorem replay_live (log : List EventPage) (any : AnyAggregate) :
    any.replay { events := log } = (any.live log).replay := by
  rw [replay, LiveAggregate.replay, live]
  dsimp only
  cases any.aggregate.replay with
  | none => rfl
  | some codec => rfl

end AnyAggregate

/-- The log does not say what a compensation is numbered from. -/
theorem compensations_onLog (cmd : ContextualCommand) (log : List EventPage) :
    compensations { cmd with events := some (.onLog cmd.events log) } =
      compensations cmd := by
  have hseq : initialSeq { cmd with events := some (.onLog cmd.events log) } =
      initialSeq cmd := by
    cases hevents : cmd.events with
    | none => simp [initialSeq, EventBook.onLog, hevents]
    | some book => simp [initialSeq, EventBook.onLog, hevents]
  funext answers
  rw [compensations, compensations, hseq]

/-- The router looks at the log through the live aggregates. -/
theorem serveLog_eq_serveLive (prost : Prost) (aggregates : List AnyAggregate)
    (log : List EventPage) (request : LogRequest) :
    serveLog prost aggregates log request =
      serveLive prost (aggregates.map (AnyAggregate.live log)) request := by
  cases request with
  | command cmd =>
      rw [serveLog, methodsOf_dispatch_command, serveCommand, serveLive,
        compensations_onLog]
      simp only [List.filterMap_map, List.findSome?_map]
      rfl
  | fact request =>
      rw [serveLog, methodsOf_dispatchFact]
      cases aggregates with
      | nil => rfl
      | cons any rest => rfl
  | replay =>
      rw [serveLog, methodsOf_dispatchReplay]
      cases aggregates with
      | nil => rfl
      | cons any rest => exact congrArg _ (any.replay_live log)

/-- A process manager that is kept in memory. -/
structure LiveProcessManager where
  {S Msg : Type}
  manager : ProcessManager S Msg
  state : Except ClientError S

namespace LiveProcessManager

variable (live : LiveProcessManager)

def advance (more : List EventPage) : LiveProcessManager where
  manager := live.manager
  state := live.manager.state.advance live.state more

def reaction (trigger : Option EventBook) (url : String) :
    Option (HandlerRun ProcessManagerHandleResponse) :=
  if bookDomain trigger ∈ live.manager.sources.map NonEmptyString.value then
    (firstArm url live.manager.handles).map fun arm => do
      let state ← ofExcept live.state
      let event ← ofExcept (lastEvent pmErrors trigger)
      arm.execute .handles state event
  else none

end LiveProcessManager

/-- The answers of process managers that are kept in memory. -/
def serveLiveProcess (lives : List LiveProcessManager)
    (request : ProcessManagerHandleRequest) :
    HandlerRun ProcessManagerHandleResponse := do
  let url ← ofExcept (extractPmEventTypeUrl request)
  List.sum <$> (lives.filterMap fun live => live.reaction request.trigger url).mapM id

/-- The answers of the router over the log of the process. -/
def serveProcessLog (managers : List AnyProcessManager) (log : List EventPage)
    (request : ProcessManagerHandleRequest) : HandlerRun ProcessManagerHandleResponse :=
  methodsOf (ProcessManagerRouter.dispatch ⟨managers.map AnyProcessManager.factory⟩
    { request with processState := some (.onLog request.processState log) })

namespace AnyProcessManager

def live (log : List EventPage) (any : AnyProcessManager) : LiveProcessManager where
  manager := any.manager
  state := any.manager.state.rebuild log

theorem live_append (log more : List EventPage) (any : AnyProcessManager) :
    any.live (log ++ more) = (any.live log).advance more := by
  rw [live, live, LiveProcessManager.advance, StateModel.rebuild_append]

end AnyProcessManager

theorem serveProcessLog_eq_serveLiveProcess (managers : List AnyProcessManager)
    (log : List EventPage) (request : ProcessManagerHandleRequest) :
    serveProcessLog managers log request =
      serveLiveProcess (managers.map (AnyProcessManager.live log)) request := by
  rw [serveProcessLog, methodsOf_dispatchProcessManager, serveProcessManager,
    serveLiveProcess]
  simp only [List.filterMap_map]
  rfl

/-- Over any log, any requests and whatever is appended between them, the routers run the
methods and give the answers of handlers that keep their state from the start of the log
on and only apply what is appended. -/
theorem event_log_is_live_state (prost : Prost) (log : List EventPage) :
    (∀ aggregates turns,
      Session.answers (Session.logStep (serveLog prost aggregates)) log turns =
        Session.answers (Session.liveStep (serveLive prost)
            fun lives more => lives.map (LiveAggregate.advance · more))
          (aggregates.map (AnyAggregate.live log)) turns) ∧
    ∀ managers turns,
      Session.answers (Session.logStep (serveProcessLog managers)) log turns =
        Session.answers (Session.liveStep serveLiveProcess
            fun lives more => lives.map (LiveProcessManager.advance · more))
          (managers.map (AnyProcessManager.live log)) turns := by
  constructor
  · intro aggregates turns
    apply Session.answers_logStep (serveLog_eq_serveLive prost aggregates)
    intro log more
    rw [List.map_map]
    exact List.map_congr_left fun any _ => any.live_append log more
  · intro managers turns
    apply Session.answers_logStep (serveProcessLog_eq_serveLiveProcess managers)
    intro log more
    rw [List.map_map]
    exact List.map_congr_left fun any _ => any.live_append log more

end AngzarrClient
