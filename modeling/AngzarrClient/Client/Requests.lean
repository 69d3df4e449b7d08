/-
The gRPC clients (`client.rs`, `traits.rs`, `proto_ext/grpc.rs`).  Every call sends one
request, whose message is what the caller gave and whose metadata repeats the
correlation id of the cover in it.
-/
import AngzarrClient.Client.CommandBuilder
import AngzarrClient.Client.QueryBuilder
import AngzarrClient.Lib.Traced

namespace AngzarrClient

open LastWrite

variable {τ α Mode Strategy Msg : Type}

/-- `CORRELATION_ID_HEADER`. -/
def correlationIdHeader := "x-correlation-id"

/-- `tonic::Request`. -/
structure Request (τ : Type) where
  metadata : List (String × String) := []
  message : τ
deriving DecidableEq, Repr

/-- `correlated_request`; `isMetadata` holds of the strings that parse as the value of
an ASCII header. -/
def correlatedRequest (isMetadata : String → Bool) (msg : τ) (correlationId : String) :
    Request τ :=
  if correlationId ≠ "" then
    if isMetadata correlationId then
      { metadata := [(correlationIdHeader, correlationId)], message := msg }
    else { message := msg }
  else { message := msg }

/-- A request on its way to the server. -/
inductive Rpc
  | getEventBook (request : Request Query)
  | getEvents (request : Request Query)
  | handleCommand (request : Request CommandRequest)
  | handleSyncSpeculative (request : Request SpeculateCommandHandlerRequest)
  | projectorHandleSpeculative (request : Request SpeculateProjectorRequest)
  | sagaExecuteSpeculative (request : Request SpeculateSagaRequest)
  | pmHandleSpeculative (request : Request SpeculatePmRequest)
deriving DecidableEq, Repr

/-- A tonic channel: the header values it takes, and what the server at its other end
answers.  The stream of `get_events` is the list of its messages; an error ends it. -/
structure Channel where
  isMetadata : String → Bool
  getEventBook : Request Query → Except Status EventBook
  getEvents : Request Query → Except Status (List (Except Status EventBook))
  handleCommand : Request CommandRequest → Except Status CommandResponse
  handleSyncSpeculative :
    Request SpeculateCommandHandlerRequest → Except Status CommandResponse
  projectorHandleSpeculative : Request SpeculateProjectorRequest → Except Status Projection
  sagaExecuteSpeculative : Request SpeculateSagaRequest → Except Status SagaResponse
  pmHandleSpeculative :
    Request SpeculatePmRequest → Except Status ProcessManagerHandleResponse

/-- A run of client code, with the requests it has sent. -/
abbrev ClientRun (α : Type) := Traced Rpc ClientError α

/-- Send one request; `?` turns the status of a failure into an error. -/
def send (rpc : Rpc) (answer : Except Status α) : ClientRun α := do
  Traced.emit rpc
  Traced.ofExcept (answer.mapError .ofStatus)

/-- `while let Some(book) = stream.message().await?`, pushing onto `results`. -/
def drain (results : List EventBook) :
    List (Except Status EventBook) → Except ClientError (List EventBook)
  | [] => .ok results
  | .error status :: _ => .error (.ofStatus status)
  | .ok book :: rest => drain (results ++ [book]) rest

/-- `QueryClient`. -/
structure QueryClient where
  inner : Channel

namespace QueryClient

/-- `corr_id` and `req` of both methods. -/
def request (client : QueryClient) (query : Query) : Request Query :=
  correlatedRequest client.inner.isMetadata query
    ((query.cover.map Cover.correlationId).getD "")

def getEventBook (client : QueryClient) (query : Query) : ClientRun EventBook :=
  send (.getEventBook (client.request query)) (client.inner.getEventBook (client.request query))

def getEvents (client : QueryClient) (query : Query) : ClientRun (List EventBook) := do
  let stream ← send (.getEvents (client.request query))
    (client.inner.getEvents (client.request query))
  Traced.ofExcept (drain [] stream)

end QueryClient

/-- `CommandHandlerClient`. -/
structure CommandHandlerClient where
  inner : Channel

/-- The request that wraps a command for a mode. -/
def commandRequest [CommandModes Mode] (command : CommandBook) (syncMode : Mode) :
    CommandRequest where
  command := some command
  syncMode := ProtoEnum.asI32 syncMode
  cascadeErrorMode := CommandModes.cascadeErrorFailFast Mode
  cascadeId := none

namespace CommandHandlerClient

def handleCommand (client : CommandHandlerClient) (command : CommandRequest) :
    ClientRun CommandResponse :=
  let corrId := ((command.command.bind CommandBook.cover).map Cover.correlationId).getD ""
  let req := correlatedRequest client.inner.isMetadata command corrId
  send (.handleCommand req) (client.inner.handleCommand req)

def handle (Mode : Type) [CommandModes Mode] (client : CommandHandlerClient)
    (command : CommandBook) : ClientRun CommandResponse :=
  client.handleCommand (commandRequest command (CommandModes.async : Mode))

def handleSyncSpeculative (client : CommandHandlerClient)
    (request : SpeculateCommandHandlerRequest) : ClientRun CommandResponse :=
  let corrId := ((request.command.bind CommandBook.cover).map Cover.correlationId).getD ""
  let req := correlatedRequest client.inner.isMetadata request corrId
  send (.handleSyncSpeculative req) (client.inner.handleSyncSpeculative req)

end CommandHandlerClient

/-- `SpeculativeClient`: its four stubs share one channel. -/
structure SpeculativeClient where
  inner : Channel

namespace SpeculativeClient

def commandHandler (client : SpeculativeClient) (request : SpeculateCommandHandlerRequest) :
    ClientRun CommandResponse :=
  let corrId := ((request.command.bind CommandBook.cover).map Cover.correlationId).getD ""
  let req := correlatedRequest client.inner.isMetadata request corrId
  send (.handleSyncSpeculative req) (client.inner.handleSyncSpeculative req)

def projector (client : SpeculativeClient) (request : SpeculateProjectorRequest) :
    ClientRun Projection :=
  let corrId := ((request.events.bind EventBook.cover).map Cover.correlationId).getD ""
  let req := correlatedRequest client.inner.isMetadata request corrId
  send (.projectorHandleSpeculative req) (client.inner.projectorHandleSpeculative req)

def saga (client : SpeculativeClient) (request : SpeculateSagaRequest) :
    ClientRun SagaResponse :=
  let corrId := (((request.request.bind SagaHandleRequest.source).bind EventBook.cover).map
    Cover.correlationId).getD ""
  let req := correlatedRequest client.inner.isMetadata request corrId
  send (.sagaExecuteSpeculative req) (client.inner.sagaExecuteSpeculative req)

def processManager (client : SpeculativeClient) (request : SpeculatePmRequest) :
    ClientRun ProcessManagerHandleResponse :=
  let corrId := (((request.request.bind ProcessManagerHandleRequest.trigger).bind
    EventBook.cover).map Cover.correlationId).getD ""
  let req := correlatedRequest client.inner.isMetadata request corrId
  send (.pmHandleSpeculative req) (client.inner.pmHandleSpeculative req)

end SpeculativeClient

/-- `DomainClient`. -/
structure DomainClient where
  commandHandler : CommandHandlerClient
  query : QueryClient
  speculative : SpeculativeClient

namespace DomainClient

def fromChannel (channel : Channel) : DomainClient where
  commandHandler := ⟨channel⟩
  query := ⟨channel⟩
  speculative := ⟨channel⟩

def execute (Mode : Type) [CommandModes Mode] (client : DomainClient)
    (command : CommandBook) : ClientRun CommandResponse :=
  client.commandHandler.handle Mode command

def executeWithMode [CommandModes Mode] (client : DomainClient) (command : CommandBook)
    (syncMode : Mode) : ClientRun CommandResponse :=
  client.commandHandler.handleCommand (commandRequest command syncMode)

def getEventBook (client : DomainClient) (query : Query) : ClientRun EventBook :=
  client.query.getEventBook query

def getEvents (client : DomainClient) (query : Query) : ClientRun (List EventBook) :=
  client.query.getEvents query

end DomainClient

namespace Traits

/-- `traits::GatewayClient`. -/
class GatewayClient (Mode C : Type) where
  execute : C → CommandBook → ClientRun CommandResponse
  executeWithSyncMode : C → CommandBook → Mode → ClientRun CommandResponse :=
    fun client command _ => execute client command

/-- `traits::QueryClient`. -/
class QueryClient (C : Type) where
  getEventBook : C → Query → ClientRun EventBook
  getEvents : C → Query → ClientRun (List EventBook) := fun client query => do
    let book ← getEventBook client query
    pure [book]

instance [CommandModes Mode] : GatewayClient Mode CommandHandlerClient where
  execute client command := client.handle Mode command
  executeWithSyncMode client command syncMode :=
    client.handleCommand (commandRequest command syncMode)

instance [CommandModes Mode] : GatewayClient Mode DomainClient where
  execute client command := client.execute Mode command
  executeWithSyncMode client command syncMode :=
    GatewayClient.executeWithSyncMode client.commandHandler command syncMode

instance : QueryClient AngzarrClient.QueryClient where
  getEventBook := AngzarrClient.QueryClient.getEventBook
  getEvents := AngzarrClient.QueryClient.getEvents

instance : QueryClient DomainClient where
  getEventBook := DomainClient.getEventBook
  getEvents := DomainClient.getEvents

end Traits

/-- `CommandBuilder::execute`. -/
def CommandBuilder.execute {C : Type} [ProtoEnum Strategy] [Traits.GatewayClient Mode C]
    (client : C) (fresh : String) (builder : CommandBuilder Strategy) (syncMode : Mode) :
    ClientRun CommandResponse := do
  let command ← Traced.ofExcept (builder.build fresh)
  Traits.GatewayClient.executeWithSyncMode client command syncMode

namespace QueryBuilder

variable {C : Type} [Traits.QueryClient C] (client : C)

/-- `QueryBuilder::get_event_book`. -/
def getEventBook (builder : QueryBuilder) : ClientRun EventBook :=
  Traits.QueryClient.getEventBook client builder.build

/-- `QueryBuilder::get_events`. -/
def getEvents (builder : QueryBuilder) : ClientRun (List EventBook) :=
  Traits.QueryClient.getEvents client builder.build

/-- `QueryBuilder::get_pages`. -/
def getPages (builder : QueryBuilder) : ClientRun (List EventPage) := do
  let eventBook ← builder.getEventBook client
  pure eventBook.pages

end QueryBuilder

/-- The metadata of a request whose message has the correlation id. -/
def correlationMetadata (channel : Channel) (correlationId : String) :
    List (String × String) :=
  if correlationId ≠ "" ∧ channel.isMetadata correlationId then
    [(correlationIdHeader, correlationId)]
  else []

theorem correlatedRequest_eq (channel : Channel) (msg : τ) (correlationId : String) :
    correlatedRequest channel.isMetadata msg correlationId =
      { metadata := correlationMetadata channel correlationId, message := msg } := by
  rw [correlatedRequest, correlationMetadata]
  by_cases hempty : correlationId = ""
  · simp [hempty]
  · by_cases hvalue : channel.isMetadata correlationId = true
    · simp [hempty, hvalue]
    · simp [hempty, hvalue]

theorem message_correlatedRequest (channel : Channel) (msg : τ) (correlationId : String) :
    (correlatedRequest channel.isMetadata msg correlationId).message = msg := by
  rw [correlatedRequest_eq]

@[simp] theorem trace_send (rpc : Rpc) (answer : Except Status α) :
    (send rpc answer).trace = [rpc] := rfl

@[simp] theorem outcome_send (rpc : Rpc) (answer : Except Status α) :
    (send rpc answer).outcome = answer.mapError .ofStatus := rfl

namespace Rpc

/-- The cover whose correlation id belongs on the request. -/
def cover : Rpc → Option Cover
  | getEventBook request | getEvents request => request.message.cover
  | handleCommand request => request.message.command.bind CommandBook.cover
  | handleSyncSpeculative request => request.message.command.bind CommandBook.cover
  | projectorHandleSpeculative request => request.message.events.bind EventBook.cover
  | sagaExecuteSpeculative request =>
      (request.message.request.bind SagaHandleRequest.source).bind EventBook.cover
  | pmHandleSpeculative request =>
      (request.message.request.bind ProcessManagerHandleRequest.trigger).bind EventBook.cover

def metadata : Rpc → List (String × String)
  | getEventBook request | getEvents request => request.metadata
  | handleCommand request => request.metadata
  | handleSyncSpeculative request => request.metadata
  | projectorHandleSpeculative request => request.metadata
  | sagaExecuteSpeculative request => request.metadata
  | pmHandleSpeculative request => request.metadata

/-- The metadata repeats the correlation id of the cover. -/
def Correlated (channel : Channel) (rpc : Rpc) : Prop :=
  rpc.metadata = correlationMetadata channel ((rpc.cover.map Cover.correlationId).getD "")

end Rpc

/-- A call of one of the clients on a channel. -/
inductive ClientCall (Mode : Type)
  | getEventBook (query : Query)
  | getEvents (query : Query)
  | handleCommand (command : CommandRequest)
  | handle (command : CommandBook)
  | executeWithMode (command : CommandBook) (syncMode : Mode)
  | handleSyncSpeculative (request : SpeculateCommandHandlerRequest)
  | projector (request : SpeculateProjectorRequest)
  | saga (request : SpeculateSagaRequest)
  | processManager (request : SpeculatePmRequest)

/-- What the call sends. -/
def ClientCall.sent [CommandModes Mode] (channel : Channel) : ClientCall Mode → List Rpc
  | getEventBook query => ((QueryClient.mk channel).getEventBook query).trace
  | getEvents query => ((QueryClient.mk channel).getEvents query).trace
  | handleCommand command => ((CommandHandlerClient.mk channel).handleCommand command).trace
  | handle command => ((CommandHandlerClient.mk channel).handle Mode command).trace
  | executeWithMode command syncMode =>
      ((DomainClient.fromChannel channel).executeWithMode command syncMode).trace
  | handleSyncSpeculative request =>
      ((CommandHandlerClient.mk channel).handleSyncSpeculative request).trace
  | projector request => ((SpeculativeClient.mk channel).projector request).trace
  | saga request => ((SpeculativeClient.mk channel).saga request).trace
  | processManager request => ((SpeculativeClient.mk channel).processManager request).trace

theorem trace_getEvents (client : QueryClient) (query : Query) :
    (client.getEvents query).trace = [.getEvents (client.request query)] := by
  rw [QueryClient.getEvents]
  cases hanswer : client.inner.getEvents (client.request query) with
  | error status =>
      rw [Traced.bind_of_error (by rw [outcome_send]; rfl)]
      rfl
  | ok stream =>
      rw [Traced.bind_of_ok (by rw [outcome_send]; rfl)]
      rfl

/-- Every call sends one request, and the correlation id of its cover with it. -/
theorem sent_correlated [CommandModes Mode] (channel : Channel) (call : ClientCall Mode) :
    ∃ rpc, call.sent channel = [rpc] ∧ rpc.Correlated channel := by
  cases call with
  | getEvents query =>
      refine ⟨_, trace_getEvents ⟨channel⟩ query, ?_⟩
      rw [QueryClient.request, correlatedRequest_eq]
      rfl
  | getEventBook query =>
      refine ⟨_, rfl, ?_⟩
      rw [QueryClient.request, correlatedRequest_eq]
      rfl
  | handleCommand command | handle command | executeWithMode command syncMode
  | handleSyncSpeculative request | projector request | saga request
  | processManager request =>
      refine ⟨_, rfl, ?_⟩
      rw [correlatedRequest_eq]
      rfl

theorem correlated_of_sent [CommandModes Mode] (channel : Channel) (call : ClientCall Mode)
    {rpc : Rpc} (hsent : call.sent channel = [rpc]) : rpc.Correlated channel := by
  obtain ⟨other, hother, hcorrelated⟩ := sent_correlated channel call
  rw [hother, List.singleton_inj] at hsent
  exact hsent ▸ hcorrelated

end AngzarrClient
