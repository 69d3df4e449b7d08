/-
The `Handler` trait and its supporting types (`router/handler.rs`), the
factories that produce handlers (`router/builder.rs`), and what the framework
does to user code while it serves a request.
-/
import AngzarrClient.Error
import AngzarrClient.Lib.Traced
import AngzarrClient.Proto

namespace AngzarrClient

/-- Keys of two strings are looked up by equality. -/
instance decidableMemKeys (key : String × String) (keys : List (String × String)) :
    Decidable (key ∈ keys) :=
  List.instDecidableMemOfLawfulBEq key keys

/-- The five handler kinds the unified router understands. -/
inductive Kind
  | commandHandler | saga | processManager | projector | upcaster
deriving DecidableEq, Repr

/-- `Kind`'s `Debug` text, as build errors carry it. -/
def Kind.debug : Kind → String
  | .commandHandler => "CommandHandler"
  | .saga => "Saga"
  | .processManager => "ProcessManager"
  | .projector => "Projector"
  | .upcaster => "Upcaster"

structure CommandHandlerConfig where
  domain : String
  handled : List String := []
  rejected : List (String × String) := []
  applies : List String := []
  stateFactory : Option String := none
  handlesFact : List String := []
  supportsReplay : Bool := false
deriving DecidableEq, Repr

structure SagaConfig where
  name : String
  source : String
  target : String
  sync : Bool := false
  handled : List String := []
  rejected : List (String × String) := []
deriving DecidableEq, Repr

structure ProcessManagerConfig where
  name : String
  pmDomain : String
  sources : List String
  targets : List String
  syncTargets : List String := []
  handled : List String := []
  rejected : List (String × String) := []
  applies : List String := []
  stateFactory : Option String := none
deriving DecidableEq, Repr

structure ProjectorConfig where
  name : String
  domains : List String
  handled : List String := []
deriving DecidableEq, Repr

structure UpcasterConfig where
  name : String
  domain : String
  upcasts : List (String × String) := []
deriving DecidableEq, Repr

/-- The metadata a kind macro stores with the handler it generates. -/
inductive HandlerConfig
  | commandHandler (config : CommandHandlerConfig)
  | saga (config : SagaConfig)
  | processManager (config : ProcessManagerConfig)
  | projector (config : ProjectorConfig)
  | upcaster (config : UpcasterConfig)
deriving DecidableEq, Repr

/-- `HandlerConfig::kind`. -/
def HandlerConfig.kind : HandlerConfig → Kind
  | .commandHandler _ => .commandHandler
  | .saga _ => .saga
  | .processManager _ => .processManager
  | .projector _ => .projector
  | .upcaster _ => .upcaster

inductive HandlerRequest
  | commandHandler (command : ContextualCommand)
  | handleFact (request : FactRequest)
  | replay (request : ReplayRequest)
  | saga (request : SagaHandleRequest)
  | processManager (request : ProcessManagerHandleRequest)
  | projector (book : EventBook)
  | upcaster (request : UpcastRequest)
deriving DecidableEq, Repr

inductive HandlerResponse
  | commandHandler (response : BusinessResponse)
  | handleFact (book : EventBook)
  | replay (response : ReplayResponse)
  | saga (response : SagaResponse)
  | processManager (response : ProcessManagerHandleResponse)
  | projector (projection : Projection)
  | upcaster (response : UpcastResponse)
deriving DecidableEq, Repr

/-- What a dispatch arm was declared for. -/
inductive ArmKey
  | handles (typeUrl : String)
  | handlesFact (typeUrl : String)
  | rejected (domain command : String)
  | upcasts (fromUrl toUrl : String)
deriving DecidableEq, Repr

/-- One run of a user method: the arm that called it, and the payload its
argument was decoded from. -/
structure MethodRun where
  method : String
  key : ArmKey
  payload : Any
deriving DecidableEq, Repr

/-- What the framework does to user code: invoke a factory, dispatch to the
handler it produced, run a method.  A handler is named by its config. -/
inductive Event
  | produced (config : HandlerConfig)
  | dispatched (config : HandlerConfig) (request : HandlerRequest)
  | ran (run : MethodRun)
deriving DecidableEq, Repr

/-- A run of framework code. -/
abbrev Run (α : Type) := Traced Event ClientError α

/-- A run inside one handler, which can only run methods of that handler. -/
abbrev HandlerRun (α : Type) := Traced MethodRun ClientError α

/-- `dyn Handler`.  User code is deterministic: a fresh instance answers a
request with the same response each time.  An instance that is called again may
have changed in between; `dispatchAfter served` is what it answers once it has
served the requests `served`, the oldest first. -/
structure Handler where
  config : HandlerConfig
  dispatch : HandlerRequest → HandlerRun HandlerResponse
  dispatchAfter : List HandlerRequest → HandlerRequest →
    HandlerRun HandlerResponse := fun _ => dispatch

/-- A registered factory: the kind captured at registration, and the handler
every invocation of the closure yields. -/
structure Factory where
  kind : Kind
  handler : Handler

/-- `(factory.produce)()`. -/
def Factory.produce {ε : Type} (factory : Factory) : Traced Event ε Handler := do
  Traced.emit (.produced factory.handler.config)
  pure factory.handler

/-- `handler.dispatch(request)`, as the routers call it. -/
def Handler.call (handler : Handler) (request : HandlerRequest) :
    Run HandlerResponse := do
  Traced.emit (.dispatched handler.config request)
  (handler.dispatch request).mapTrace .ran

/-- The same on an instance that has served requests before. -/
def Handler.callAfter (handler : Handler) (served : List HandlerRequest)
    (request : HandlerRequest) : Run HandlerResponse := do
  Traced.emit (.dispatched handler.config request)
  (handler.dispatchAfter served request).mapTrace .ran

theorem Factory.produce_bind {ε β : Type} (factory : Factory)
    (f : Handler → Traced Event ε β) :
    factory.produce >>= f =
      ⟨.produced factory.handler.config :: (f factory.handler).trace,
        (f factory.handler).outcome⟩ := rfl

@[simp] theorem Handler.outcome_call (handler : Handler) (request : HandlerRequest) :
    (handler.call request).outcome = (handler.dispatch request).outcome := rfl

@[simp] theorem Handler.trace_call (handler : Handler) (request : HandlerRequest) :
    (handler.call request).trace =
      .dispatched handler.config request ::
        (handler.dispatch request).trace.map .ran := rfl

end AngzarrClient
