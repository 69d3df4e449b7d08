/-
The typed runtime routers (`router/runtime.rs`): command dispatch with its
rejection path, fact and replay dispatch, saga and process-manager fan-out.
-/
import AngzarrClient.Router.Builder
import AngzarrClient.Router.Dispatch
import AngzarrClient.Router.Extract

namespace AngzarrClient

/-- The router's check of a handler answer's variant. -/
def wrongKind {α : Type} (expected : String) : Except ClientError α :=
  .error (.wrongResponseKind expected)

namespace CommandHandlerRouter

/-- The config declares `(domain, typeUrl)`. -/
def routesCommand (domain typeUrl : String) : HandlerConfig → Bool
  | .commandHandler config => config.domain = domain ∧ typeUrl ∈ config.handled
  | _ => false

/-- The config lists the rejection key, for whatever domain it serves. -/
def reactsTo (key : String × String) : HandlerConfig → Bool
  | .commandHandler config => key ∈ config.rejected
  | _ => false

/-- `matches!(handler.config(), HandlerConfig::CommandHandler { .. })`. -/
def isCommandHandler : HandlerConfig → Bool
  | .commandHandler _ => true
  | _ => false

def unwrapCommand : HandlerResponse → Except ClientError BusinessResponse
  | .commandHandler response => .ok response
  | _ => wrongKind "CommandHandler"

def unwrapFact : HandlerResponse → Except ClientError EventBook
  | .handleFact book => .ok book
  | _ => wrongKind "HandleFact"

def unwrapReplay : HandlerResponse → Except ClientError ReplayResponse
  | .replay response => .ok response
  | _ => wrongKind "Replay"

/-- What the rejection loop carries: `running_seq` and `merged.pages`. -/
structure Compensation where
  runningSeq : UInt32
  pages : List EventPage
deriving DecidableEq, Repr

/-- `merged` before the loop. -/
def Compensation.start (cmd : ContextualCommand) : Compensation where
  runningSeq := (cmd.events.map EventBook.nextSequence).getD 0
  pages := []

/-- One answer merged: the pages of an `Events` result are appended and move
`running_seq` on (wrapping at `2^32`); any other result is dropped. -/
def Compensation.merge (merged : Compensation) (answer : BusinessResponse) :
    Compensation :=
  match answer.result with
  | some (.events events) =>
      { runningSeq := merged.runningSeq + UInt32.ofNat events.pages.length
        pages := merged.pages ++ events.pages }
  | _ => merged

/-- The response the rejection path ends with. -/
def Compensation.response (merged : Compensation) : BusinessResponse where
  result := some (.events
    { pages := merged.pages, nextSequence := merged.runningSeq })

/-- `scoped_cmd`: the command with the running sequence in its event book. -/
def scopedCommand (cmd : ContextualCommand) (runningSeq : UInt32) :
    ContextualCommand :=
  { cmd with
    events := cmd.events.map fun book => { book with nextSequence := runningSeq } }

/-- What the next matching handler is sent. -/
def rejectionRequest (cmd : ContextualCommand) (merged : Compensation) :
    HandlerRequest :=
  .commandHandler (scopedCommand cmd merged.runningSeq)

/-- `CommandHandlerRouter::dispatch_rejection`. -/
def dispatchRejection (prost : Prost) (router : CommandHandlerRouter)
    (cmd : ContextualCommand) : Run BusinessResponse := do
  let key ← Traced.ofExcept (extractRejectionKey prost cmd)
  let merged ← dispatchEach (reactsTo key) (rejectionRequest cmd) unwrapCommand
    Compensation.merge (Compensation.start cmd) router.factories
  pure merged.response

/-- `CommandHandlerRouter::dispatch`. -/
def dispatch (prost : Prost) (router : CommandHandlerRouter)
    (cmd : ContextualCommand) : Run BusinessResponse := do
  let typeUrl ← Traced.ofExcept (extractCommandTypeUrl cmd)
  if typeUrl = notificationTypeUrl then router.dispatchRejection prost cmd
  else
    dispatchFirst (routesCommand (cmd.coverDomain.getD "") typeUrl)
      (.commandHandler cmd) unwrapCommand
      (.fail (.noHandlerRegistered (cmd.coverDomain.getD "<missing>") typeUrl))
      router.factories

/-- `CommandHandlerRouter::supports_handle_fact`, the adapter's gate. -/
def supportsHandleFact (router : CommandHandlerRouter) : Bool :=
  router.factories.any fun factory =>
    match factory.handler.config with
    | .commandHandler config => !config.handlesFact.isEmpty
    | _ => false

/-- The config opted in through `supports_replay = true`. -/
def optsIntoReplay : HandlerConfig → Bool
  | .commandHandler config => config.supportsReplay
  | _ => false

/-- `CommandHandlerRouter::supports_replay`, the adapter's gate. -/
def supportsReplay (router : CommandHandlerRouter) : Bool :=
  router.factories.any fun factory => optsIntoReplay factory.handler.config

/-- `CommandHandlerRouter::dispatch_fact`. -/
def dispatchFact (router : CommandHandlerRouter) (request : FactRequest) :
    Run EventBook :=
  dispatchFirst isCommandHandler (.handleFact request) unwrapFact (pure {})
    router.factories

/-- `CommandHandlerRouter::dispatch_replay`. -/
def dispatchReplay (router : CommandHandlerRouter) (request : ReplayRequest) :
    Run ReplayResponse :=
  dispatchFirst isCommandHandler (.replay request) unwrapReplay (pure {})
    router.factories

end CommandHandlerRouter

/-- Saga answers merge field by field. -/
instance : Add SagaResponse where
  add a b := ⟨a.commands ++ b.commands, a.events ++ b.events⟩

instance : Zero SagaResponse where
  zero := {}

theorem SagaResponse.add_eq (a b : SagaResponse) :
    a + b = ⟨a.commands ++ b.commands, a.events ++ b.events⟩ := rfl

theorem SagaResponse.zero_eq : (0 : SagaResponse) = {} := rfl

instance : AddMonoid SagaResponse where
  add_assoc a b c := by simp [SagaResponse.add_eq]
  zero_add a := by simp [SagaResponse.add_eq, SagaResponse.zero_eq]
  add_zero a := by simp [SagaResponse.add_eq, SagaResponse.zero_eq]
  nsmul := nsmulRec

/-- Process-manager answers merge field by field. -/
instance : Add ProcessManagerHandleResponse where
  add a b := ⟨a.commands ++ b.commands, a.processEvents ++ b.processEvents,
    a.facts ++ b.facts⟩

instance : Zero ProcessManagerHandleResponse where
  zero := {}

theorem ProcessManagerHandleResponse.add_eq (a b : ProcessManagerHandleResponse) :
    a + b = ⟨a.commands ++ b.commands, a.processEvents ++ b.processEvents,
      a.facts ++ b.facts⟩ := rfl

theorem ProcessManagerHandleResponse.zero_eq :
    (0 : ProcessManagerHandleResponse) = {} := rfl

instance : AddMonoid ProcessManagerHandleResponse where
  add_assoc a b c := by simp [ProcessManagerHandleResponse.add_eq]
  zero_add a := by
    simp [ProcessManagerHandleResponse.add_eq, ProcessManagerHandleResponse.zero_eq]
  add_zero a := by
    simp [ProcessManagerHandleResponse.add_eq, ProcessManagerHandleResponse.zero_eq]
  nsmul := nsmulRec

namespace SagaRouter

/-- The saga listens to `typeUrl` events of `domain`. -/
def listens (domain typeUrl : String) : HandlerConfig → Bool
  | .saga config => config.source = domain ∧ typeUrl ∈ config.handled
  | _ => false

def unwrapSaga : HandlerResponse → Except ClientError SagaResponse
  | .saga response => .ok response
  | _ => wrongKind "Saga"

/-- `SagaRouter::dispatch`. -/
def dispatch (router : SagaRouter) (request : SagaHandleRequest) :
    Run SagaResponse := do
  let typeUrl ← Traced.ofExcept (extractSagaEventTypeUrl request)
  dispatchEach (listens (bookDomain request.source) typeUrl)
    (fun _ => .saga request) unwrapSaga (· + ·) 0 router.factories

variable {router : SagaRouter} {request : SagaHandleRequest} {url : String}

theorem dispatch_of_url (hurl : extractSagaEventTypeUrl request = .ok url) :
    router.dispatch request =
      dispatchEach (listens (bookDomain request.source) url)
        (fun _ => .saga request) unwrapSaga (· + ·) 0 router.factories := by
  rw [dispatch, hurl, Traced.ofExcept_ok, pure_bind]

theorem dispatch_of_no_url {error : ClientError}
    (hurl : extractSagaEventTypeUrl request = .error error) :
    router.dispatch request = .fail error := by
  rw [dispatch, hurl, Traced.ofExcept_error, Traced.fail_bind]

end SagaRouter

namespace ProcessManagerRouter

/-- The process manager listens to `typeUrl` events of `domain`. -/
def listens (domain typeUrl : String) : HandlerConfig → Bool
  | .processManager config => domain ∈ config.sources ∧ typeUrl ∈ config.handled
  | _ => false

def unwrapProcessManager :
    HandlerResponse → Except ClientError ProcessManagerHandleResponse
  | .processManager response => .ok response
  | _ => wrongKind "ProcessManager"

/-- `ProcessManagerRouter::dispatch`. -/
def dispatch (router : ProcessManagerRouter)
    (request : ProcessManagerHandleRequest) : Run ProcessManagerHandleResponse := do
  let typeUrl ← Traced.ofExcept (extractPmEventTypeUrl request)
  dispatchEach (listens (bookDomain request.trigger) typeUrl)
    (fun _ => .processManager request) unwrapProcessManager (· + ·) 0
    router.factories

variable {router : ProcessManagerRouter} {request : ProcessManagerHandleRequest}
  {url : String}

theorem dispatch_of_url (hurl : extractPmEventTypeUrl request = .ok url) :
    router.dispatch request =
      dispatchEach (listens (bookDomain request.trigger) url)
        (fun _ => .processManager request) unwrapProcessManager (· + ·) 0
        router.factories := by
  rw [dispatch, hurl, Traced.ofExcept_ok, pure_bind]

theorem dispatch_of_no_url {error : ClientError}
    (hurl : extractPmEventTypeUrl request = .error error) :
    router.dispatch request = .fail error := by
  rw [dispatch, hurl, Traced.ofExcept_error, Traced.fail_bind]

end ProcessManagerRouter

end AngzarrClient
