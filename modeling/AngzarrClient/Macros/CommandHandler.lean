/-
The handler that `#[command_handler(..)]` generates (`expand_aggregate`): its
config, and the dispatch of commands, rejection notifications, facts and
replays.
-/
import AngzarrClient.Macros.Arms
import AngzarrClient.Macros.State

namespace AngzarrClient

/-- An impl block under `#[command_handler(domain, state, supports_replay)]`.
Opting in to replay needs `prost::Message` for the state type. -/
structure Aggregate (S Msg : Type) where
  domain : NonEmptyString
  state : StateModel S Msg
  replay : Option (StateCodec S) := none
  handles : List (TypedArm Msg (S × UInt32) EventBook) := []
  rejected : List (RejectedArm S) := []
  handlesFact : List (TypedArm Msg S EventBook) := []

namespace Aggregate

variable {S Msg : Type} (aggregate : Aggregate S Msg)

/-- The generated `config`. -/
def config : CommandHandlerConfig where
  domain := aggregate.domain.value
  handled := armUrls aggregate.handles
  rejected := aggregate.rejected.map fun arm => arm.key
  applies := aggregate.state.applies.map fun arm => fullTypeUrl arm.eventType
  stateFactory := aggregate.state.stateFactory.map Prod.fst
  handlesFact := armUrls aggregate.handlesFact
  supportsReplay := aggregate.replay.isSome

/-- The generated `dispatch` on a command or a rejection notification. -/
def dispatchCommand (prost : Prost) (cmd : ContextualCommand) :
    HandlerRun HandlerResponse := do
  let payload ← Traced.ofExcept (commandPayload cmd)
  let priorEvents := cmd.events.getD {}
  let seq := priorEvents.nextSequence
  let state ← Traced.ofExcept (aggregate.state.rebuild priorEvents.pages)
  if payload.typeUrl = notificationTypeUrl then do
    let opened ← Traced.ofExcept (openNotification prost payload)
    let answer ← runRejectedArms opened.1 opened.2.key state payload
      aggregate.rejected
    -- no matching rejection handler: an empty compensation
    pure (.commandHandler (answer.getD { result := some (.events {}) }))
  else do
    let answer ← runArms .handles (state, seq) payload aggregate.handles
    match answer with
    | some events => pure (.commandHandler { result := some (.events events) })
    | none => .fail (.noArmRegistered payload.typeUrl)

/-- The walk over the facts: a matched fact appends the pages its method
emits, an unmatched one is skipped. -/
def walkFacts (state : S) (merged : List EventPage) :
    List EventPage → HandlerRun (List EventPage)
  | [] => pure merged
  | page :: rest =>
      match page.payload with
      | some (.event payload) => do
          let answer ← runArms .handlesFact state payload aggregate.handlesFact
          match answer with
          | some events => walkFacts state (merged ++ events.pages) rest
          | none => walkFacts state merged rest
      | _ => walkFacts state merged rest

/-- `__angzarr_dispatch_fact`. -/
def dispatchFact (request : FactRequest) : HandlerRun HandlerResponse := do
  let state ← Traced.ofExcept
    (aggregate.state.rebuild (request.priorEvents.getD {}).pages)
  let pages ← aggregate.walkFacts state [] (request.facts.getD {}).pages
  pure (.handleFact { pages := pages })

/-- The state a replay starts from: the snapshot's, unless it is missing or
has no bytes. -/
def baseState (codec : StateCodec S) (snapshot : Option Snapshot) :
    Except ClientError S :=
  match snapshot.bind Snapshot.state with
  | some any =>
      if any.value ≠ [] then
        (codec.decode any.value).mapError .stateCodecFailed
      else .ok aggregate.state.initial
  | none => .ok aggregate.state.initial

/-- `__angzarr_dispatch_replay`. -/
def dispatchReplay (request : ReplayRequest) : HandlerRun HandlerResponse :=
  match aggregate.replay with
  | none => .fail (.wrongRequestKind "CommandHandler (supports_replay=false)")
  | some codec => do
      let base ← Traced.ofExcept (aggregate.baseState codec request.baseSnapshot)
      let state ← Traced.ofExcept
        (replayPages aggregate.state.applies base request.events)
      let value ← Traced.ofExcept
        ((codec.encode state).mapError .stateCodecFailed)
      pure (.replay { state := some ⟨fullTypeUrl codec.toMessageType, value⟩ })

/-- The generated `dispatch`. -/
def dispatch (prost : Prost) : HandlerRequest → HandlerRun HandlerResponse
  | .commandHandler cmd => aggregate.dispatchCommand prost cmd
  | .handleFact request => aggregate.dispatchFact request
  | .replay request => aggregate.dispatchReplay request
  | _ => .fail (.wrongRequestKind "CommandHandler")

/-- The generated `impl Handler`. -/
def handler (prost : Prost) : Handler where
  config := .commandHandler aggregate.config
  dispatch := aggregate.dispatch prost

/-- `with_handler(|| aggregate)`. -/
def factory (prost : Prost) : Factory where
  kind := .commandHandler
  handler := aggregate.handler prost

/-- The answer of a `#[handles]` method, wrapped. -/
def eventsResponse (events : EventBook) : HandlerResponse :=
  .commandHandler { result := some (.events events) }

/-- The answer of a rejection arm, or the empty compensation. -/
def rejectionResponse (answer : Option BusinessResponse) : HandlerResponse :=
  .commandHandler (answer.getD { result := some (.events {}) })

section Dispatch

variable {aggregate} {prost : Prost} {cmd : ContextualCommand} {payload : Any}

/-- The state rebuild comes before any method is looked up. -/
theorem dispatchCommand_of_rebuild_error {error : ClientError}
    (hpayload : commandPayload cmd = .ok payload)
    (hstate : aggregate.state.rebuild (cmd.events.getD {}).pages = .error error) :
    aggregate.dispatchCommand prost cmd = .fail error := by
  simp only [dispatchCommand, hpayload, hstate, Traced.ofExcept_ok,
    Traced.ofExcept_error, pure_bind, Traced.fail_bind]

/-- A command runs the first arm for its type URL on the rebuilt state. -/
theorem dispatchCommand_of_command {state : S}
    (hpayload : commandPayload cmd = .ok payload)
    (hkind : payload.typeUrl ≠ notificationTypeUrl)
    (hstate : aggregate.state.rebuild (cmd.events.getD {}).pages = .ok state) :
    aggregate.dispatchCommand prost cmd =
      match firstArm payload.typeUrl aggregate.handles with
      | none => .fail (.noArmRegistered payload.typeUrl)
      | some arm => eventsResponse <$>
          arm.execute .handles (state, (cmd.events.getD {}).nextSequence) payload := by
  simp only [dispatchCommand, hpayload, hstate, Traced.ofExcept_ok, pure_bind,
    if_neg hkind, runArms_eq]
  cases firstArm payload.typeUrl aggregate.handles with
  | none => rfl
  | some arm =>
      dsimp only
      rw [map_eq_pure_bind, bind_assoc, map_eq_pure_bind]
      simp only [pure_bind]
      rfl

/-- A rejection notification runs the first arm for its key on that state. -/
theorem dispatchCommand_of_notification {state : S} {notification : Notification}
    {rejection : RejectionNotification}
    (hpayload : commandPayload cmd = .ok payload)
    (hkind : payload.typeUrl = notificationTypeUrl)
    (hstate : aggregate.state.rebuild (cmd.events.getD {}).pages = .ok state)
    (hopen : openNotification prost payload = .ok (notification, rejection)) :
    aggregate.dispatchCommand prost cmd =
      rejectionResponse <$> runRejectedArms notification rejection.key state payload
        aggregate.rejected := by
  simp only [dispatchCommand, hpayload, hstate, Traced.ofExcept_ok, pure_bind,
    if_pos hkind, hopen, map_eq_pure_bind]
  rfl

/-- The methods a command can run: of the first arm for its type URL, or, on a
notification, of the first arm for the rejection key. -/
theorem ran_of_mem_dispatchCommand {run : MethodRun}
    (hmem : run ∈ (aggregate.dispatchCommand prost cmd).trace) :
    (∃ payload arm, payload.typeUrl ≠ notificationTypeUrl ∧
        firstArm payload.typeUrl aggregate.handles = some arm ∧
        run = ⟨arm.method, .handles payload.typeUrl, payload⟩) ∨
      ∃ (rejection : RejectionNotification) (arm : RejectedArm S) (payload : Any),
        (aggregate.rejected.find? fun arm => rejection.key = arm.key) = some arm ∧
        run = ⟨arm.method, .rejected arm.domain.value arm.command.value, payload⟩ := by
  cases hpayload : commandPayload cmd with
  | error error => simp [dispatchCommand, hpayload] at hmem
  | ok payload =>
      cases hstate : aggregate.state.rebuild (cmd.events.getD {}).pages with
      | error error =>
          rw [dispatchCommand_of_rebuild_error hpayload hstate] at hmem
          cases hmem
      | ok state =>
          by_cases hkind : payload.typeUrl = notificationTypeUrl
          · cases hopen : openNotification prost payload with
            | error error =>
                simp [dispatchCommand, hpayload, hstate, hkind, hopen] at hmem
            | ok opened =>
                rw [dispatchCommand_of_notification hpayload hkind hstate hopen,
                  Traced.trace_map] at hmem
                obtain ⟨arm, harm, hrun⟩ := mem_trace_runRejectedArms hmem
                exact Or.inr ⟨_, arm, payload, harm, hrun⟩
          · rw [dispatchCommand_of_command hpayload hkind hstate] at hmem
            cases hfirst : firstArm payload.typeUrl aggregate.handles with
            | none => rw [hfirst] at hmem; cases hmem
            | some arm =>
                rw [hfirst] at hmem
                dsimp only at hmem
                rw [Traced.trace_map, TypedArm.trace_execute] at hmem
                split at hmem
                · exact Or.inl ⟨payload, arm, hkind, hfirst, List.mem_singleton.mp hmem⟩
                · cases hmem

/-- On a type URL of its config a generated handler fails only because some
payload does not decode or because the method rejects. -/
theorem dispatchCommand_error {error : ClientError}
    (hpayload : commandPayload cmd = .ok payload)
    (hkind : payload.typeUrl ≠ notificationTypeUrl)
    (hhandled : payload.typeUrl ∈ armUrls aggregate.handles)
    (herror : (aggregate.dispatchCommand prost cmd).outcome = .error error) :
    (∃ typeUrl cause, error = .anyDecodeFailed typeUrl cause) ∨
      ∃ rejection, error = .rejected rejection := by
  by_cases hdecodable : ∃ page ∈ (cmd.events.getD {}).pages,
      aggregate.state.Undecodable page
  · obtain ⟨typeUrl, cause, hstate⟩ :=
      StateModel.rebuild_of_undecodable hdecodable
    rw [dispatchCommand_of_rebuild_error hpayload hstate] at herror
    cases herror
    exact Or.inl ⟨typeUrl, cause, rfl⟩
  · push Not at hdecodable
    obtain ⟨arm, -, harm, -⟩ := exists_firstArm hhandled
    rw [dispatchCommand_of_command hpayload hkind
      (StateModel.rebuild_of_decodable hdecodable), harm] at herror
    rw [Traced.outcome_map] at herror
    cases hrun : (arm.execute .handles
        (aggregate.state.stateAfter (cmd.events.getD {}).pages,
          (cmd.events.getD {}).nextSequence) payload).outcome with
    | ok events => rw [hrun] at herror; cases herror
    | error error' =>
        rw [hrun] at herror
        cases herror
        rcases TypedArm.execute_error hrun with ⟨cause, hcause⟩ | hrejected
        · exact Or.inl ⟨_, cause, hcause⟩
        · exact Or.inr hrejected

end Dispatch

end Aggregate

end AngzarrClient
