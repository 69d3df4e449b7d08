/-
The gate of the `Replay` RPC.  It opens when any registered handler opted in;
`dispatch_replay` behind it commits to the first command handler.
-/
import AngzarrClient.Grpc
import AngzarrClient.Macros.Checkpoint
import AngzarrClient.Router.CommandRouting
import AngzarrClient.Router.FactRouting

namespace AngzarrClient

open CommandHandlerRouter

/-- What the body generated without `supports_replay = true` answers. -/
def replayStub : ClientError :=
  .wrongRequestKind "CommandHandler (supports_replay=false)"

/-- When the gate is open, the request goes to one handler, and that handler
opted in. -/
def CommandHandlerRouter.ServesReplay (router : CommandHandlerRouter)
    (request : ReplayRequest) : Prop :=
  router.supportsReplay = true →
    ∃ config, optsIntoReplay config = true ∧ ∀ asked sent,
      Event.dispatched asked sent ∈ (router.dispatchReplay request).trace ↔
        asked = config ∧ sent = .replay request

/-- No handler opted in, or the first registered command handler did. -/
def CommandHandlerRouter.FirstOptsIn (router : CommandHandlerRouter) : Prop :=
  router.supportsReplay = true → ∃ first, router.firstHandler = some first ∧
    optsIntoReplay first.handler.config = true

variable {router : CommandHandlerRouter} {request : ReplayRequest}

/-- Behind an open gate there is a first command handler. -/
theorem exists_first_of_supportsReplay (hgate : router.supportsReplay = true) :
    ∃ first ∈ router.factories, router.firstHandler = some first := by
  obtain ⟨factory, hmem, hopted⟩ := List.any_eq_true.mp hgate
  apply exists_firstHandler hmem
  cases hconfig : factory.handler.config with
  | commandHandler config => rfl
  | saga | processManager | projector | upcaster =>
      rw [hconfig] at hopted
      cases hopted

/-- The request goes to the first command handler alone. -/
theorem dispatched_mem_dispatchReplay {first : Factory}
    (hfirst : router.firstHandler = some first) (asked : HandlerConfig)
    (sent : HandlerRequest) :
    Event.dispatched asked sent ∈ (router.dispatchReplay request).trace ↔
      asked = first.handler.config ∧ sent = .replay request := by
  rw [← mem_calls, dispatchReplay, calls_dispatchFirst, head?_selected, hfirst]
  simp

theorem outcome_dispatchReplay {first : Factory}
    (hfirst : router.firstHandler = some first) :
    (router.dispatchReplay request).outcome =
      first.handler.answer unwrapReplay (.replay request) := by
  rw [dispatchReplay, outcome_dispatchFirst, head?_selected, hfirst]
  rfl

theorem servesReplay_iff_firstOptsIn :
    router.ServesReplay request ↔ router.FirstOptsIn := by
  constructor
  · intro hserves hgate
    obtain ⟨first, -, hfirst⟩ := exists_first_of_supportsReplay hgate
    obtain ⟨config, hopted, hcalls⟩ := hserves hgate
    have hasked := (hcalls first.handler.config (.replay request)).mp
      ((dispatched_mem_dispatchReplay hfirst _ _).mpr ⟨rfl, rfl⟩)
    exact ⟨first, hfirst, hasked.1 ▸ hopted⟩
  · intro hopts hgate
    obtain ⟨first, hfirst, hopted⟩ := hopts hgate
    exact ⟨first.handler.config, hopted, dispatched_mem_dispatchReplay hfirst⟩

/-- What the coordinator sees of a payload that does not decode or encode. -/
def decodeStatus : Status := ⟨.invalidArgument, messages.anyDecodeFailed⟩

/-- The pages of a replay are refused for their bytes alone. -/
theorem StateModel.replayPages_error {S Msg : Type} {model : StateModel S Msg} {base : S}
    {pages : List EventPage} {error : ClientError}
    (herror : replayPages model.applies base pages = .error error) :
    clientErrorToStatus error = decodeStatus := by
  rw [replayPages_eq_replay, EventFold.replay_eq_error_iff] at herror
  obtain ⟨_, _, _, -, -, hread⟩ := herror
  obtain ⟨typeUrl, cause, rfl⟩ := readPage_eq_error hread
  rfl

/-- A handler that opted in answers a replay with a replay, or with an error
about bytes that do not decode or encode. -/
theorem Aggregate.dispatchReplay_of_some {S Msg : Type} {aggregate : Aggregate S Msg}
    {codec : StateCodec S} (hreplay : aggregate.replay = some codec)
    (request : ReplayRequest) :
    (∃ response, (aggregate.dispatchReplay request).outcome = .ok (.replay response)) ∨
      ∃ error, (aggregate.dispatchReplay request).outcome = .error error ∧
        clientErrorToStatus error = decodeStatus := by
  rw [outcome_dispatchReplay hreplay]
  cases hbase : aggregate.baseState codec request.baseSnapshot with
  | error error =>
      refine Or.inr ⟨error, rfl, ?_⟩
      rw [baseState] at hbase
      split at hbase
      · split at hbase
        · rename_i any _ _
          cases hdecode : codec.decode any.value with
          | ok state => rw [hdecode] at hbase; cases hbase
          | error cause => rw [hdecode] at hbase; cases hbase; rfl
        · cases hbase
      · cases hbase
  | ok base =>
      change (∃ response, aggregate.replayFrom codec base request.events = _) ∨
        ∃ error, aggregate.replayFrom codec base request.events = _ ∧ _
      rw [replayFrom]
      cases hstate : replayPages aggregate.state.applies base request.events with
      | error error => exact Or.inr ⟨error, rfl, StateModel.replayPages_error hstate⟩
      | ok state =>
          dsimp only
          cases codec.encode state with
          | error cause => exact Or.inr ⟨_, rfl, rfl⟩
          | ok value => exact Or.inl ⟨_, rfl⟩

/-- A generated handler answers a replay with the stub's error exactly when it
did not opt in. -/
theorem Factory.Generated.answer_replay {prost : Prost} {factory : Factory}
    (hgenerated : factory.Generated prost) (request : ReplayRequest) :
    (factory.handler.answer unwrapReplay (.replay request)).mapError
        clientErrorToStatus = .error (clientErrorToStatus replayStub) ↔
      optsIntoReplay factory.handler.config = false := by
  obtain ⟨S, Msg, aggregate, rfl⟩ := hgenerated
  change ((aggregate.dispatchReplay request).outcome.bind unwrapReplay).mapError _ = _ ↔
    aggregate.replay.isSome = false
  cases hreplay : aggregate.replay with
  | none =>
      rw [Aggregate.dispatchReplay, hreplay]
      exact ⟨fun _ => rfl, fun _ => rfl⟩
  | some codec =>
      simp only [Option.isSome_some, Bool.true_eq_false, iff_false]
      rcases Aggregate.dispatchReplay_of_some hreplay request with
        ⟨response, hok⟩ | ⟨error, herror, hstatus⟩
      · rw [hok]
        simp [Except.bind, unwrapReplay, Except.mapError]
      · rw [herror]
        intro hstub
        rw [Except.bind, Except.mapError, hstatus, Except.error.injEq] at hstub
        exact absurd hstub (by decide)

/-- Behind the gate a replay goes to a handler that opted in exactly when the
first registered command handler did, or none; over generated handlers, the
stub's error stays out of the coordinator's sight exactly then. -/
theorem replay_served_iff_first_opts_in (router : CommandHandlerRouter)
    (request : ReplayRequest) :
    (router.ServesReplay request ↔ router.FirstOptsIn) ∧
    ∀ prost, (∀ factory ∈ router.factories, factory.Generated prost) →
      (((CommandHandlerGrpc.mk router).replay request).outcome ≠
          .error (clientErrorToStatus replayStub) ↔
        router.FirstOptsIn) := by
  refine ⟨servesReplay_iff_firstOptsIn, ?_⟩
  intro prost hgenerated
  rw [CommandHandlerGrpc.replay, FirstOptsIn]
  by_cases hgate : router.supportsReplay = true
  · obtain ⟨first, hmem, hfirst⟩ := exists_first_of_supportsReplay hgate
    have hstub := (hgenerated first hmem).answer_replay request
    simp only [hgate, if_true, true_implies, hfirst, Option.some.injEq, exists_eq_left',
      outcome_dispatchReplay hfirst]
    rw [Ne, hstub, Bool.not_eq_false]
  · rw [if_neg hgate]
    constructor
    · exact fun _ hopen => absurd hopen hgate
    · intro _ hstub
      cases hstub

namespace Sample

/-- An aggregate of `domain` that opted in to replay, or did not. -/
def replayer (domain : String) (optsIn : Bool) : Factory :=
  Aggregate.factory
    { domain := named domain
      state := flagState
      replay := if optsIn then some (flagCodec "order.State") else none }
    (prost {})

theorem replayer_generated (domain : String) (optsIn : Bool) :
    (replayer domain optsIn).Generated (prost {}) :=
  ⟨Bool, Bool, _, rfl⟩

end Sample

open Sample in
/-- A handler that did not opt in, registered before one that did: the gate is
open and the request ends in the stub. -/
theorem replay_reaches_stub :
    (CommandHandlerRouter.mk [replayer "stock" false, replayer "order" true]).Accepted ∧
    supportsReplay ⟨[replayer "stock" false, replayer "order" true]⟩ = true ∧
    (dispatchReplay ⟨[replayer "stock" false, replayer "order" true]⟩ {}).outcome =
      .error replayStub ∧
    ¬ServesReplay ⟨[replayer "stock" false, replayer "order" true]⟩ {} := by
  refine ⟨⟨"shop", by rfl⟩, by rfl, by rfl, ?_⟩
  rw [servesReplay_iff_firstOptsIn]
  intro hopts
  obtain ⟨first, hfirst, hopted⟩ := hopts rfl
  cases hfirst
  cases hopted

open Sample in
/-- Registered the other way round, the handler that opted in serves the replay. -/
theorem replay_served_iff_first_opts_in_sample :
    ServesReplay ⟨[replayer "order" true, replayer "stock" false]⟩ {} ∧
    ((CommandHandlerGrpc.mk ⟨[replayer "order" true, replayer "stock" false]⟩).replay
        {}).outcome ≠ .error (clientErrorToStatus replayStub) := by
  have hserved := replay_served_iff_first_opts_in
    ⟨[replayer "order" true, replayer "stock" false]⟩ {}
  have hopts : FirstOptsIn ⟨[replayer "order" true, replayer "stock" false]⟩ :=
    fun _ => ⟨_, rfl, rfl⟩
  refine ⟨hserved.1.mpr hopts, (hserved.2 (prost {}) ?_).mpr hopts⟩
  intro factory hfactory
  rcases List.mem_pair.mp hfactory with rfl | rfl
  · exact replayer_generated "order" true
  · exact replayer_generated "stock" false

end AngzarrClient
