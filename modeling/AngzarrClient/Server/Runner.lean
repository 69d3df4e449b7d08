/-
How a runner is set up (`run_server`, `run_*_server` and `run_kind` in `server.rs`, the
probes in `readiness.rs`, `name` in `router/runtime.rs`), and what its health says of
the handlers it serves.
-/
import AngzarrClient.Lib.Pass
import AngzarrClient.Router.OutputDomains
import AngzarrClient.Server.Config
import AngzarrClient.Server.Supervision

namespace AngzarrClient

section Names

variable {ε : Type}

/-- `first_config`. -/
def firstConfig : List Factory → Traced Event ε (Option HandlerConfig)
  | [] => pure none
  | factory :: _ => do
      let handler ← factory.produce
      pure (some handler.config)

/-- `OnceLock::get_or_init`: the value, and the cell after the call. -/
def getOrInit (cell : Option String) (init : Traced Event ε String) :
    Traced Event ε (String × Option String) :=
  match cell with
  | some value => pure (value, some value)
  | none => do
      let value ← init
      pure (value, some value)

/-- `name` of a router: what the first handler declares, cached in the cell. -/
def routerName (declared : HandlerConfig → Option String) (factories : List Factory)
    (cell : Option String) : Traced Event ε (String × Option String) :=
  getOrInit cell do
    let config ← firstConfig factories
    pure ((config.bind declared).getD "")

/-- What a handler declares as its router's name, kind by kind. -/
def HandlerConfig.declaredName (kind : Kind) (config : HandlerConfig) : Option String :=
  match kind, config with
  | .commandHandler, .commandHandler config => some config.domain
  | .saga, .saga config => some config.name
  | .processManager, .processManager config => some config.name
  | .projector, .projector config => some config.name
  | .upcaster, .upcaster config => some config.name
  | _, _ => none

/-- `CommandHandlerRouter::name`. -/
def CommandHandlerRouter.name (router : CommandHandlerRouter) (cell : Option String) :
    Traced Event ε (String × Option String) :=
  routerName (HandlerConfig.declaredName .commandHandler) router.factories cell

/-- `SagaRouter::name`. -/
def SagaRouter.name (router : SagaRouter) (cell : Option String) :
    Traced Event ε (String × Option String) :=
  routerName (HandlerConfig.declaredName .saga) router.factories cell

/-- `ProcessManagerRouter::name`. -/
def ProcessManagerRouter.name (router : ProcessManagerRouter) (cell : Option String) :
    Traced Event ε (String × Option String) :=
  routerName (HandlerConfig.declaredName .processManager) router.factories cell

/-- `ProjectorRouter::name`. -/
def ProjectorRouter.name (router : ProjectorRouter) (cell : Option String) :
    Traced Event ε (String × Option String) :=
  routerName (HandlerConfig.declaredName .projector) router.factories cell

/-- `UpcasterRouter::name`. -/
def UpcasterRouter.name (router : UpcasterRouter) (cell : Option String) :
    Traced Event ε (String × Option String) :=
  routerName (HandlerConfig.declaredName .upcaster) router.factories cell

/-- What a router's first handler declares. -/
def firstName (declared : HandlerConfig → Option String) (factories : List Factory) : String :=
  ((factories.head?.map fun factory => factory.handler.config).bind declared).getD ""

theorem routerName_none (declared : HandlerConfig → Option String)
    (factories : List Factory) :
    (routerName declared factories none : Traced Event ε (String × Option String)) =
      ⟨(factories.head?.map fun factory => Event.produced factory.handler.config).toList,
        .ok (firstName declared factories, some (firstName declared factories))⟩ := by
  cases factories with
  | nil => rfl
  | cons factory rest => rfl

end Names

/-- The kind a router was built for, and its factories. -/
def Built.registered : Built → Kind × List Factory
  | .commandHandler router => (.commandHandler, router.factories)
  | .saga router => (.saga, router.factories)
  | .processManager router => (.processManager, router.factories)
  | .projector router => (.projector, router.factories)
  | .upcaster router => (.upcaster, router.factories)

/-- The name of a built router. -/
def Built.name (built : Built) : String :=
  firstName (HandlerConfig.declaredName built.registered.1) built.registered.2

/-- `router.name()` in the runner of each kind. -/
def Built.nameRun {ε : Type} (built : Built) (cell : Option String) :
    Traced Event ε (String × Option String) :=
  match built with
  | .commandHandler router => router.name cell
  | .saga router => router.name cell
  | .processManager router => router.name cell
  | .projector router => router.name cell
  | .upcaster router => router.name cell

/-- The name asked for so many times, one call after the other. -/
def Built.nameCalls {ε : Type} (built : Built) :
    Nat → Option String → Traced Event ε (List String)
  | 0, _ => pure []
  | n + 1, cell => do
      let (name, cell) ← built.nameRun cell
      let names ← built.nameCalls n cell
      pure (name :: names)

section NameCalls

variable {ε : Type} (built : Built)

theorem Built.nameRun_eq (cell : Option String) :
    (built.nameRun cell : Traced Event ε (String × Option String)) =
      routerName (HandlerConfig.declaredName built.registered.1) built.registered.2 cell := by
  cases built <;> rfl

/-- A filled cell answers without the factories. -/
theorem Built.nameCalls_some (n : Nat) (value : String) :
    (built.nameCalls n (some value) : Traced Event ε (List String)) =
      pure (List.replicate n value) := by
  induction n with
  | zero => rfl
  | succ n ih =>
      rw [nameCalls, nameRun_eq]
      change built.nameCalls n (some value) >>= _ = _
      rw [ih]
      rfl

/-- However often a router is asked for its name, the answer is the same and only its
first factory is invoked, once. -/
theorem Built.nameCalls_succ (n : Nat) :
    (built.nameCalls (n + 1) none : Traced Event ε (List String)) =
      ⟨(built.registered.2.head?.map fun factory =>
          Event.produced factory.handler.config).toList,
        .ok (List.replicate (n + 1) built.name)⟩ := by
  rw [nameCalls, nameRun_eq, routerName_none, Traced.bind_of_ok rfl]
  dsimp only
  rw [nameCalls_some, List.replicate_succ]
  simp [name]

end NameCalls

def healthNameCommandHandler := "angzarr_client.proto.angzarr.CommandHandlerService"
def healthNameSaga := "angzarr_client.proto.angzarr.SagaService"
def healthNameProcessManager := "angzarr_client.proto.angzarr.ProcessManagerService"
def healthNameProjector := "angzarr_client.proto.angzarr.ProjectorService"
def healthNameUpcaster := "angzarr_client.proto.angzarr.UpcasterService"

def envBusEndpoint := "ANGZARR_BUS_ENDPOINT"

/-- `BusProbe::from_env`; the endpoint is read like that of an output domain. -/
def busProbeFromEnv (env : Env) : Option Endpoint :=
  ((env envBusEndpoint).filter (· ≠ "")).map probeEndpoint

/-- What a runner is set up with: its name, where it listens, the endpoints its probes
dial, and what its supervisor is spawned with. -/
structure RunnerSetup where
  instanceName : String
  config : ServerConfig
  outputProbes : List OutputDomainProbe
  busProbe : Option Endpoint
  readiness : ReadinessConfig

/-- `run_kind` up to the spawn; an error is the panic of a probe that cannot resolve its
endpoint. -/
def runKindSetup (env : Env) (instanceName : String) (config : ServerConfig)
    (syncOutputDomains : List String) (hasAsyncOutputs : Bool) (healthServiceName : String) :
    Except ClientError RunnerSetup := do
  let outputProbes ← syncOutputDomains.mapM (OutputDomainProbe.forDomain env)
  pure
    { instanceName := instanceName
      config := config
      outputProbes := outputProbes
      busProbe := if hasAsyncOutputs then busProbeFromEnv env else none
      readiness := ReadinessConfig.ofRunKind syncOutputDomains hasAsyncOutputs
        (env envBusEndpoint) healthServiceName }

section Runners

variable (env : Env) (defaultPort : UInt16)

/-- `run_command_handler_server`. -/
def runCommandHandlerServer (router : CommandHandlerRouter) : Except ClientError RunnerSetup :=
  runKindSetup env (Built.commandHandler router).name (getTransportConfig env defaultPort)
    [] false healthNameCommandHandler

/-- `run_saga_server`. -/
def runSagaServer (router : SagaRouter) : Except ClientError RunnerSetup :=
  runKindSetup env (Built.saga router).name (getTransportConfig env defaultPort)
    router.syncOutputDomains router.hasAsyncOutputs healthNameSaga

/-- `run_projector_server`. -/
def runProjectorServer (router : ProjectorRouter) : Except ClientError RunnerSetup :=
  runKindSetup env (Built.projector router).name (getTransportConfig env defaultPort)
    [] false healthNameProjector

/-- `run_process_manager_server`. -/
def runProcessManagerServer (router : ProcessManagerRouter) : Except ClientError RunnerSetup :=
  runKindSetup env (Built.processManager router).name (getTransportConfig env defaultPort)
    router.syncOutputDomains router.hasAsyncOutputs healthNameProcessManager

/-- `run_upcaster_server`. -/
def runUpcasterServer (router : UpcasterRouter) : Except ClientError RunnerSetup :=
  runKindSetup env (Built.upcaster router).name (getTransportConfig env defaultPort)
    [] false healthNameUpcaster

/-- `run_server`, up to the spawn of the supervisor. -/
def runServer : Built → Except ClientError RunnerSetup
  | .commandHandler router => runCommandHandlerServer env defaultPort router
  | .saga router => runSagaServer env defaultPort router
  | .processManager router => runProcessManagerServer env defaultPort router
  | .projector router => runProjectorServer env defaultPort router
  | .upcaster router => runUpcasterServer env defaultPort router

end Runners

namespace Built

/-- What the registered handlers declare as outbound. -/
def outputs : Built → List OutputDecl
  | .saga router => router.outputs
  | .processManager router => router.outputs
  | _ => []

/-- The domains a runner probes. -/
def syncOutputDomains : Built → List String
  | .saga router => router.syncOutputDomains
  | .processManager router => router.syncOutputDomains
  | _ => []

/-- Whether a runner probes the bus. -/
def hasAsyncOutputs : Built → Bool
  | .saga router => router.hasAsyncOutputs
  | .processManager router => router.hasAsyncOutputs
  | _ => false

def healthServiceName : Built → String
  | .commandHandler _ => healthNameCommandHandler
  | .saga _ => healthNameSaga
  | .processManager _ => healthNameProcessManager
  | .projector _ => healthNameProjector
  | .upcaster _ => healthNameUpcaster

variable (built : Built)

/-- Every kind is set up alike. -/
theorem runServer_eq (env : Env) (defaultPort : UInt16) :
    runServer env defaultPort built =
      runKindSetup env built.name (getTransportConfig env defaultPort)
        built.syncOutputDomains built.hasAsyncOutputs built.healthServiceName := by
  cases built <;> rfl

theorem mem_syncOutputDomains_iff (domain : String) :
    domain ∈ built.syncOutputDomains ↔
      (∃ decl ∈ built.outputs, domain ∈ decl.syncTargets) ∧ domain ≠ "" := by
  rw [← List.mem_flatMap]
  cases built with
  | saga router =>
      rw [syncOutputDomains, router.syncOutputDomains_eq]
      exact (firstDeclared_foldl _).mem_iff domain
  | processManager router =>
      rw [syncOutputDomains, router.syncOutputDomains_eq]
      exact (firstDeclared_foldl _).mem_iff domain
  | commandHandler router => simp [syncOutputDomains, outputs]
  | projector router => simp [syncOutputDomains, outputs]
  | upcaster router => simp [syncOutputDomains, outputs]

/-- An output that its handler does not mark sync is seen. -/
theorem hasAsyncOutputs_of_isAsync {decl : OutputDecl} {target : String}
    (hdecl : decl ∈ built.outputs) (hasync : decl.IsAsync target) :
    built.hasAsyncOutputs = true := by
  obtain ⟨htarget, hne, hsync⟩ := hasync
  have hany : (built.outputs.any fun decl =>
      decl.targets.any fun target => target ≠ "" ∧ target ∉ decl.syncTargets) = true := by
    rw [List.any_eq_true]
    refine ⟨decl, hdecl, ?_⟩
    rw [List.any_eq_true]
    exact ⟨target, htarget, decide_eq_true ⟨hne, hsync⟩⟩
  cases built with
  | saga router => rw [hasAsyncOutputs, router.hasAsyncOutputs_eq]; exact hany
  | processManager router => rw [hasAsyncOutputs, router.hasAsyncOutputs_eq]; exact hany
  | commandHandler router => cases hdecl
  | projector router => cases hdecl
  | upcaster router => cases hdecl

end Built

open Readiness

/-- The tick found the coordinator of a synchronous target where its endpoint resolves
to, once the runner itself was bound. -/
def SyncChecked (env : Env) (setup : RunnerSetup) (tick : Tick) (target : String) : Prop :=
  ∃ probe ∈ setup.outputProbes, OutputDomainProbe.forDomain env target = .ok probe ∧
    ∃ check ∈ tick, check.probe = .dependency target ∧ check.bound = true ∧
      check.outcome = .returned true

/-- The tick found the bus, if there is one. -/
def BusChecked (env : Env) (setup : RunnerSetup) (tick : Tick) : Prop :=
  ∀ endpoint, busProbeFromEnv env = some endpoint →
    setup.busProbe = some endpoint ∧
      ∃ check ∈ tick, check.probe = .dependency "bus" ∧ check.bound = true ∧
        check.outcome = .returned true

section Setup

variable {env : Env} {instanceName healthServiceName : String} {config : ServerConfig}
  {syncOutputDomains : List String} {hasAsyncOutputs : Bool} {setup : RunnerSetup}

/-- What a set-up consists of. -/
theorem runKindSetup_eq_ok_iff :
    runKindSetup env instanceName config syncOutputDomains hasAsyncOutputs healthServiceName =
        .ok setup ↔
      ∃ outputProbes, syncOutputDomains.mapM (OutputDomainProbe.forDomain env) =
          .ok outputProbes ∧
        setup =
          { instanceName := instanceName
            config := config
            outputProbes := outputProbes
            busProbe := if hasAsyncOutputs then busProbeFromEnv env else none
            readiness := ReadinessConfig.ofRunKind syncOutputDomains hasAsyncOutputs
              (env envBusEndpoint) healthServiceName } := by
  rw [runKindSetup]
  cases syncOutputDomains.mapM (OutputDomainProbe.forDomain env) with
  | error error =>
      constructor
      · intro hsetup
        cases hsetup
      · rintro ⟨_, hprobes, -⟩
        cases hprobes
  | ok outputProbes =>
      constructor
      · intro hsetup
        cases hsetup
        exact ⟨outputProbes, rfl, rfl⟩
      · rintro ⟨_, hprobes, rfl⟩
        cases hprobes
        rfl

/-- A set-up fails where a probe cannot resolve its endpoint. -/
theorem runKindSetup_eq_error_iff {error : ClientError} :
    runKindSetup env instanceName config syncOutputDomains hasAsyncOutputs healthServiceName =
        .error error ↔
      syncOutputDomains.mapM (OutputDomainProbe.forDomain env) = .error error := by
  rw [runKindSetup]
  cases syncOutputDomains.mapM (OutputDomainProbe.forDomain env) with
  | error other =>
      change Except.error other = .error error ↔ _
      rw [Except.error.injEq, Except.error.injEq]
  | ok outputProbes =>
      constructor
      · intro hsetup
        cases hsetup
      · intro hprobes
        cases hprobes

/-- Endpoints resolve for every domain or for none. -/
theorem forDomain_error_of_error {domain : String} {error : ClientError}
    (herror : OutputDomainProbe.forDomain env domain = .error error) (other : String) :
    OutputDomainProbe.forDomain env other = .error error := by
  rw [OutputDomainProbe.forDomain, resolveChEndpoint] at herror ⊢
  cases hmode : TransportMode.fromEnv env with
  | error wrong =>
      rw [hmode] at herror
      exact herror
  | ok mode =>
      rw [hmode] at herror
      cases mode with
      | standalone => cases herror
      | distributed =>
          cases hport : effectivePort env none with
          | ok port =>
              rw [hport] at herror
              cases herror
          | error wrong =>
              rw [hport] at herror
              exact herror

/-- Every domain that is probed has its probe. -/
theorem exists_probe_of_mem {outputProbes : List OutputDomainProbe} {domain : String}
    (hprobes : syncOutputDomains.mapM (OutputDomainProbe.forDomain env) = .ok outputProbes)
    (hdomain : domain ∈ syncOutputDomains) :
    ∃ probe ∈ outputProbes, OutputDomainProbe.forDomain env domain = .ok probe := by
  have hpairs := Pass.mapM_eq_ok_iff.mp hprobes
  induction hpairs with
  | nil => cases hdomain
  | cons hprobe hrest ih =>
      rcases List.mem_cons.mp hdomain with rfl | hdomain
      · exact ⟨_, List.mem_cons_self, hprobe⟩
      · obtain ⟨probe, hmem, heq⟩ := ih (Pass.mapM_eq_ok_iff.mpr hrest) hdomain
        exact ⟨probe, List.mem_cons_of_mem _ hmem, heq⟩

/-- In a green tick each probe of the runner came back true, once it was bound. -/
theorem Readiness.Green.checked {busEndpoint : Option String} {tick : Tick} {probe : Probe}
    (hgreen : Green (ReadinessConfig.ofRunKind syncOutputDomains hasAsyncOutputs busEndpoint
      healthServiceName) tick)
    (hprobe : probe ∈ (ReadinessConfig.ofRunKind syncOutputDomains hasAsyncOutputs busEndpoint
      healthServiceName).probes) :
    ∃ check ∈ tick, check.probe = probe ∧ check.bound = true ∧
      check.outcome = .returned true := by
  rw [← hgreen.probes, List.mem_map] at hprobe
  obtain ⟨check, hcheck, rfl⟩ := hprobe
  exact ⟨check, hcheck, rfl, hgreen.allAfterBound rfl check hcheck, hgreen.healthy check hcheck⟩

end Setup

section Readiness

variable {env : Env} {defaultPort : UInt16} {built : Built} {setup : RunnerSetup}

/-- A runner is not set up if and only if a handler declares a synchronous output and
the environment resolves no endpoint. -/
theorem runServer_error_iff :
    (∃ error, runServer env defaultPort built = .error error) ↔
      (∃ decl ∈ built.outputs, ∃ target ∈ decl.syncTargets, target ≠ "") ∧
        ∃ error, ∀ domain, OutputDomainProbe.forDomain env domain = .error error := by
  rw [built.runServer_eq]
  simp only [runKindSetup_eq_error_iff]
  constructor
  · rintro ⟨error, herror⟩
    obtain ⟨before, domain, after, hsplit, -, hdomain⟩ := Pass.mapM_eq_error_iff.mp herror
    have hmem : domain ∈ built.syncOutputDomains := by
      rw [hsplit]
      simp
    obtain ⟨⟨decl, hdecl, hsync⟩, hne⟩ := (built.mem_syncOutputDomains_iff domain).mp hmem
    exact ⟨⟨decl, hdecl, domain, hsync, hne⟩, error, forDomain_error_of_error hdomain⟩
  · rintro ⟨⟨decl, hdecl, target, hsync, hne⟩, error, herror⟩
    refine ⟨error, ?_⟩
    have hmem := (built.mem_syncOutputDomains_iff target).mpr ⟨⟨decl, hdecl, hsync⟩, hne⟩
    cases hdomains : built.syncOutputDomains with
    | nil =>
        rw [hdomains] at hmem
        cases hmem
    | cons domain rest =>
        rw [List.mapM_cons, herror domain]
        rfl

/-- What a green tick of a runner says of one target. -/
theorem syncChecked_of_green (hsetup : runServer env defaultPort built = .ok setup)
    {tick : Tick} (hgreen : Green setup.readiness tick) {decl : OutputDecl} {target : String}
    (hdecl : decl ∈ built.outputs) (hsync : target ∈ decl.syncTargets) (hne : target ≠ "") :
    SyncChecked env setup tick target := by
  rw [built.runServer_eq, runKindSetup_eq_ok_iff] at hsetup
  obtain ⟨outputProbes, hprobes, rfl⟩ := hsetup
  have hdomain := (built.mem_syncOutputDomains_iff target).mpr ⟨⟨decl, hdecl, hsync⟩, hne⟩
  obtain ⟨probe, hmem, hprobe⟩ := exists_probe_of_mem hprobes hdomain
  refine ⟨probe, hmem, hprobe, hgreen.checked ?_⟩
  simp [ReadinessConfig.ofRunKind, hdomain]

theorem busChecked_of_green (hsetup : runServer env defaultPort built = .ok setup)
    {tick : Tick} (hgreen : Green setup.readiness tick) {decl : OutputDecl} {target : String}
    (hdecl : decl ∈ built.outputs) (hasync : decl.IsAsync target) :
    BusChecked env setup tick := by
  intro endpoint hendpoint
  have houtputs := built.hasAsyncOutputs_of_isAsync hdecl hasync
  rw [built.runServer_eq, runKindSetup_eq_ok_iff] at hsetup
  obtain ⟨outputProbes, hprobes, rfl⟩ := hsetup
  refine ⟨by rw [← hendpoint, if_pos houtputs], hgreen.checked ?_⟩
  have hbus : ((env envBusEndpoint).filter (· ≠ "")).isSome = true := by
    rw [busProbeFromEnv, Option.map_eq_some_iff] at hendpoint
    obtain ⟨raw, hraw, -⟩ := hendpoint
    rw [hraw]
    rfl
  simp only [ReadinessConfig.ofRunKind, houtputs, hbus, Bool.and_self, if_true]
  simp

/-- A runner of any built router.  Its set-up, before the supervisor is spawned, panics
exactly where a synchronous output cannot be resolved.  Otherwise it has the name that
every call of the router's `name` gives, for one invocation of the first factory; and
in every interleaving of its tasks its health says `SERVING` only after a tick that
found every synchronous target of every handler at its endpoint and, where some handler
sends asynchronously and a bus is named, the bus. -/
theorem runner_readiness (env : Env) (defaultPort : UInt16) (built : Built) :
    ((∃ error, runServer env defaultPort built = .error error) ↔
      (∃ decl ∈ built.outputs, ∃ target ∈ decl.syncTargets, target ≠ "") ∧
        ∃ error, ∀ domain, OutputDomainProbe.forDomain env domain = .error error) ∧
    ∀ setup, runServer env defaultPort built = .ok setup →
      (∀ calls, (built.nameCalls (calls + 1) none : Run (List String)) =
        ⟨(built.registered.2.head?.map fun factory =>
            Event.produced factory.handler.config).toList,
          .ok (List.replicate (calls + 1) setup.instanceName)⟩) ∧
      ∀ s, Reached setup.readiness s → ∀ name ∈ s.registered,
        s.table name = some .serving →
          ∃ tick ∈ s.ticks, ∀ decl ∈ built.outputs,
            (∀ target ∈ decl.syncTargets, target ≠ "" → SyncChecked env setup tick target) ∧
              ∀ target, decl.IsAsync target → BusChecked env setup tick := by
  refine ⟨runServer_error_iff, fun setup hsetup => ⟨fun calls => ?_, ?_⟩⟩
  · have hname : setup.instanceName = built.name := by
      rw [built.runServer_eq, runKindSetup_eq_ok_iff] at hsetup
      obtain ⟨_, -, rfl⟩ := hsetup
      rfl
    rw [hname]
    exact built.nameCalls_succ calls
  · intro s hreached name hname hserving
    obtain ⟨tick, htick, hstatus⟩ := hreached.inv.justified name hname hserving
    have hgreen := (hreached.inv.ticks tick htick).green hstatus
    refine ⟨tick, htick, fun decl hdecl => ⟨fun target hsync hne => ?_,
      fun target hasync => ?_⟩⟩
    · exact syncChecked_of_green hsetup hgreen hdecl hsync hne
    · exact busChecked_of_green hsetup hgreen hdecl hasync

end Readiness

namespace Sample

/-- The defaults of the environment, and a bus. -/
def withBus : Env := fun name => if name = envBusEndpoint then some "bus:9092" else none

def sagasSetup : RunnerSetup where
  instanceName := "saga-sync"
  config := { port := 50052, udsPath := none }
  outputProbes := [⟨"inventory", .tcp "ch-inventory.angzarr.svc:1310"⟩]
  busProbe := some (.tcp "bus:9092")
  readiness := ReadinessConfig.ofRunKind ["inventory"] true (some "bus:9092") healthNameSaga

theorem runServer_sagas : runServer withBus 50052 (.saga mixedSagas) = .ok sagasSetup := by
  rfl

/-- Both names are registered, the listener is bound, and one green tick is written. -/
def greenStart : List Action :=
  [.runner, .runner, .runner, .runner, .supervisor (.returned true),
    .supervisor (.returned true), .supervisor (.returned true), .supervisor .timedOut,
    .supervisor .timedOut, .supervisor .timedOut]

end Sample

open Sample in
/-- A runner of a synchronous and an asynchronous saga is `SERVING` after it has found
the target's coordinator and the bus.  It is named after the first of them. -/
theorem runner_readiness_sample :
    ((Built.saga mixedSagas).nameCalls 2 none : Run (List String)).outcome =
      .ok ["saga-sync", "saga-sync"] ∧
    ∃ up, Machine.exec (step sagasSetup.readiness)
          { table := fun _ => none, runner := .registering sagasSetup.readiness.serviceNames }
          greenStart = some up ∧
        up.table "" = some .serving ∧
        ∃ tick ∈ up.ticks, SyncChecked withBus sagasSetup tick "inventory" ∧
          BusChecked withBus sagasSetup tick := by
  obtain ⟨up, hexec, hname, hserving⟩ : ∃ up, Machine.exec (step sagasSetup.readiness)
        { table := fun _ => none, runner := .registering sagasSetup.readiness.serviceNames }
        greenStart = some up ∧ "" ∈ up.registered ∧ up.table "" = some .serving := by
    refine ⟨_, rfl, ?_, ?_⟩
    · decide +kernel
    · decide +kernel
  obtain ⟨hnames, hserves⟩ := (runner_readiness withBus 50052 (.saga mixedSagas)).2
    sagasSetup runServer_sagas
  obtain ⟨tick, htick, hchecked⟩ :=
    hserves up ⟨_, greenStart, ⟨_, rfl⟩, hexec⟩ "" hname hserving
  have hsync := (hchecked (inventorySaga "saga-sync" true).config.output List.mem_cons_self).1
  have hasync := (hchecked (inventorySaga "saga-async" false).config.output
    (List.mem_cons_of_mem _ List.mem_cons_self)).2
  exact ⟨congrArg Traced.outcome (hnames 1), up, hexec, hserving, tick, htick,
    hsync "inventory" (by decide) (by decide),
    hasync "inventory" ⟨by decide, by decide, by decide⟩⟩

end AngzarrClient
