/-
Readiness of a runner (`readiness.rs`, `run_kind` in `server.rs`).  Two tasks
write one table of health statuses: `run_kind` before it spawns the supervisor
and after it has stopped it, the supervisor after each of its ticks.  A state
says where both stand; a task that is about to await may be overtaken by the
other.
-/
import AngzarrClient.Lib.Machine

namespace AngzarrClient

/-- `tonic_health::ServingStatus`. -/
inductive ServingStatus
  | unknown | serving | notServing
deriving DecidableEq, Repr

/-- A `Probe`: the transport probe reads the bound flag, any other asks a
dependency the runner knows nothing about. -/
inductive Probe
  | transport
  | dependency (name : String)
deriving DecidableEq, Repr

/-- How the check of a probe ends under the timeout and `catch_unwind`. -/
inductive CheckOutcome
  | returned (healthy : Bool)
  | panicked
  | timedOut
deriving DecidableEq, Repr

/-- `ok` in `supervisor_tick`. -/
def CheckOutcome.ok : CheckOutcome → Bool
  | .returned healthy => healthy
  | .panicked => false
  | .timedOut => false

/-- `TransportProbe::check` loads the flag and returns it. -/
def Probe.admits (bound : Bool) : Probe → CheckOutcome → Bool
  | .transport, outcome => outcome = .returned bound
  | .dependency _, _ => true

/-- `status` in `run_supervisor`. -/
def statusOf (allOk : Bool) : ServingStatus :=
  if allOk then .serving else .notServing

/-- What the supervisor is spawned with. -/
structure ReadinessConfig where
  probes : List Probe
  serviceNames : List String
  transport_mem : Probe.transport ∈ probes

/-- The probes and health names `run_kind` sets up: the transport first, then the
synchronous outputs, then the bus if an output is asynchronous and the endpoint
variable is set. -/
def ReadinessConfig.ofRunKind (syncOutputDomains : List String) (hasAsyncOutputs : Bool)
    (busEndpoint : Option String) (healthServiceName : String) : ReadinessConfig where
  probes := .transport :: syncOutputDomains.map .dependency ++
    if hasAsyncOutputs && (busEndpoint.filter (· ≠ "")).isSome then [.dependency "bus"]
    else []
  serviceNames := ["", healthServiceName]
  transport_mem := List.mem_cons_self

namespace Readiness

/-- The statuses a `HealthReporter` holds: the last one written for each name. -/
abbrev StatusTable := String → Option ServingStatus

/-- `HealthReporter::set_service_status`. -/
def setServiceStatus (table : StatusTable) (name : String) (status : ServingStatus) :
    StatusTable :=
  fun other => if other = name then some status else table other

/-- Where `run_kind` stands; `names` are the health names still to be written. -/
inductive Runner
  | registering (names : List String)
  | binding
  | serving
  | aborting
  | joining
  | publishing (names : List String)
  | finished
  | gone
deriving DecidableEq, Repr

/-- Where the supervisor task stands. -/
inductive Supervisor
  | unspawned
  | ticking (probes : List Probe) (allOk : Bool)
  | publishing (status : ServingStatus) (names : List String)
  | sleeping
  | stopped
deriving DecidableEq, Repr

/-- A finished check: the probe, the bound flag at that moment, the outcome. -/
structure Check where
  probe : Probe
  bound : Bool
  outcome : CheckOutcome
deriving DecidableEq, Repr

/-- The checks of one tick, all of them or those made so far. -/
abbrev Tick := List Check

/-- `bound` and `aborted` are what the tasks share besides the table; `registered`,
`current` and `ticks` record what has happened, the last tick first. -/
structure State where
  table : StatusTable
  bound : Bool := false
  aborted : Bool := false
  runner : Runner
  supervisor : Supervisor := .unspawned
  registered : List String := []
  current : Tick := []
  ticks : List Tick := []

/-- `run_kind` is called on a reporter with any table. -/
def State.Start (config : ReadinessConfig) (s : State) : Prop :=
  ∃ table, s = { table := table, runner := .registering config.serviceNames }

/-- `run_kind` up to its next await, or past it. -/
def runKind (config : ReadinessConfig) (s : State) : Option State :=
  match s.runner with
  | .registering (name :: rest) => some { s with
      table := setServiceStatus s.table name .notServing
      registered := s.registered ++ [name]
      runner := .registering rest }
  -- `tokio::spawn(run_supervisor(..))`
  | .registering [] => some { s with
      runner := .binding
      supervisor := .ticking config.probes true }
  -- `transport_signal.mark_bound()`
  | .binding => some { s with bound := true, runner := .serving }
  -- the serve future resolves
  | .serving => some { s with runner := .aborting }
  -- `supervisor.abort()`
  | .aborting => some { s with aborted := true, runner := .joining }
  -- `supervisor.await`
  | .joining =>
      if s.supervisor = .stopped then
        some { s with runner := .publishing config.serviceNames }
      else none
  -- `publish_shutdown_status`
  | .publishing (name :: rest) => some { s with
      table := setServiceStatus s.table name .notServing
      runner := .publishing rest }
  | .publishing [] => some { s with runner := .finished }
  | .finished => none
  | .gone => none

/-- `run_supervisor` up to its next await, or past it; a pending check ends with
`outcome`. -/
def runSupervisor (config : ReadinessConfig) (outcome : CheckOutcome) (s : State) :
    Option State :=
  match s.supervisor with
  | .unspawned => none
  | .ticking (probe :: rest) allOk =>
      if probe.admits s.bound outcome then some { s with
        supervisor := .ticking rest (allOk && outcome.ok)
        current := s.current ++ [⟨probe, s.bound, outcome⟩] }
      else none
  | .ticking [] allOk => some { s with
      supervisor := .publishing (statusOf allOk) config.serviceNames
      current := []
      ticks := s.current :: s.ticks }
  | .publishing status (name :: rest) => some { s with
      table := setServiceStatus s.table name status
      supervisor := .publishing status rest }
  | .publishing _ [] => some { s with supervisor := .sleeping }
  | .sleeping => some { s with supervisor := .ticking config.probes true }
  | .stopped => none

/-- The task is dropped at one of its awaits, once it has been aborted. -/
def cancelSupervisor (s : State) : Option State :=
  match s.supervisor with
  | .unspawned => none
  | .stopped => none
  | _ => if s.aborted then some { s with supervisor := .stopped } else none

/-- `run_kind` panics (no socket to bind, no address to parse) or is dropped by its
caller; the supervisor is detached and runs on. -/
def dropRunner (s : State) : Option State :=
  match s.runner with
  | .finished => none
  | .gone => none
  | _ => some { s with runner := .gone }

/-- Who moves next. -/
inductive Action
  | runner
  | drop
  | supervisor (outcome : CheckOutcome)
  | cancel
deriving DecidableEq, Repr

def step (config : ReadinessConfig) (s : State) : Action → Option State
  | .runner => runKind config s
  | .drop => dropRunner s
  | .supervisor outcome => runSupervisor config outcome s
  | .cancel => cancelSupervisor s

/-- Some interleaving of the two tasks leads to this state. -/
abbrev Reached (config : ReadinessConfig) (s : State) : Prop :=
  Machine.Reachable (step config) (State.Start config) s

/-- What a step of `run_kind` does. -/
inductive RunnerMove (config : ReadinessConfig) (s : State) : State → Prop
  | register {name : String} {rest : List String}
      (hrunner : s.runner = .registering (name :: rest)) :
      RunnerMove config s { s with
        table := setServiceStatus s.table name .notServing
        registered := s.registered ++ [name]
        runner := .registering rest }
  | spawn (hrunner : s.runner = .registering []) :
      RunnerMove config s { s with
        runner := .binding
        supervisor := .ticking config.probes true }
  | markBound (hrunner : s.runner = .binding) :
      RunnerMove config s { s with bound := true, runner := .serving }
  | served (hrunner : s.runner = .serving) :
      RunnerMove config s { s with runner := .aborting }
  | abort (hrunner : s.runner = .aborting) :
      RunnerMove config s { s with aborted := true, runner := .joining }
  | join (hrunner : s.runner = .joining) (hstopped : s.supervisor = .stopped) :
      RunnerMove config s { s with runner := .publishing config.serviceNames }
  | publish {name : String} {rest : List String}
      (hrunner : s.runner = .publishing (name :: rest)) :
      RunnerMove config s { s with
        table := setServiceStatus s.table name .notServing
        runner := .publishing rest }
  | finish (hrunner : s.runner = .publishing []) :
      RunnerMove config s { s with runner := .finished }

/-- What a step of the supervisor does. -/
inductive SupervisorMove (config : ReadinessConfig) (s : State) : State → Prop
  | check {probe : Probe} {rest : List Probe} {allOk : Bool} {outcome : CheckOutcome}
      (hsupervisor : s.supervisor = .ticking (probe :: rest) allOk)
      (hadmits : probe.admits s.bound outcome = true) :
      SupervisorMove config s { s with
        supervisor := .ticking rest (allOk && outcome.ok)
        current := s.current ++ [⟨probe, s.bound, outcome⟩] }
  | aggregate {allOk : Bool} (hsupervisor : s.supervisor = .ticking [] allOk) :
      SupervisorMove config s { s with
        supervisor := .publishing (statusOf allOk) config.serviceNames
        current := []
        ticks := s.current :: s.ticks }
  | write {status : ServingStatus} {name : String} {rest : List String}
      (hsupervisor : s.supervisor = .publishing status (name :: rest)) :
      SupervisorMove config s { s with
        table := setServiceStatus s.table name status
        supervisor := .publishing status rest }
  | sleep {status : ServingStatus} (hsupervisor : s.supervisor = .publishing status []) :
      SupervisorMove config s { s with supervisor := .sleeping }
  | wake (hsupervisor : s.supervisor = .sleeping) :
      SupervisorMove config s { s with supervisor := .ticking config.probes true }

variable {config : ReadinessConfig} {s s' : State}

theorem runnerMove_of_runKind (hstep : runKind config s = some s') :
    RunnerMove config s s' := by
  rw [runKind] at hstep
  cases hrunner : s.runner with
  | registering names =>
      rw [hrunner] at hstep
      cases names with
      | nil => cases hstep; exact .spawn hrunner
      | cons name rest => cases hstep; exact .register hrunner
  | binding => rw [hrunner] at hstep; cases hstep; exact .markBound hrunner
  | serving => rw [hrunner] at hstep; cases hstep; exact .served hrunner
  | aborting => rw [hrunner] at hstep; cases hstep; exact .abort hrunner
  | joining =>
      rw [hrunner] at hstep
      dsimp only at hstep
      split_ifs at hstep with hstopped
      cases hstep
      exact .join hrunner hstopped
  | publishing names =>
      rw [hrunner] at hstep
      cases names with
      | nil => cases hstep; exact .finish hrunner
      | cons name rest => cases hstep; exact .publish hrunner
  | finished => rw [hrunner] at hstep; cases hstep
  | gone => rw [hrunner] at hstep; cases hstep

theorem supervisorMove_of_runSupervisor {outcome : CheckOutcome}
    (hstep : runSupervisor config outcome s = some s') : SupervisorMove config s s' := by
  rw [runSupervisor] at hstep
  cases hsupervisor : s.supervisor with
  | unspawned => rw [hsupervisor] at hstep; cases hstep
  | ticking probes allOk =>
      rw [hsupervisor] at hstep
      cases probes with
      | nil => cases hstep; exact .aggregate hsupervisor
      | cons probe rest =>
          dsimp only at hstep
          split_ifs at hstep with hadmits
          cases hstep
          exact .check hsupervisor hadmits
  | publishing status names =>
      rw [hsupervisor] at hstep
      cases names with
      | nil => cases hstep; exact .sleep hsupervisor
      | cons name rest => cases hstep; exact .write hsupervisor
  | sleeping => rw [hsupervisor] at hstep; cases hstep; exact .wake hsupervisor
  | stopped => rw [hsupervisor] at hstep; cases hstep

/-- Only an aborted supervisor is cancelled. -/
theorem eq_of_cancelSupervisor (hstep : cancelSupervisor s = some s') :
    s.supervisor ≠ .unspawned ∧ s.aborted = true ∧
      s' = { s with supervisor := .stopped } := by
  rw [cancelSupervisor] at hstep
  cases hsupervisor : s.supervisor with
  | unspawned => rw [hsupervisor] at hstep; cases hstep
  | stopped => rw [hsupervisor] at hstep; cases hstep
  | ticking | publishing | sleeping =>
      rw [hsupervisor] at hstep
      dsimp only at hstep
      split_ifs at hstep with haborted
      cases hstep
      exact ⟨by simp, haborted, rfl⟩

theorem eq_of_dropRunner (hstep : dropRunner s = some s') :
    s.runner ≠ .finished ∧ s' = { s with runner := .gone } := by
  rw [dropRunner] at hstep
  cases hrunner : s.runner with
  | finished => rw [hrunner] at hstep; cases hstep
  | gone => rw [hrunner] at hstep; cases hstep
  | registering | binding | serving | aborting | joining | publishing =>
      rw [hrunner] at hstep
      cases hstep
      exact ⟨by simp, rfl⟩

@[simp] theorem setServiceStatus_self (table : StatusTable) (name : String)
    (status : ServingStatus) : setServiceStatus table name status name = some status :=
  if_pos rfl

theorem setServiceStatus_of_ne {name other : String} (hne : other ≠ name)
    (table : StatusTable) (status : ServingStatus) :
    setServiceStatus table name status other = table other :=
  if_neg hne

@[simp] theorem statusOf_eq_serving_iff {allOk : Bool} :
    statusOf allOk = .serving ↔ allOk = true := by
  cases allOk <;> simp [statusOf]

end Readiness

end AngzarrClient
