/-
The outbound domains of sagas and process managers, as the routers report them
(`router/runtime.rs`): all of them, those some handler addresses synchronously, and
whether some handler has an asynchronous one.  The last is decided handler by handler;
the difference of the two lists would miss a target that one handler marks sync and
another does not.
-/
import AngzarrClient.Lib.FirstSeen
import AngzarrClient.Macros.Saga
import AngzarrClient.Router.Builder
import AngzarrClient.Server.Readiness

namespace AngzarrClient

/-- The loop body of both lists: push a domain that is named and not there yet. -/
def pushDomain (seen : List String) (domain : String) : List String :=
  if domain ≠ "" ∧ domain ∉ seen then seen ++ [domain] else seen

/-- `SagaRouter::output_domains`. -/
def SagaRouter.outputDomains (router : SagaRouter) : List String :=
  router.factories.foldl
    (fun seen factory =>
      match factory.handler.config with
      | .saga config => pushDomain seen config.target
      | _ => seen) []

/-- `SagaRouter::sync_output_domains`. -/
def SagaRouter.syncOutputDomains (router : SagaRouter) : List String :=
  router.factories.foldl
    (fun seen factory =>
      match factory.handler.config with
      | .saga config => if config.sync then pushDomain seen config.target else seen
      | _ => seen) []

/-- `SagaRouter::has_async_outputs`. -/
def SagaRouter.hasAsyncOutputs (router : SagaRouter) : Bool :=
  router.factories.any fun factory =>
    match factory.handler.config with
    | .saga config => config.sync = false ∧ config.target ≠ ""
    | _ => false

/-- `ProcessManagerRouter::output_domains`. -/
def ProcessManagerRouter.outputDomains (router : ProcessManagerRouter) : List String :=
  router.factories.foldl
    (fun seen factory =>
      match factory.handler.config with
      | .processManager config => config.targets.foldl pushDomain seen
      | _ => seen) []

/-- `ProcessManagerRouter::sync_output_domains`. -/
def ProcessManagerRouter.syncOutputDomains (router : ProcessManagerRouter) : List String :=
  router.factories.foldl
    (fun seen factory =>
      match factory.handler.config with
      | .processManager config => config.syncTargets.foldl pushDomain seen
      | _ => seen) []

/-- `ProcessManagerRouter::has_async_outputs`. -/
def ProcessManagerRouter.hasAsyncOutputs (router : ProcessManagerRouter) : Bool :=
  router.factories.any fun factory =>
    match factory.handler.config with
    | .processManager config =>
        config.targets.any fun target => target ≠ "" ∧ target ∉ config.syncTargets
    | _ => false

/-- What a handler declares as outbound: its targets, and those it marks sync. -/
structure OutputDecl where
  targets : List String
  syncTargets : List String

/-- A saga has one target, sync or not. -/
def SagaConfig.output (config : SagaConfig) : OutputDecl where
  targets := [config.target]
  syncTargets := if config.sync then [config.target] else []

def ProcessManagerConfig.output (config : ProcessManagerConfig) : OutputDecl where
  targets := config.targets
  syncTargets := config.syncTargets

/-- The declarations of the registered sagas, in registration order. -/
def SagaRouter.outputs (router : SagaRouter) : List OutputDecl :=
  router.factories.filterMap fun factory =>
    match factory.handler.config with
    | .saga config => some config.output
    | _ => none

/-- The declarations of the registered process managers, in registration order. -/
def ProcessManagerRouter.outputs (router : ProcessManagerRouter) : List OutputDecl :=
  router.factories.filterMap fun factory =>
    match factory.handler.config with
    | .processManager config => some config.output
    | _ => none

namespace OutputDecl

/-- The handler marks only targets of its own as sync. -/
def SyncWithinTargets (decl : OutputDecl) : Prop :=
  decl.syncTargets ⊆ decl.targets

/-- A named target that the handler itself does not mark sync. -/
def IsAsync (decl : OutputDecl) (target : String) : Prop :=
  target ∈ decl.targets ∧ target ≠ "" ∧ target ∉ decl.syncTargets

end OutputDecl

/-- The named domains of `declared`, each once, in the order in which they are
declared first. -/
structure FirstDeclared (declared gathered : List String) : Prop where
  nodup : gathered.Nodup
  mem_iff : ∀ domain, domain ∈ gathered ↔ domain ∈ declared ∧ domain ≠ ""
  ordered : gathered.Pairwise fun left right =>
    declared.idxOf left < declared.idxOf right

/-- The three reports of a router are consistent with the declarations and with each
other. -/
structure OutputsCovered (outputs : List OutputDecl)
    (outputDomains syncOutputDomains : List String) (hasAsyncOutputs : Bool) : Prop where
  output : FirstDeclared (outputs.flatMap OutputDecl.targets) outputDomains
  sync : FirstDeclared (outputs.flatMap OutputDecl.syncTargets) syncOutputDomains
  subset : syncOutputDomains ⊆ outputDomains
  covered : ∀ domain ∈ outputDomains, domain ∈ syncOutputDomains ∨ hasAsyncOutputs = true
  async_iff : hasAsyncOutputs = true ↔ ∃ decl ∈ outputs, ∃ target, decl.IsAsync target

section Gather

theorem foldl_pushDomain (seen domains : List String) :
    domains.foldl pushDomain seen =
      (domains.filter (· ≠ "")).foldl FirstSeen.push seen := by
  rw [List.foldl_filter]
  congr 1
  funext seen domain
  by_cases hname : domain = ""
  · simp [pushDomain, hname]
  · simp only [pushDomain, FirstSeen.push, hname, ne_eq, not_false_eq_true, true_and,
      decide_true, if_true, ite_not]

theorem firstDeclared_foldl (declared : List String) :
    FirstDeclared declared (declared.foldl pushDomain []) := by
  rw [foldl_pushDomain, FirstSeen.foldl_push]
  refine ⟨FirstSeen.nodup_eraseDups _, fun domain => ?_, ?_⟩
  · simp
  · rw [FirstSeen.eraseDups_filter]
    exact (FirstSeen.pairwise_idxOf_eraseDups declared).filter _

/-- The reports, computed from the declarations. -/
theorem outputsCovered_of_syncWithinTargets {outputs : List OutputDecl}
    (hwithin : ∀ decl ∈ outputs, decl.SyncWithinTargets) :
    OutputsCovered outputs ((outputs.flatMap OutputDecl.targets).foldl pushDomain [])
      ((outputs.flatMap OutputDecl.syncTargets).foldl pushDomain [])
      (outputs.any fun decl =>
        decl.targets.any fun target => target ≠ "" ∧ target ∉ decl.syncTargets) := by
  have houtput := firstDeclared_foldl (outputs.flatMap OutputDecl.targets)
  have hsync := firstDeclared_foldl (outputs.flatMap OutputDecl.syncTargets)
  have hasync : (outputs.any fun decl => decl.targets.any fun target =>
      target ≠ "" ∧ target ∉ decl.syncTargets) = true ↔
        ∃ decl ∈ outputs, ∃ target, decl.IsAsync target := by
    simp [OutputDecl.IsAsync]
  refine ⟨houtput, hsync, ?_, ?_, hasync⟩
  · intro domain hdomain
    obtain ⟨hdeclared, hname⟩ := (hsync.mem_iff domain).mp hdomain
    obtain ⟨decl, hdecl, htarget⟩ := List.mem_flatMap.mp hdeclared
    exact (houtput.mem_iff domain).mpr
      ⟨List.mem_flatMap.mpr ⟨decl, hdecl, hwithin decl hdecl htarget⟩, hname⟩
  · intro domain hdomain
    obtain ⟨hdeclared, hname⟩ := (houtput.mem_iff domain).mp hdomain
    obtain ⟨decl, hdecl, htarget⟩ := List.mem_flatMap.mp hdeclared
    by_cases hmarked : domain ∈ decl.syncTargets
    · exact Or.inl ((hsync.mem_iff domain).mpr
        ⟨List.mem_flatMap.mpr ⟨decl, hdecl, hmarked⟩, hname⟩)
    · exact Or.inr (hasync.mpr ⟨decl, hdecl, domain, htarget, hname, hmarked⟩)

end Gather

section Sagas

variable (router : SagaRouter)

theorem SagaRouter.outputDomains_eq :
    router.outputDomains =
      (router.outputs.flatMap OutputDecl.targets).foldl pushDomain [] := by
  rw [outputDomains, outputs, List.foldl_flatMap, List.foldl_filterMap]
  congr 1
  funext seen factory
  cases factory.handler.config <;> rfl

theorem SagaRouter.syncOutputDomains_eq :
    router.syncOutputDomains =
      (router.outputs.flatMap OutputDecl.syncTargets).foldl pushDomain [] := by
  rw [syncOutputDomains, outputs, List.foldl_flatMap, List.foldl_filterMap]
  congr 1
  funext seen factory
  cases factory.handler.config with
  | saga config => cases hsync : config.sync <;> simp [SagaConfig.output, hsync]
  | _ => rfl

theorem SagaRouter.hasAsyncOutputs_eq :
    router.hasAsyncOutputs = router.outputs.any fun decl =>
      decl.targets.any fun target => target ≠ "" ∧ target ∉ decl.syncTargets := by
  rw [hasAsyncOutputs, outputs, List.any_filterMap]
  congr 1
  funext factory
  cases factory.handler.config with
  | saga config => cases hsync : config.sync <;> simp [SagaConfig.output, hsync]
  | _ => rfl

/-- A sync saga marks its one target. -/
theorem SagaRouter.syncWithinTargets :
    ∀ decl ∈ router.outputs, decl.SyncWithinTargets := by
  intro decl hdecl
  obtain ⟨factory, -, hfactory⟩ := List.mem_filterMap.mp hdecl
  cases hconfig : factory.handler.config with
  | saga config =>
      simp only [hconfig, Option.some.injEq] at hfactory
      subst hfactory
      cases hsync : config.sync <;>
        simp [OutputDecl.SyncWithinTargets, SagaConfig.output, hsync]
  | _ => simp [hconfig] at hfactory

end Sagas

section Managers

variable (router : ProcessManagerRouter)

theorem ProcessManagerRouter.outputDomains_eq :
    router.outputDomains =
      (router.outputs.flatMap OutputDecl.targets).foldl pushDomain [] := by
  rw [outputDomains, outputs, List.foldl_flatMap, List.foldl_filterMap]
  congr 1
  funext seen factory
  cases factory.handler.config <;> rfl

theorem ProcessManagerRouter.syncOutputDomains_eq :
    router.syncOutputDomains =
      (router.outputs.flatMap OutputDecl.syncTargets).foldl pushDomain [] := by
  rw [syncOutputDomains, outputs, List.foldl_flatMap, List.foldl_filterMap]
  congr 1
  funext seen factory
  cases factory.handler.config <;> rfl

theorem ProcessManagerRouter.hasAsyncOutputs_eq :
    router.hasAsyncOutputs = router.outputs.any fun decl =>
      decl.targets.any fun target => target ≠ "" ∧ target ∉ decl.syncTargets := by
  rw [hasAsyncOutputs, outputs, List.any_filterMap]
  congr 1
  funext factory
  cases factory.handler.config <;> rfl

end Managers

section Macro

/-- A generated config marks only its own targets. -/
theorem ProcessManager.syncWithinTargets_output {S Msg : Type}
    (manager : ProcessManager S Msg) :
    manager.config.output.SyncWithinTargets :=
  List.map_subset _ manager.syncTargets_subset

/-- So a router of generated managers gives every domain a signal. -/
theorem ProcessManagerRouter.syncWithinTargets_of_generated {router : ProcessManagerRouter}
    (hgenerated : ∀ factory ∈ router.factories,
      ∃ (S Msg : Type) (manager : ProcessManager S Msg), factory = manager.factory) :
    ∀ decl ∈ router.outputs, decl.SyncWithinTargets := by
  intro decl hdecl
  obtain ⟨factory, hmem, hfactory⟩ := List.mem_filterMap.mp hdecl
  obtain ⟨S, Msg, manager, rfl⟩ := hgenerated factory hmem
  obtain rfl : manager.config.output = decl := Option.some.inj hfactory
  exact manager.syncWithinTargets_output

end Macro

/-- Every outbound domain has a readiness signal: its own probe if some handler marks
it sync, the bus if some handler has it, or another target, unmarked. -/
theorem outputs_covered (sagas : SagaRouter) (managers : ProcessManagerRouter)
    (hwithin : ∀ decl ∈ managers.outputs, decl.SyncWithinTargets) :
    OutputsCovered sagas.outputs sagas.outputDomains sagas.syncOutputDomains
        sagas.hasAsyncOutputs ∧
      OutputsCovered managers.outputs managers.outputDomains managers.syncOutputDomains
        managers.hasAsyncOutputs := by
  constructor
  · rw [sagas.outputDomains_eq, sagas.syncOutputDomains_eq, sagas.hasAsyncOutputs_eq]
    exact outputsCovered_of_syncWithinTargets sagas.syncWithinTargets
  · rw [managers.outputDomains_eq, managers.syncOutputDomains_eq,
      managers.hasAsyncOutputs_eq]
    exact outputsCovered_of_syncWithinTargets hwithin

/-- With a bus to probe, every outbound domain has a probe that watches it or the bus
it is reached by. -/
theorem OutputsCovered.probed {outputs : List OutputDecl}
    {outputDomains syncOutputDomains : List String} {hasAsyncOutputs : Bool}
    (hcovered : OutputsCovered outputs outputDomains syncOutputDomains hasAsyncOutputs)
    {busEndpoint : String} (hbus : busEndpoint ≠ "") (healthServiceName : String) :
    ∀ domain ∈ outputDomains,
      .dependency domain ∈ (ReadinessConfig.ofRunKind syncOutputDomains hasAsyncOutputs
          (some busEndpoint) healthServiceName).probes ∨
        .dependency "bus" ∈ (ReadinessConfig.ofRunKind syncOutputDomains hasAsyncOutputs
          (some busEndpoint) healthServiceName).probes := by
  intro domain hdomain
  rcases hcovered.covered domain hdomain with hsync | hasync
  · left
    simp [ReadinessConfig.ofRunKind, hsync]
  · right
    simp [ReadinessConfig.ofRunKind, hasync, Option.filter, hbus]

namespace Sample

def inventorySaga (name : String) (sync : Bool) : Saga Bool where
  name := named name
  source := named "order"
  target := named "inventory"
  sync := sync

/-- One target, marked by one saga and not by the other. -/
def mixedSagas : SagaRouter :=
  ⟨[(inventorySaga "saga-sync" true).factory, (inventorySaga "saga-async" false).factory]⟩

/-- Two targets, one of them marked. -/
def fulfilment : ProcessManager Bool Bool where
  name := named "pmg-fulfilment"
  pmDomain := named "fulfilment"
  state := { default := false }
  sources := [named "order", named "return"]
  sources_ne_nil := by simp
  targets := [named "inventory", named "shipping"]
  targets_ne_nil := by simp
  syncTargets := [named "shipping"]
  syncTargets_subset := by simp

def managers : ProcessManagerRouter :=
  ⟨[fulfilment.factory]⟩

end Sample

open Sample in
/-- The mixed target is in both lists, and yet the bus counts. -/
theorem outputs_covered_sample :
    mixedSagas.outputDomains = ["inventory"] ∧
      mixedSagas.syncOutputDomains = ["inventory"] ∧
      mixedSagas.hasAsyncOutputs = true ∧
      managers.outputDomains = ["inventory", "shipping"] ∧
      managers.syncOutputDomains = ["shipping"] ∧
      OutputsCovered managers.outputs managers.outputDomains managers.syncOutputDomains
        managers.hasAsyncOutputs := by
  have hwithin : ∀ decl ∈ managers.outputs, decl.SyncWithinTargets := by
    apply ProcessManagerRouter.syncWithinTargets_of_generated
    intro factory hfactory
    exact ⟨Bool, Bool, fulfilment, List.mem_singleton.mp hfactory⟩
  obtain ⟨-, hmanagers⟩ := outputs_covered mixedSagas managers hwithin
  exact ⟨by decide, by decide, by decide, by decide, by decide, hmanagers⟩

end AngzarrClient
