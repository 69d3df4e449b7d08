/-
The unified `Router` builder (`router/builder.rs`): registration, and the
checks of `Router::build`.
-/
import AngzarrClient.Lib.RoutingTable
import AngzarrClient.Router.Handler

namespace AngzarrClient

/-- Errors raised by `Router::build`. -/
inductive BuildError
  | empty (detail : ErrorDetail)
  | mixedKinds (detail : ErrorDetail)
  | duplicateCommandHandler (detail : ErrorDetail)
deriving DecidableEq, Repr

structure CommandHandlerRouter where
  factories : List Factory

structure SagaRouter where
  factories : List Factory

structure ProcessManagerRouter where
  factories : List Factory

structure ProjectorRouter where
  factories : List Factory

structure UpcasterRouter where
  factories : List Factory

/-- Typed output of `Router::build`, one variant per kind. -/
inductive Built
  | commandHandler (router : CommandHandlerRouter)
  | saga (router : SagaRouter)
  | processManager (router : ProcessManagerRouter)
  | projector (router : ProjectorRouter)
  | upcaster (router : UpcasterRouter)

/-- The builder: a name and the factories registered so far. -/
structure Router where
  name : String
  factories : List Factory := []

/-- `Router::with_handler`. -/
def Router.withHandler (router : Router) (factory : Factory) : Router :=
  { router with factories := router.factories ++ [factory] }

/-- `Router::handler_count`. -/
def Router.handlerCount (router : Router) : Nat := router.factories.length

namespace BuildError

def noHandlers (routerName : String) : BuildError :=
  .empty ⟨codes.routerNoHandlers, messages.routerNoHandlers,
    [(keys.routerName, routerName)]⟩

def mixed (first other : Kind) (routerName : String) : BuildError :=
  .mixedKinds ⟨codes.mixedHandlerKinds, messages.mixedHandlerKinds,
    [(keys.handlerKind, first.debug), (keys.otherKind, other.debug),
      (keys.routerName, routerName)]⟩

def duplicate (domain typeUrl routerName : String) : BuildError :=
  .duplicateCommandHandler
    ⟨codes.duplicateCommandHandler, messages.duplicateCommandHandler,
      [(keys.domain, domain), (keys.typeUrl, typeUrl),
        (keys.routerName, routerName)]⟩

end BuildError

/-- A run of the builder. -/
abbrev BuildRun (α : Type) := Traced Event BuildError α

/-- The kind check: every factory has the kind of the first one. -/
def checkKinds (routerName : String) (firstKind : Kind) :
    List Factory → BuildRun PUnit
  | [] => pure ⟨⟩
  | factory :: rest =>
      if factory.kind ≠ firstKind then
        .fail (.mixed firstKind factory.kind routerName)
      else checkKinds routerName firstKind rest

/-- `for type_url in handled`: insert each pair into the `seen` set. -/
def insertHandled (routerName domain : String) (seen : List (String × String)) :
    List String → BuildRun (List (String × String))
  | [] => pure seen
  | typeUrl :: rest =>
      if (domain, typeUrl) ∈ seen then
        .fail (.duplicate domain typeUrl routerName)
      else insertHandled routerName domain ((domain, typeUrl) :: seen) rest

/-- The duplicate check of a command-handler router.  It reads the config of
a handler, so it invokes every factory up to the first duplicate. -/
def checkDuplicates (routerName : String) (seen : List (String × String)) :
    List Factory → BuildRun PUnit
  | [] => pure ⟨⟩
  | factory :: rest => do
      let handler ← factory.produce
      match handler.config with
      | .commandHandler config => do
          let seen' ← insertHandled routerName config.domain seen config.handled
          checkDuplicates routerName seen' rest
      | _ => checkDuplicates routerName seen rest

/-- The typed router of a homogeneous list of factories. -/
def Built.ofKind (factories : List Factory) : Kind → Built
  | .commandHandler => .commandHandler ⟨factories⟩
  | .saga => .saga ⟨factories⟩
  | .processManager => .processManager ⟨factories⟩
  | .projector => .projector ⟨factories⟩
  | .upcaster => .upcaster ⟨factories⟩

/-- `Router::build`. -/
def Router.build (router : Router) : BuildRun Built :=
  match router.factories with
  | [] => .fail (.noHandlers router.name)
  | first :: _ => do
      checkKinds router.name first.kind router.factories
      if first.kind = .commandHandler then
        checkDuplicates router.name [] router.factories
      pure (Built.ofKind router.factories first.kind)

/-- The routing table entries a factory declares: the keys under which the
duplicate check files its handler. -/
def Factory.declared (factory : Factory) : List (String × String) :=
  match factory.handler.config with
  | .commandHandler config => config.handled.map fun url => (config.domain, url)
  | _ => []

/-- `router` is accepted by `Router::build` as a command-handler router. -/
def CommandHandlerRouter.Accepted (router : CommandHandlerRouter) : Prop :=
  ∃ name, (Router.build ⟨name, router.factories⟩).outcome =
    .ok (.commandHandler router)

open RoutingTable

section Checks

variable (routerName : String)

theorem checkKinds_outcome (firstKind : Kind) (factories : List Factory) :
    (checkKinds routerName firstKind factories).outcome = .ok ⟨⟩ ↔
      ∀ factory ∈ factories, factory.kind = firstKind := by
  induction factories with
  | nil => simp [checkKinds]
  | cons factory rest ih =>
      by_cases hkind : factory.kind = firstKind
      · simp [checkKinds, hkind, ih]
      · simp [checkKinds, hkind]

theorem checkKinds_trace (firstKind : Kind) (factories : List Factory) :
    (checkKinds routerName firstKind factories).trace = [] := by
  induction factories with
  | nil => rfl
  | cons factory rest ih =>
      rw [checkKinds]
      split
      · rfl
      · exact ih

/-- The inner loop succeeds on pairs it has not seen, and files them. -/
theorem insertHandled_of_fresh {domain : String} {handled : List String}
    {seen : List (String × String)}
    (hfresh : Fresh seen (handled.map fun url => (domain, url))) :
    (insertHandled routerName domain seen handled).outcome =
      .ok ((handled.map fun url => (domain, url)).reverse ++ seen) := by
  induction handled generalizing seen with
  | nil => rfl
  | cons typeUrl rest ih =>
      rw [List.map_cons, fresh_cons] at hfresh
      rw [insertHandled, if_neg hfresh.1, ih hfresh.2]
      simp

theorem insertHandled_of_not_fresh {domain : String} {handled : List String}
    {seen : List (String × String)}
    (hfresh : ¬Fresh seen (handled.map fun url => (domain, url))) :
    ∃ error, (insertHandled routerName domain seen handled).outcome =
      .error error := by
  induction handled generalizing seen with
  | nil => exact absurd (fresh_nil seen) hfresh
  | cons typeUrl rest ih =>
      by_cases hseen : (domain, typeUrl) ∈ seen
      · exact ⟨_, by rw [insertHandled, if_pos hseen]; rfl⟩
      · rw [List.map_cons, fresh_cons, not_and] at hfresh
        rw [insertHandled, if_neg hseen]
        exact ih (hfresh hseen)

/-- The duplicate check accepts exactly the tables with fresh pairs. -/
theorem checkDuplicates_outcome (factories : List Factory)
    (seen : List (String × String)) :
    (checkDuplicates routerName seen factories).outcome = .ok ⟨⟩ ↔
      Fresh seen (factories.flatMap Factory.declared) := by
  induction factories generalizing seen with
  | nil => simp [checkDuplicates]
  | cons factory rest ih =>
      rw [checkDuplicates, Factory.produce_bind, List.flatMap_cons, fresh_append]
      cases hconfig : factory.handler.config with
      | commandHandler config =>
          have hdeclared : factory.declared =
              config.handled.map fun url => (config.domain, url) := by
            rw [Factory.declared, hconfig]
          rw [hdeclared]
          by_cases hfresh :
              Fresh seen (config.handled.map fun url => (config.domain, url))
          · have hinsert := insertHandled_of_fresh routerName hfresh
            simp only [Traced.outcome_bind, hinsert, Except.bind, ih, hfresh,
              true_and]
          · obtain ⟨error, hinsert⟩ := insertHandled_of_not_fresh routerName hfresh
            simp [Traced.outcome_bind, hinsert, Except.bind, hfresh]
      | saga | processManager | projector | upcaster =>
          simp [Factory.declared, hconfig, ih]

end Checks

/-- `Router::build` on a non-empty list: the kinds agree, and for command
handlers no pair is declared twice. -/
theorem build_outcome_cons (name : String) (first : Factory)
    (rest : List Factory) (built : Built) :
    (Router.build ⟨name, first :: rest⟩).outcome = .ok built ↔
      (∀ factory ∈ first :: rest, factory.kind = first.kind) ∧
        (first.kind = .commandHandler →
          Unambiguous Factory.declared (first :: rest)) ∧
        built = Built.ofKind (first :: rest) first.kind := by
  have hkinds := checkKinds_outcome name first.kind (first :: rest)
  have hunique : (checkDuplicates name [] (first :: rest)).outcome = .ok ⟨⟩ ↔
      Unambiguous Factory.declared (first :: rest) := by
    rw [checkDuplicates_outcome, fresh_empty_iff, Unambiguous]
  rw [← hkinds, ← hunique]
  simp only [Router.build, Traced.outcome_bind]
  cases (checkKinds name first.kind (first :: rest)).outcome with
  | error error => simp [Except.bind]
  | ok _ =>
      by_cases hkind : first.kind = .commandHandler
      · simp only [hkind, if_true, Traced.outcome_bind, Except.bind]
        cases (checkDuplicates name [] (first :: rest)).outcome with
        | error error => simp
        | ok _ => simp [eq_comm]
      · simp [hkind, Except.bind, eq_comm]

/-- `Router::build` returns a command-handler router exactly when something is
registered, every kind is `CommandHandler`, and no pair is declared twice. -/
theorem build_outcome_commandHandler (name : String) (factories : List Factory)
    (router : CommandHandlerRouter) :
    (Router.build ⟨name, factories⟩).outcome = .ok (.commandHandler router) ↔
      router.factories = factories ∧ factories ≠ [] ∧
        (∀ factory ∈ factories, factory.kind = .commandHandler) ∧
        Unambiguous Factory.declared factories := by
  cases factories with
  | nil => simp [Router.build]
  | cons first rest =>
      rw [build_outcome_cons]
      constructor
      · rintro ⟨hkinds, hunique, hbuilt⟩
        cases hkind : first.kind <;> rw [hkind] at hbuilt <;> cases hbuilt
        rw [hkind] at hkinds
        exact ⟨rfl, by simp, hkinds, hunique hkind⟩
      · rintro ⟨hfactories, -, hkinds, hunique⟩
        have hkind : first.kind = .commandHandler := hkinds first (by simp)
        refine ⟨by simpa only [hkind] using hkinds, fun _ => hunique, ?_⟩
        rw [hkind, Built.ofKind, ← hfactories]

theorem CommandHandlerRouter.accepted_iff (router : CommandHandlerRouter) :
    router.Accepted ↔ router.factories ≠ [] ∧
      (∀ factory ∈ router.factories, factory.kind = .commandHandler) ∧
      Unambiguous Factory.declared router.factories := by
  rw [CommandHandlerRouter.Accepted]
  simp [build_outcome_commandHandler]

end AngzarrClient
