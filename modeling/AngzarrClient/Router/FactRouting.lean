/-
Dispatch of facts.  `dispatch_fact` commits to the first command handler it
finds, without looking at the domain of the facts.
-/
import AngzarrClient.Macros.StateRebuild
import AngzarrClient.Router.Runtime

namespace AngzarrClient

open CommandHandlerRouter

/-- The domain a command-handler registration declares. -/
def Factory.domain (factory : Factory) : Option String :=
  match factory.handler.config with
  | .commandHandler config => some config.domain
  | _ => none

/-- The same registration around other business logic, given for each config. -/
def Factory.withLogic
    (logic : HandlerConfig → HandlerRequest → HandlerRun HandlerResponse)
    (factory : Factory) : Factory where
  kind := factory.kind
  handler :=
    { config := factory.handler.config
      dispatch := logic factory.handler.config }

/-- The same registrations around other business logic. -/
def CommandHandlerRouter.withLogic
    (logic : HandlerConfig → HandlerRequest → HandlerRun HandlerResponse)
    (router : CommandHandlerRouter) : CommandHandlerRouter where
  factories := router.factories.map (Factory.withLogic logic)

/-- The first registration with a command-handler config. -/
def CommandHandlerRouter.firstHandler (router : CommandHandlerRouter) :
    Option Factory :=
  router.factories.find? fun factory => isCommandHandler factory.handler.config

/-- `dispatch_fact` answers with what `target` answers. -/
def CommandHandlerRouter.FactReaches (router : CommandHandlerRouter)
    (request : FactRequest) (target : Factory) : Prop :=
  (router.dispatchFact request).outcome =
    target.handler.answer unwrapFact (.handleFact request)

section Logic

variable (logic : HandlerConfig → HandlerRequest → HandlerRun HandlerResponse)

/-- Acceptance is about the registrations only. -/
theorem CommandHandlerRouter.Accepted.withLogic {router : CommandHandlerRouter}
    (haccepted : router.Accepted) : (router.withLogic logic).Accepted := by
  rw [accepted_iff] at haccepted ⊢
  obtain ⟨hne, hkinds, hunique⟩ := haccepted
  refine ⟨by simpa [CommandHandlerRouter.withLogic] using hne, ?_, ?_⟩
  · intro factory hfactory
    obtain ⟨original, horiginal, rfl⟩ := List.mem_map.mp hfactory
    exact hkinds original horiginal
  · have hdeclared : (router.withLogic logic).factories.flatMap Factory.declared =
        router.factories.flatMap Factory.declared := by
      rw [CommandHandlerRouter.withLogic, List.flatMap_map]
      rfl
    rw [RoutingTable.Unambiguous, hdeclared]
    exact hunique

theorem firstHandler_withLogic (router : CommandHandlerRouter) :
    (router.withLogic logic).firstHandler =
      router.firstHandler.map (Factory.withLogic logic) := by
  rw [firstHandler, CommandHandlerRouter.withLogic, List.find?_map]
  rfl

end Logic

theorem head?_selected (router : CommandHandlerRouter) :
    (selected isCommandHandler router.factories).head? =
      router.firstHandler.map Factory.handler := by
  rw [selected, firstHandler, List.head?_filter, List.find?_map]
  rfl

theorem outcome_dispatchFact {router : CommandHandlerRouter} {first : Factory}
    (hfirst : router.firstHandler = some first) (request : FactRequest) :
    (router.dispatchFact request).outcome =
      first.handler.answer unwrapFact (.handleFact request) := by
  rw [dispatchFact, outcome_dispatchFirst, head?_selected, hfirst]
  rfl

/-- A registration with a command-handler config makes the router have a first
command handler. -/
theorem exists_firstHandler {router : CommandHandlerRouter} {target : Factory}
    (hmem : target ∈ router.factories)
    (htarget : isCommandHandler target.handler.config = true) :
    ∃ first ∈ router.factories, router.firstHandler = some first := by
  rcases hfirst : router.firstHandler with _ | first
  · rw [firstHandler, List.find?_eq_none] at hfirst
    exact absurd htarget (hfirst target hmem)
  · exact ⟨first, List.mem_of_find?_eq_some hfirst, rfl⟩

/-- A registration that declares a domain has a command-handler config. -/
theorem isCommandHandler_of_domain {target : Factory} {domain : String}
    (hdomain : target.domain = some domain) :
    isCommandHandler target.handler.config = true := by
  rw [Factory.domain] at hdomain
  split at hdomain
  · rename_i config hconfig
    rw [hconfig]
    rfl
  · cases hdomain

/-- Business logic that answers a fact under one config with a marked book. -/
def markedLogic (config : HandlerConfig) (asked : HandlerConfig)
    (_ : HandlerRequest) : HandlerRun HandlerResponse :=
  pure (.handleFact { nextSequence := if asked = config then 1 else 0 })

/-- In a router of handlers of pairwise distinct domains, a fact of `domain`
gets the answer of that domain's handler exactly when the first registered
command handler gives the same answer.  Over all business logic this means
that the domain's handler is the first one. -/
theorem fact_reaches_domain_iff_first {router : CommandHandlerRouter}
    (haccepted : router.Accepted)
    (hdistinct : (router.factories.map Factory.domain).Nodup)
    (request : FactRequest) (target : Factory) {domain : String}
    (hcover : (request.facts.bind EventBook.cover).map Cover.domain = some domain)
    (hmem : target ∈ router.factories)
    (hdomain : target.domain =
      (request.facts.bind EventBook.cover).map Cover.domain) :
    (∃ first, router.firstHandler = some first ∧
      (router.FactReaches request target ↔
        first.handler.answer unwrapFact (.handleFact request) =
          target.handler.answer unwrapFact (.handleFact request))) ∧
    ((∀ logic, (router.withLogic logic).Accepted ∧
        (router.withLogic logic).FactReaches request (target.withLogic logic)) ↔
      router.firstHandler = some target) := by
  obtain ⟨first, hfirstMem, hfirst⟩ :=
    exists_firstHandler hmem (isCommandHandler_of_domain (hdomain.trans hcover))
  refine ⟨⟨first, hfirst, ?_⟩, ⟨fun hall => ?_, fun htarget logic => ?_⟩⟩
  · rw [FactReaches, outcome_dispatchFact hfirst]
  · have hmarked := (hall (markedLogic target.handler.config)).2
    have hfirstMarked :
        (router.withLogic (markedLogic target.handler.config)).firstHandler =
          some (first.withLogic (markedLogic target.handler.config)) := by
      rw [firstHandler_withLogic, hfirst]
      rfl
    rw [FactReaches, outcome_dispatchFact hfirstMarked] at hmarked
    -- only under the target's own config does the marked answer carry a 1
    have hconfig : first.handler.config = target.handler.config := by
      by_contra hne
      simp [Handler.answer, Factory.withLogic, markedLogic, hne, Except.bind,
        unwrapFact] at hmarked
    have hsame : first.domain = target.domain := by
      rw [Factory.domain, Factory.domain, hconfig]
    have heq : first = target :=
      List.inj_on_of_nodup_map hdistinct hfirstMem hmem hsame
    rw [hfirst, heq]
  · refine ⟨haccepted.withLogic logic, ?_⟩
    have hfirstLogic : (router.withLogic logic).firstHandler =
        some (target.withLogic logic) := by
      rw [firstHandler_withLogic, htarget]
      rfl
    rw [FactReaches, outcome_dispatchFact hfirstLogic]

namespace Sample

/-- An aggregate of `domain` that records one kind of fact. -/
def keeper (domain : String) (fact : MessageType Bool) : Factory :=
  Aggregate.factory
    { domain := named domain
      state := flagState
      handlesFact := [{
        method := "on_fact"
        messageType := fact
        run := fun _ _ => .ok { pages := [eventPage (domain ++ ".Recorded") []] } }] }
    (prost {})

def paymentReceived : MessageType Bool := flagType "payment.Received"

def orderKeeper : Factory := keeper "order" paymentReceived

def stockKeeper : Factory := keeper "stock" (flagType "stock.Counted")

/-- The fact that a payment arrived, addressed to `order`. -/
def receivedByOrder : FactRequest where
  facts := some
    { cover := some { domain := "order" }
      pages := [eventPage (fullTypeUrl paymentReceived) []] }

end Sample

open Sample in
/-- With the stock handler registered first, the fact for `order` is skipped
without an error. -/
theorem fact_is_skipped :
    (CommandHandlerRouter.mk [stockKeeper, orderKeeper]).Accepted ∧
    (CommandHandlerRouter.mk [stockKeeper, orderKeeper]).supportsHandleFact = true ∧
    orderKeeper.handler.answer unwrapFact (.handleFact receivedByOrder) =
      .ok { pages := [eventPage "order.Recorded" []] } ∧
    (dispatchFact ⟨[stockKeeper, orderKeeper]⟩ receivedByOrder).outcome = .ok {} ∧
    ¬FactReaches ⟨[stockKeeper, orderKeeper]⟩ receivedByOrder orderKeeper := by
  refine ⟨⟨"shop", by rfl⟩, by rfl, by rfl, by rfl, ?_⟩
  intro hreaches
  cases hreaches

open Sample in
/-- With the order handler first the fact reaches it. -/
theorem fact_reaches_domain_iff_first_sample :
    FactReaches ⟨[orderKeeper, stockKeeper]⟩ receivedByOrder orderKeeper := by
  have haccepted : (CommandHandlerRouter.mk [orderKeeper, stockKeeper]).Accepted :=
    ⟨"shop", by rfl⟩
  have hfirst := fact_reaches_domain_iff_first haccepted (by decide)
    receivedByOrder orderKeeper (by rfl) (by simp) (by rfl)
  obtain ⟨first, hfound, hiff⟩ := hfirst.1
  cases hfound
  exact hiff.mpr rfl

end AngzarrClient
