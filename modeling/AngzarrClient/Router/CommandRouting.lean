/-
Routing of ordinary commands.  `Router::build` accepts exactly the tables in
which no `(domain, type_url)` pair is declared twice, so the first handler the
dispatch loop finds is the only one, whatever the registration order.
-/
import AngzarrClient.Macros.CommandHandler
import AngzarrClient.Router.Runtime

namespace AngzarrClient

open RoutingTable CommandHandlerRouter

/-- The factory registers a handler generated by `#[command_handler]`. -/
def Factory.Generated (prost : Prost) (factory : Factory) : Prop :=
  ∃ (S Msg : Type) (aggregate : Aggregate S Msg), factory = aggregate.factory prost

/-- The routing key of a command: its cover's domain and its type URL. -/
def commandKey (cmd : ContextualCommand) (payload : Any) : String × String :=
  (cmd.coverDomain.getD "", payload.typeUrl)

theorem routesCommand_iff (factory : Factory) (domain typeUrl : String) :
    routesCommand domain typeUrl factory.handler.config = true ↔
      (domain, typeUrl) ∈ factory.declared := by
  rw [Factory.declared]
  cases factory.handler.config with
  | commandHandler config =>
      simp only [routesCommand, decide_eq_true_eq, List.mem_map, Prod.mk.injEq,
        exists_eq_right_right]
      exact and_comm.trans (and_congr_right fun _ => Iff.rfl)
  | saga | processManager | projector | upcaster => simp [routesCommand]

/-- The dispatch loop looks a command up in the table of declarations. -/
theorem selected_head_eq_lookup (factories : List Factory)
    (domain typeUrl : String) :
    (selected (routesCommand domain typeUrl) factories).head? =
      (lookup Factory.declared (domain, typeUrl) factories).map
        Factory.handler := by
  induction factories with
  | nil => rfl
  | cons factory rest ih =>
      have hiff := routesCommand_iff factory domain typeUrl
      by_cases hroutes : routesCommand domain typeUrl factory.handler.config = true
      · simp [selected, lookup, hroutes, hiff.mp hroutes]
      · have hdeclared := mt hiff.mpr hroutes
        simp only [selected, lookup] at ih ⊢
        simp [hroutes, hdeclared, ih]

section Command

variable {prost : Prost} {router : CommandHandlerRouter}
  {cmd : ContextualCommand} {payload : Any}

/-- What the loop falls back on. -/
def noHandlerError (cmd : ContextualCommand) (payload : Any) : ClientError :=
  .noHandlerRegistered (cmd.coverDomain.getD "<missing>") payload.typeUrl

theorem dispatch_of_command (hpayload : commandPayload cmd = .ok payload)
    (hkind : payload.typeUrl ≠ notificationTypeUrl) :
    router.dispatch prost cmd =
      dispatchFirst (routesCommand (cmd.coverDomain.getD "") payload.typeUrl)
        (.commandHandler cmd) unwrapCommand (.fail (noHandlerError cmd payload))
        router.factories := by
  have hurl : extractCommandTypeUrl cmd = .ok payload.typeUrl :=
    extractCommandTypeUrl_eq_ok_iff.mpr ⟨payload, hpayload, rfl⟩
  simp only [dispatch, hurl, Traced.ofExcept_ok, pure_bind, if_neg hkind]
  rfl

theorem outcome_dispatch_of_command (hpayload : commandPayload cmd = .ok payload)
    (hkind : payload.typeUrl ≠ notificationTypeUrl) :
    (router.dispatch prost cmd).outcome =
      match lookup Factory.declared (commandKey cmd payload) router.factories with
      | some factory => factory.handler.answer unwrapCommand (.commandHandler cmd)
      | none => .error (noHandlerError cmd payload) := by
  rw [dispatch_of_command hpayload hkind, outcome_dispatchFirst,
    selected_head_eq_lookup, commandKey]
  cases lookup Factory.declared (cmd.coverDomain.getD "", payload.typeUrl)
      router.factories with
  | none => rfl
  | some factory => rfl

theorem calls_dispatch_of_command (hpayload : commandPayload cmd = .ok payload)
    (hkind : payload.typeUrl ≠ notificationTypeUrl) :
    calls (router.dispatch prost cmd) =
      match lookup Factory.declared (commandKey cmd payload) router.factories with
      | some factory => (factory.handler.call (.commandHandler cmd)).trace
      | none => [] := by
  rw [dispatch_of_command hpayload hkind, calls_dispatchFirst,
    selected_head_eq_lookup, commandKey]
  cases lookup Factory.declared (cmd.coverDomain.getD "", payload.typeUrl)
      router.factories with
  | none => rfl
  | some factory => rfl

end Command

/-- On a pair it declares, a generated handler does not raise
`NO_HANDLER_REGISTERED`. -/
theorem Factory.Generated.not_noHandler {prost : Prost} {factory : Factory}
    (hgenerated : factory.Generated prost) {cmd : ContextualCommand} {payload : Any}
    (hpayload : commandPayload cmd = .ok payload)
    (hkind : payload.typeUrl ≠ notificationTypeUrl)
    (hdeclared : commandKey cmd payload ∈ factory.declared) {error : ClientError}
    (herror : (factory.handler.dispatch (.commandHandler cmd)).outcome =
      .error error) : ¬error.RaisedAs codes.noHandlerRegistered := by
  obtain ⟨S, Msg, aggregate, rfl⟩ := hgenerated
  have hhandled : payload.typeUrl ∈ armUrls aggregate.handles := by
    obtain ⟨url, hurl, hkey⟩ := List.mem_map.mp hdeclared
    rw [commandKey, Prod.mk.injEq] at hkey
    rw [← hkey.2]
    exact hurl
  rcases Aggregate.dispatchCommand_error hpayload hkind hhandled herror with
    ⟨typeUrl, cause, rfl⟩ | ⟨rejection, rfl⟩
  · rw [ClientError.raisedAs_anyDecodeFailed]
    decide
  · exact ClientError.not_raisedAs_rejected

/-- A handler that answers with the error of its own dispatch. -/
theorem answer_error {handler : Handler} {request : HandlerRequest}
    {error : ClientError}
    (hanswer : handler.answer unwrapCommand request = .error error)
    (hraised : error.RaisedAs codes.noHandlerRegistered) :
    (handler.dispatch request).outcome = .error error := by
  rw [Handler.answer] at hanswer
  cases houtcome : (handler.dispatch request).outcome with
  | error error' =>
      rw [houtcome] at hanswer
      cases hanswer
      rfl
  | ok response =>
      rw [houtcome] at hanswer
      have hwrong : ¬(ClientError.wrongResponseKind "CommandHandler").RaisedAs
          codes.noHandlerRegistered := by
        rw [ClientError.raisedAs_wrongResponseKind]
        decide
      cases response <;> cases hanswer <;> exact absurd hraised hwrong

/-- In a router whose handlers are all generated, the framework raises
`NO_HANDLER_REGISTERED` exactly for the pairs nobody declares. -/
theorem raises_noHandler_iff {prost : Prost} {router : CommandHandlerRouter}
    (hunique : Unambiguous Factory.declared router.factories)
    (hgenerated : ∀ factory ∈ router.factories, factory.Generated prost)
    {cmd : ContextualCommand} {payload : Any}
    (hpayload : commandPayload cmd = .ok payload)
    (hkind : payload.typeUrl ≠ notificationTypeUrl) :
    (∃ error, (router.dispatch prost cmd).outcome = .error error ∧
        error.RaisedAs codes.noHandlerRegistered) ↔
      ∀ factory ∈ router.factories, commandKey cmd payload ∉ factory.declared := by
  rw [outcome_dispatch_of_command hpayload hkind, ← lookup_eq_none_iff]
  cases hfound : lookup Factory.declared (commandKey cmd payload)
      router.factories with
  | none =>
      refine iff_of_true ⟨noHandlerError cmd payload, rfl, ?_⟩ rfl
      exact ClientError.raisedAs_ofCode.mpr rfl
  | some factory =>
      obtain ⟨hmem, hdeclared⟩ := hunique.lookup_eq_some_iff.mp hfound
      refine iff_of_false ?_ (by simp)
      rintro ⟨error, hanswer, hraised⟩
      exact (hgenerated factory hmem).not_noHandler hpayload hkind hdeclared
        (answer_error hanswer hraised) hraised

section Accepted

variable {prost : Prost} {router : CommandHandlerRouter}
  (hunique : Unambiguous Factory.declared router.factories)
  {cmd : ContextualCommand} {payload : Any}
include hunique

/-- A declared pair is routed to its declaring handler, and only there. -/
theorem routed_to_declaring {factory : Factory}
    (hpayload : commandPayload cmd = .ok payload)
    (hkind : payload.typeUrl ≠ notificationTypeUrl)
    (hmem : factory ∈ router.factories)
    (hdeclared : commandKey cmd payload ∈ factory.declared) :
    (router.dispatch prost cmd).outcome =
        factory.handler.answer unwrapCommand (.commandHandler cmd) ∧
      calls (router.dispatch prost cmd) =
        (factory.handler.call (.commandHandler cmd)).trace := by
  have hfound := hunique.lookup_eq_some_iff.mpr ⟨hmem, hdeclared⟩
  rw [outcome_dispatch_of_command hpayload hkind,
    calls_dispatch_of_command hpayload hkind, hfound]
  exact ⟨rfl, rfl⟩

/-- The router's own error, without a call, means that nobody declares the
pair; a handler that returns the same error has been called. -/
theorem noHandler_iff (hpayload : commandPayload cmd = .ok payload)
    (hkind : payload.typeUrl ≠ notificationTypeUrl) :
    (router.dispatch prost cmd).outcome = .error (noHandlerError cmd payload) ∧
        calls (router.dispatch prost cmd) = [] ↔
      ∀ factory ∈ router.factories, commandKey cmd payload ∉ factory.declared := by
  constructor
  · rintro ⟨-, hcalls⟩ factory hmem hdeclared
    rw [(routed_to_declaring hunique hpayload hkind hmem hdeclared).2,
      Handler.trace_call] at hcalls
    cases hcalls
  · intro hnone
    have hfound := lookup_eq_none_iff.mpr hnone
    rw [outcome_dispatch_of_command hpayload hkind,
      calls_dispatch_of_command hpayload hkind, hfound]
    exact ⟨rfl, rfl⟩

/-- Commands other than notifications do not see the registration order. -/
theorem outcome_dispatch_perm {router' : CommandHandlerRouter}
    (hperm : router'.factories.Perm router.factories)
    (hkind : extractCommandTypeUrl cmd ≠ .ok notificationTypeUrl) :
    (router'.dispatch prost cmd).outcome = (router.dispatch prost cmd).outcome := by
  cases hpayload : commandPayload cmd with
  | error error =>
      have hurl : extractCommandTypeUrl cmd = .error error := by
        rw [extractCommandTypeUrl, hpayload]
        rfl
      simp only [dispatch, hurl, Traced.ofExcept_error, Traced.fail_bind]
  | ok payload =>
      have hne : payload.typeUrl ≠ notificationTypeUrl := by
        intro heq
        exact hkind (extractCommandTypeUrl_eq_ok_iff.mpr ⟨payload, hpayload, heq⟩)
      rw [outcome_dispatch_of_command hpayload hne,
        outcome_dispatch_of_command hpayload hne,
        hunique.lookup_perm hperm.symm]

end Accepted

/-- Command routing, over every list of registrations.  A router is built
exactly from a non-empty list of command handlers without a pair declared
twice; a command then gets the answer of the one handler that declares its
pair, and the router's `NO_HANDLER_REGISTERED` without any handler called
exactly when none does.  Registration order does not matter, and a generated
handler is only sent commands for which it has an arm. -/
theorem commandHandlerRouter_routes_by_declaration (prost : Prost) :
    (∀ name factories,
      (∃ router, (Router.build ⟨name, factories⟩).outcome =
          .ok (.commandHandler router)) ↔
        factories ≠ [] ∧ (∀ factory ∈ factories, factory.kind = .commandHandler) ∧
          (factories.flatMap Factory.declared).Nodup) ∧
    (∀ name factories router,
      (Router.build ⟨name, factories⟩).outcome = .ok (.commandHandler router) →
      router.factories = factories ∧
      (∀ cmd payload, commandPayload cmd = .ok payload →
        payload.typeUrl ≠ notificationTypeUrl →
        (∀ factory ∈ factories, commandKey cmd payload ∈ factory.declared →
          (∀ other ∈ factories, commandKey cmd payload ∈ other.declared →
            other = factory) ∧
          (router.dispatch prost cmd).outcome =
            factory.handler.answer unwrapCommand (.commandHandler cmd) ∧
          calls (router.dispatch prost cmd) =
            (factory.handler.call (.commandHandler cmd)).trace ∧
          (factory.Generated prost → ∀ error,
            (factory.handler.dispatch (.commandHandler cmd)).outcome =
              .error error → ¬error.RaisedAs codes.noHandlerRegistered)) ∧
        ((router.dispatch prost cmd).outcome = .error (noHandlerError cmd payload) ∧
            calls (router.dispatch prost cmd) = [] ↔
          ∀ factory ∈ factories, commandKey cmd payload ∉ factory.declared) ∧
        ((∀ factory ∈ factories, factory.Generated prost) →
          ((∃ error, (router.dispatch prost cmd).outcome = .error error ∧
              error.RaisedAs codes.noHandlerRegistered) ↔
            ∀ factory ∈ factories, commandKey cmd payload ∉ factory.declared))) ∧
      (∀ factories', factories'.Perm factories →
        ∃ router', (Router.build ⟨name, factories'⟩).outcome =
            .ok (.commandHandler router') ∧
          ∀ cmd, extractCommandTypeUrl cmd ≠ .ok notificationTypeUrl →
            (router'.dispatch prost cmd).outcome =
              (router.dispatch prost cmd).outcome)) := by
  refine ⟨fun name factories => ?_, fun name factories router hbuild => ?_⟩
  · simp only [build_outcome_commandHandler]
    constructor
    · rintro ⟨router, -, hne, hkinds, hunique⟩
      exact ⟨hne, hkinds, hunique⟩
    · rintro ⟨hne, hkinds, hunique⟩
      exact ⟨⟨factories⟩, rfl, hne, hkinds, hunique⟩
  · rw [build_outcome_commandHandler] at hbuild
    obtain ⟨rfl, hne, hkinds, hunique⟩ := hbuild
    refine ⟨rfl, fun cmd payload hpayload hkind => ⟨?_, ?_, ?_⟩, ?_⟩
    · intro factory hmem hdeclared
      have hrouted : (router.dispatch prost cmd).outcome =
            factory.handler.answer unwrapCommand (.commandHandler cmd) ∧
          calls (router.dispatch prost cmd) =
            (factory.handler.call (.commandHandler cmd)).trace :=
        routed_to_declaring hunique hpayload hkind hmem hdeclared
      refine ⟨?_, hrouted.1, hrouted.2, ?_⟩
      · intro other hother hdeclaredOther
        exact hunique.eq_of_mem hother hmem hdeclaredOther hdeclared
      · intro hgenerated error herror
        exact hgenerated.not_noHandler hpayload hkind hdeclared herror
    · exact noHandler_iff hunique hpayload hkind
    · intro hgenerated
      exact raises_noHandler_iff hunique hgenerated hpayload hkind
    · intro factories' hperm
      refine ⟨⟨factories'⟩, ?_, fun cmd hkind => ?_⟩
      · rw [build_outcome_commandHandler]
        refine ⟨rfl, ?_, ?_, hunique.perm hperm.symm⟩
        · rintro rfl
          exact hne hperm.nil_eq.symm
        · intro factory hfactory
          exact hkinds factory (hperm.mem_iff.mp hfactory)
      · exact outcome_dispatch_perm hunique hperm hkind

namespace Sample

def createOrder : MessageType Bool := flagType "order.CreateOrder"

/-- An aggregate of `domain` that answers `CreateOrder` with one event of its
own. -/
def creator (domain : String) : Aggregate Bool Bool where
  domain := named domain
  state := { default := false }
  handles := [{
    method := "create"
    messageType := createOrder
    run := fun _ _ => .ok { pages := [eventPage (domain ++ ".Created") []] } }]

def stock : Factory := (creator "stock").factory (prost {})

def order : Factory := (creator "order").factory (prost {})

def create (domain : String) : ContextualCommand where
  command := some (commandBook domain (fullTypeUrl createOrder) [8, 1])

end Sample

open Sample in
/-- Registered second, the order handler still answers its command; a third
domain's command reaches nobody. -/
theorem commandHandlerRouter_routes_by_declaration_sample :
    (dispatch (prost {}) ⟨[stock, order]⟩ (create "order")).outcome =
        .ok { result := some (.events { pages := [eventPage "order.Created" []] }) } ∧
      (dispatch (prost {}) ⟨[stock, order]⟩ (create "payment")).outcome =
        .error (.noHandlerRegistered "payment" (fullTypeUrl createOrder)) := by
  have hroutes := (commandHandlerRouter_routes_by_declaration (prost {})).2 "shop"
    [stock, order] ⟨[stock, order]⟩ (by rfl)
  have hcreate := hroutes.2.1 (create "order")
    ⟨fullTypeUrl createOrder, [8, 1]⟩ rfl (by decide)
  have hpayment := hroutes.2.1 (create "payment")
    ⟨fullTypeUrl createOrder, [8, 1]⟩ rfl (by decide)
  constructor
  · rw [(hcreate.1 order (by simp) (by decide)).2.1]
    rfl
  · refine (hpayment.2.1.mpr ?_).1
    decide

end AngzarrClient
