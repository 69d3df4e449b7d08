/-
Which handlers a command can reach.  The command path matches the receiving
domain; the notification path matches the rejection key alone, so it reaches
every registered handler that lists the key, whatever its domain.
-/
import AngzarrClient.Router.CommandRouting
import AngzarrClient.Router.Rejection

namespace AngzarrClient

open CommandHandlerRouter BusinessResponse

variable {prost : Prost} {router : CommandHandlerRouter} {cmd : ContextualCommand}

/-- A selected handler is a registered command handler with a property of its
config. -/
theorem exists_of_mem_selected {selects : HandlerConfig → Bool}
    {P : CommandHandlerConfig → Prop}
    (hselects : ∀ config, selects config = true →
      ∃ declared, config = .commandHandler declared ∧ P declared)
    {factories : List Factory} {handler : Handler}
    (hmem : handler ∈ selected selects factories) :
    ∃ factory ∈ factories, ∃ declared,
      factory.handler.config = .commandHandler declared ∧
        handler.config = .commandHandler declared ∧ P declared := by
  obtain ⟨hselected, factory, hfactory, rfl⟩ := mem_selected.mp hmem
  obtain ⟨declared, hconfig, hdeclared⟩ := hselects _ hselected
  exact ⟨factory, hfactory, declared, hconfig, hconfig, hdeclared⟩

theorem routesCommand_domain {domain typeUrl : String} (config : HandlerConfig)
    (hroutes : routesCommand domain typeUrl config = true) :
    ∃ declared, config = .commandHandler declared ∧ declared.domain = domain := by
  cases config with
  | commandHandler declared =>
      have hboth : declared.domain = domain ∧ typeUrl ∈ declared.handled := by
        simpa [routesCommand] using hroutes
      exact ⟨declared, rfl, hboth.1⟩
  | saga | processManager | projector | upcaster => cases hroutes

theorem reactsTo_rejected {key : String × String} (config : HandlerConfig)
    (hreacts : reactsTo key config = true) :
    ∃ declared, config = .commandHandler declared ∧ key ∈ declared.rejected := by
  cases config with
  | commandHandler declared =>
      exact ⟨declared, rfl, by simpa [reactsTo] using hreacts⟩
  | saga | processManager | projector | upcaster => cases hreacts

/-- An ordinary command is dispatched within its own domain. -/
theorem dispatched_of_command {config : HandlerConfig} {sent : HandlerRequest}
    (hkind : extractCommandTypeUrl cmd ≠ .ok notificationTypeUrl)
    (hmem : .dispatched config sent ∈ (router.dispatch prost cmd).trace) :
    ∃ factory ∈ router.factories, ∃ declared,
      factory.handler.config = .commandHandler declared ∧
        config = .commandHandler declared ∧
        declared.domain = cmd.coverDomain.getD "" := by
  rcases hpayload : commandPayload cmd with error | payload
  · have hurl : extractCommandTypeUrl cmd = .error error := by
      rw [extractCommandTypeUrl, hpayload]
      rfl
    simp [dispatch, hurl] at hmem
  · have hne : payload.typeUrl ≠ notificationTypeUrl := by
      intro heq
      exact hkind (extractCommandTypeUrl_eq_ok_iff.mpr ⟨payload, hpayload, heq⟩)
    rw [← mem_calls, dispatch_of_command hpayload hne, calls_dispatchFirst] at hmem
    rcases hhead : (selected (routesCommand (cmd.coverDomain.getD "")
        payload.typeUrl) router.factories).head? with _ | handler
    · rw [hhead] at hmem
      cases hmem
    · rw [hhead] at hmem
      have hconfig : handler.config = config := (dispatched_mem_trace_call hmem).1
      have hselected := List.mem_of_mem_head? hhead
      obtain ⟨factory, hfactory, declared, hfirst, hsecond, hdomain⟩ :=
        exists_of_mem_selected routesCommand_domain hselected
      exact ⟨factory, hfactory, declared, hfirst, hconfig ▸ hsecond, hdomain⟩

/-- A notification is dispatched to handlers that list its key. -/
theorem dispatched_of_notification {config : HandlerConfig} {sent : HandlerRequest}
    (hkind : extractCommandTypeUrl cmd = .ok notificationTypeUrl)
    (hmem : .dispatched config sent ∈ (router.dispatch prost cmd).trace) :
    ∃ key, extractRejectionKey prost cmd = .ok key ∧
      ∃ factory ∈ router.factories, ∃ declared,
        factory.handler.config = .commandHandler declared ∧
          config = .commandHandler declared ∧ key ∈ declared.rejected := by
  rcases hkey : extractRejectionKey prost cmd with error | key
  · simp [dispatch, hkind, dispatchRejection, hkey] at hmem
  · rw [← mem_calls, calls_dispatch_of_notification hkind hkey, mem_calls] at hmem
    obtain ⟨handler, hhandler, hconfig, -⟩ := dispatched_of_mem_callEach hmem
    obtain ⟨factory, hfactory, declared, hfirst, hsecond, hrejected⟩ :=
      exists_of_mem_selected reactsTo_rejected hhandler
    exact ⟨key, rfl, factory, hfactory, declared, hfirst, hconfig ▸ hsecond, hrejected⟩

/-- Which handlers a command of domain `domain` reaches.  An ordinary command
is dispatched only to handlers that declare `domain`.  A notification is
dispatched only to handlers that list its rejection key, and the pages of the
response are the event pages these answer with; so a notification stays within
`domain` when every registered handler that lists the key declares `domain`. -/
theorem commands_reach_domain_or_key (prost : Prost)
    (router : CommandHandlerRouter) (cmd : ContextualCommand) (domain : String)
    (hdomain : cmd.coverDomain = some domain) :
    (extractCommandTypeUrl cmd ≠ .ok notificationTypeUrl →
      ∀ config sent, .dispatched config sent ∈ (router.dispatch prost cmd).trace →
        ∃ factory ∈ router.factories, ∃ declared,
          factory.handler.config = .commandHandler declared ∧
            config = .commandHandler declared ∧ declared.domain = domain) ∧
    (extractCommandTypeUrl cmd = .ok notificationTypeUrl →
      (∀ config sent, .dispatched config sent ∈ (router.dispatch prost cmd).trace →
        ∃ key, extractRejectionKey prost cmd = .ok key ∧
          ∃ factory ∈ router.factories, ∃ declared,
            factory.handler.config = .commandHandler declared ∧
              config = .commandHandler declared ∧ key ∈ declared.rejected) ∧
      (∀ merged, (router.dispatch prost cmd).outcome = .ok merged →
        ∃ key answers, extractRejectionKey prost cmd = .ok key ∧
          answersInTurn cmd (initialSeq cmd)
            (selected (reactsTo key) router.factories) = .ok answers ∧
          merged.eventPages = answers.flatMap eventPages) ∧
      (∀ key, extractRejectionKey prost cmd = .ok key →
        (∀ factory ∈ router.factories, ∀ declared,
          factory.handler.config = .commandHandler declared →
          key ∈ declared.rejected → declared.domain = domain) →
        ∀ config sent, .dispatched config sent ∈ (router.dispatch prost cmd).trace →
          ∃ declared, config = .commandHandler declared ∧
            declared.domain = domain)) := by
  refine ⟨fun hkind config sent hmem => ?_, fun hkind => ⟨?_, ?_, ?_⟩⟩
  · have hreached := dispatched_of_command hkind hmem
    rwa [hdomain] at hreached
  · intro config sent hmem
    exact dispatched_of_notification hkind hmem
  · intro merged hmerged
    rcases hkey : extractRejectionKey prost cmd with error | key
    · simp [dispatch, hkind, dispatchRejection, hkey] at hmerged
    · rw [outcome_dispatch_of_notification hkind hkey] at hmerged
      rcases hanswers : answersInTurn cmd (initialSeq cmd)
          (selected (reactsTo key) router.factories) with error | answers
      · rw [hanswers] at hmerged
        cases hmerged
      · rw [hanswers] at hmerged
        cases hmerged
        refine ⟨key, answers, rfl, hanswers, ?_⟩
        have hpages := Compensation.pages_foldl_merge answers (Compensation.start cmd)
        rw [Compensation.start, List.nil_append] at hpages
        exact hpages
  · intro key hkey honly config sent hmem
    obtain ⟨key', hkey', factory, hfactory, declared, hconfig, rfl, hrejected⟩ :=
      dispatched_of_notification hkind hmem
    rw [hkey] at hkey'
    cases hkey'
    exact ⟨declared, rfl, honly factory hfactory declared hconfig hrejected⟩

namespace Sample

def orderReactor : Factory := reactorFactory "order" compensated

def stockReactor : Factory :=
  reactorFactory "stock"
    (emitCompensationEvents { pages := [eventPage "stock.Released" []] })

/-- Two domains that handle the same command; one handler of `order` reacts to the
rejected payment. -/
def warehouse : CommandHandlerRouter := ⟨[stock, order, orderReactor]⟩

end Sample

open Sample in
/-- The order and the stock handler both react to the rejected payment: the
notification sent to `order` is dispatched to the stock handler too, and its
page is merged into the response. -/
theorem notification_leaves_domain :
    (CommandHandlerRouter.mk [orderReactor, stockReactor]).Accepted ∧
    (notify "order").coverDomain = some "order" ∧
    .dispatched stockReactor.handler.config (.commandHandler (notify "order")) ∈
      (dispatch paymentRejected ⟨[orderReactor, stockReactor]⟩
        (notify "order")).trace ∧
    (dispatch paymentRejected ⟨[orderReactor, stockReactor]⟩ (notify "order")).outcome =
      .ok { result := some (.events
        { pages := [eventPage "order.PaymentFailed" [], eventPage "stock.Released" []]
          nextSequence := 2 }) } :=
  ⟨⟨"orders", by rfl⟩, by rfl, by decide, by rfl⟩

open Sample in
/-- Only a handler of `order` lists the key: the command and the notification sent to
`order` each run one method, and neither is dispatched outside of `order`. -/
theorem commands_reach_domain_or_key_sample :
    (∃ run, calls (warehouse.dispatch paymentRejected (create "order")) =
      [.dispatched order.handler.config (.commandHandler (create "order")), .ran run]) ∧
    (∃ run, calls (warehouse.dispatch paymentRejected (notify "order")) =
      [.dispatched orderReactor.handler.config (.commandHandler (notify "order")),
        .ran run]) ∧
    ∀ cmd ∈ [create "order", notify "order"], ∀ config sent,
      .dispatched config sent ∈ (warehouse.dispatch paymentRejected cmd).trace →
        ∃ declared, config = .commandHandler declared ∧ declared.domain = "order" := by
  refine ⟨⟨_, rfl⟩, ⟨_, rfl⟩, ?_⟩
  intro cmd hcmd config sent hsent
  rcases List.mem_pair.mp hcmd with rfl | rfl
  · have hreach := (commands_reach_domain_or_key paymentRejected warehouse
      (create "order") "order" rfl).1 (by decide) config sent hsent
    obtain ⟨-, -, declared, -, hconfig, hdomain⟩ := hreach
    exact ⟨declared, hconfig, hdomain⟩
  · refine ((commands_reach_domain_or_key paymentRejected warehouse (notify "order")
      "order" rfl).2 rfl).2.2 ("payment", "ProcessPayment") rfl ?_ config sent hsent
    intro factory hfactory declared hconfig hlists
    simp only [warehouse, List.mem_cons, List.not_mem_nil, or_false] at hfactory
    rcases hfactory with rfl | rfl | rfl
    · cases hconfig
      exact absurd hlists (by decide)
    · cases hconfig
      rfl
    · cases hconfig
      rfl

end AngzarrClient
