/-
Saga and process-manager fan-out.  A router adds up the answers of the handlers
that listen to the trigger, in registration order and up to the first failure,
so routers over concatenated registrations answer with concatenated responses.
-/
import AngzarrClient.Macros.Saga
import AngzarrClient.Router.Runtime

namespace AngzarrClient

theorem selected_append (selects : HandlerConfig → Bool) (left right : List Factory) :
    selected selects (left ++ right) =
      selected selects left ++ selected selects right := by
  rw [selected, List.map_append, List.filter_append, selected, selected]

section FansOut

variable {α : Type} [AddMonoid α]

/-- How a router fans one request out to its registrations. -/
structure FansOut (dispatch : List Factory → Run α) (selects : HandlerConfig → Bool)
    (request : HandlerRequest) (unwrap : HandlerResponse → Except ClientError α) :
    Prop where
  /-- Concatenated registrations answer with the sum of the answers. -/
  append : ∀ left right a b, (dispatch left).outcome = .ok a →
    (dispatch right).outcome = .ok b → (dispatch (left ++ right)).outcome = .ok (a + b)
  /-- The router fails exactly with the first failure of a matching handler. -/
  error_iff : ∀ factories error, (dispatch factories).outcome = .error error ↔
    ∃ before failing after, selected selects factories = before ++ failing :: after ∧
      (∀ handler ∈ before, ∃ answer, handler.answer unwrap request = .ok answer) ∧
      failing.answer unwrap request = .error error
  /-- Only registered handlers that match are dispatched to. -/
  only_matching : ∀ factories config sent,
    .dispatched config sent ∈ (dispatch factories).trace →
      selects config = true ∧ sent = request ∧
        ∃ factory ∈ factories, factory.handler.config = config
  /-- Without a match the answer is empty. -/
  no_match : ∀ factories, (∀ factory ∈ factories,
    selects factory.handler.config = false) → (dispatch factories).outcome = .ok 0
  /-- A router that answers called every matching handler once, in order. -/
  calls_ok : ∀ factories total, (dispatch factories).outcome = .ok total →
    (∀ handler ∈ selected selects factories,
      ∃ answer, handler.answer unwrap request = .ok answer) ∧
    calls (dispatch factories) =
      (selected selects factories).flatMap fun handler => (handler.call request).trace
  /-- A router that fails called the matching handlers up to the failing one. -/
  calls_error : ∀ factories before failing after error,
    selected selects factories = before ++ failing :: after →
    (∀ handler ∈ before, ∃ answer, handler.answer unwrap request = .ok answer) →
    failing.answer unwrap request = .error error →
    calls (dispatch factories) =
      (before ++ [failing]).flatMap fun handler => (handler.call request).trace

variable (selects : HandlerConfig → Bool) (request : HandlerRequest)
  (unwrap : HandlerResponse → Except ClientError α)

/-- The merging loop as the fan-out routers run it. -/
def fanOut (factories : List Factory) : Run α :=
  dispatchEach selects (fun _ => request) unwrap (· + ·) 0 factories

theorem outcome_fanOut (factories : List Factory) :
    (fanOut selects request unwrap factories).outcome =
      FanOut.gather ((selected selects factories).map fun handler =>
        handler.answer unwrap request) := by
  rw [fanOut, outcome_dispatchEach, outcome_callEach_add]
  cases FanOut.gather ((selected selects factories).map fun handler =>
    handler.answer unwrap request) with
  | error error => rfl
  | ok total => rw [Except.map, zero_add]

theorem calls_fanOut (factories : List Factory) :
    calls (fanOut selects request unwrap factories) =
      (callEach (fun _ => request) unwrap (· + ·) 0
        (selected selects factories)).trace := by
  rw [fanOut, calls_dispatchEach, calls_callEach]

variable {request unwrap}

/-- Handlers that answer are each called once before the rest of the loop. -/
theorem trace_callEach_append {before : List Handler} (merged : α)
    (hbefore : ∀ handler ∈ before, ∃ answer, handler.answer unwrap request = .ok answer)
    (rest : List Handler) :
    ∃ middle, (callEach (fun _ => request) unwrap (· + ·) merged
        (before ++ rest)).trace =
      (before.flatMap fun handler => (handler.call request).trace) ++
        (callEach (fun _ => request) unwrap (· + ·) middle rest).trace := by
  induction before generalizing merged with
  | nil => exact ⟨merged, rfl⟩
  | cons handler before ih =>
      rw [List.forall_mem_cons] at hbefore
      obtain ⟨answer, hanswer⟩ := hbefore.1
      obtain ⟨middle, htrace⟩ := ih (merged + answer) hbefore.2
      refine ⟨middle, ?_⟩
      rw [List.cons_append, callEach_cons_of_ok hanswer, htrace, List.flatMap_cons,
        List.append_assoc]

/-- The merging loop over registrations is a fan-out. -/
theorem fansOut_fanOut :
    FansOut (fanOut selects request unwrap) selects request unwrap where
  append left right a b hleft hright := by
    rw [outcome_fanOut] at hleft hright ⊢
    rw [selected_append, List.map_append, FanOut.gather_append, hleft, hright]
    rfl
  error_iff factories error := by
    rw [outcome_fanOut, FanOut.gather_eq_error_iff]
    constructor
    · intro ⟨before, after, hsplit, hbefore⟩
      obtain ⟨front, tail, hselected, rfl, htail⟩ := List.map_eq_append_iff.mp hsplit
      obtain ⟨failing, back, rfl, hfailing, -⟩ := List.map_eq_cons_iff.mp htail
      refine ⟨front, failing, back, hselected, ?_, hfailing⟩
      intro handler hhandler
      exact hbefore _ (List.mem_map_of_mem hhandler)
    · intro ⟨before, failing, after, hselected, hbefore, hfailing⟩
      refine ⟨before.map fun handler => handler.answer unwrap request,
        after.map fun handler => handler.answer unwrap request, ?_, ?_⟩
      · rw [hselected, List.map_append, List.map_cons, hfailing]
      · intro answer hanswer
        obtain ⟨handler, hhandler, rfl⟩ := List.mem_map.mp hanswer
        exact hbefore handler hhandler
  only_matching factories config sent hmem := by
    rw [← mem_calls, calls_fanOut] at hmem
    obtain ⟨handler, hhandler, rfl, _, hsent⟩ := dispatched_of_mem_callEach hmem
    obtain ⟨hselects, factory, hfactory, rfl⟩ := mem_selected.mp hhandler
    exact ⟨hselects, hsent, factory, hfactory, rfl⟩
  no_match factories hnone := by
    have hempty : selected selects factories = [] := by
      rw [List.eq_nil_iff_forall_not_mem]
      intro handler hhandler
      obtain ⟨hselects, factory, hfactory, rfl⟩ := mem_selected.mp hhandler
      rw [hnone factory hfactory] at hselects
      cases hselects
    rw [outcome_fanOut, hempty]
    rfl
  calls_ok factories total htotal := by
    rw [outcome_fanOut] at htotal
    have hanswers := FanOut.gather_isOk_iff.mp ⟨total, htotal⟩
    have hselected : ∀ handler ∈ selected selects factories,
        ∃ answer, handler.answer unwrap request = .ok answer :=
      fun handler hhandler => hanswers _ (List.mem_map_of_mem hhandler)
    refine ⟨hselected, ?_⟩
    obtain ⟨middle, htrace⟩ := trace_callEach_append (0 : α) hselected []
    rw [List.append_nil] at htrace
    rw [calls_fanOut, htrace, callEach, Traced.trace_pure, List.append_nil]
  calls_error factories before failing after error hselected hbefore hfailing := by
    obtain ⟨middle, htrace⟩ := trace_callEach_append (0 : α) hbefore (failing :: after)
    rw [calls_fanOut, hselected, htrace, callEach_cons_of_error hfailing,
      List.flatMap_append, List.flatMap_singleton]

end FansOut

/-- A saga router fans a well-formed source out to the sagas that listen. -/
theorem SagaRouter.fansOut {request : SagaHandleRequest} {url : String}
    (hurl : extractSagaEventTypeUrl request = .ok url) :
    FansOut (fun factories => SagaRouter.dispatch ⟨factories⟩ request)
      (listens (bookDomain request.source) url) (.saga request) unwrapSaga := by
  have hdispatch : (fun factories => SagaRouter.dispatch ⟨factories⟩ request) =
      fanOut (listens (bookDomain request.source) url) (.saga request) unwrapSaga := by
    funext factories
    exact dispatch_of_url hurl
  rw [hdispatch]
  exact fansOut_fanOut _

/-- A process-manager router does the same with a well-formed trigger. -/
theorem ProcessManagerRouter.fansOut {request : ProcessManagerHandleRequest}
    {url : String} (hurl : extractPmEventTypeUrl request = .ok url) :
    FansOut (fun factories => ProcessManagerRouter.dispatch ⟨factories⟩ request)
      (listens (bookDomain request.trigger) url) (.processManager request)
      unwrapProcessManager := by
  have hdispatch : (fun factories => ProcessManagerRouter.dispatch ⟨factories⟩ request) =
      fanOut (listens (bookDomain request.trigger) url) (.processManager request)
        unwrapProcessManager := by
    funext factories
    exact dispatch_of_url hurl
  rw [hdispatch]
  exact fansOut_fanOut _

/-- A saga that listens to the source runs one method on its last event unless
this does not decode. -/
theorem Saga.runs_of_listens {Msg : Type} {saga : Saga Msg} {request : SagaHandleRequest}
    {url : String} (hurl : extractSagaEventTypeUrl request = .ok url)
    (hlistens : SagaRouter.listens (bookDomain request.source) url
      saga.handler.config = true) :
    ∃ event, lastEvent sagaErrors request.source = .ok event ∧
      (RunsOneMethod saga.handles event (saga.dispatch (.saga request)).trace ∨
        FailsToDecode saga.handles event (saga.dispatch (.saga request))) := by
  obtain ⟨event, hevent, rfl, -⟩ := extractEventTypeUrl_eq_ok_iff.mp hurl
  have hhandled : saga.source.value = bookDomain request.source ∧
      event.typeUrl ∈ armUrls saga.handles := by
    simpa [SagaRouter.listens, handler, config] using hlistens
  exact ⟨event, hevent, runs_or_fails hevent hhandled.2⟩

theorem ProcessManager.runs_of_listens {S Msg : Type} {manager : ProcessManager S Msg}
    {request : ProcessManagerHandleRequest} {url : String}
    (hurl : extractPmEventTypeUrl request = .ok url)
    (hlistens : ProcessManagerRouter.listens (bookDomain request.trigger) url
      manager.handler.config = true) :
    ∃ event, lastEvent pmErrors request.trigger = .ok event ∧
      (RunsOneMethod manager.handles event
          (manager.dispatch (.processManager request)).trace ∨
        FailsToDecode manager.handles event
            (manager.dispatch (.processManager request)) ∨
          manager.state.FailsToRebuild (request.processState.getD {}).pages
            (manager.dispatch (.processManager request))) := by
  obtain ⟨event, hevent, rfl, -⟩ := extractEventTypeUrl_eq_ok_iff.mp hurl
  have hhandled : bookDomain request.trigger ∈
        manager.sources.map NonEmptyString.value ∧
      event.typeUrl ∈ armUrls manager.handles := by
    simpa only [ProcessManagerRouter.listens, handler, config, decide_eq_true_eq]
      using hlistens
  exact ⟨event, hevent, runs_or_fails hevent hhandled.2⟩

/-- A handler that answers did not fail. -/
theorem outcome_ne_error_of_answer {β : Type} {handler : Handler}
    {request : HandlerRequest} {unwrap : HandlerResponse → Except ClientError β}
    {answer : β} (hanswer : handler.answer unwrap request = .ok answer)
    (error : ClientError) : (handler.dispatch request).outcome ≠ .error error := by
  intro herror
  rw [Handler.answer, herror] at hanswer
  cases hanswer

/-- Fan-out over registrations.  On a well-formed trigger both routers fan out,
and a generated handler that listens to it runs exactly one method, once, on the
last page's event if it answers, in particular if the dispatch succeeds; if it
fails it runs that method or none: none when the event does not decode for its arm or,
with a process manager, a page of its history does not. -/
theorem triggers_fan_out (S Msg : Type) :
    (∀ request url, extractSagaEventTypeUrl request = .ok url →
      FansOut (fun factories => SagaRouter.dispatch ⟨factories⟩ request)
        (SagaRouter.listens (bookDomain request.source) url) (.saga request)
        SagaRouter.unwrapSaga ∧
      (∀ factories total, (SagaRouter.dispatch ⟨factories⟩ request).outcome = .ok total →
        ∀ saga : Saga Msg,
          saga.handler ∈ selected (SagaRouter.listens (bookDomain request.source) url)
            factories →
          ∃ event, lastEvent sagaErrors request.source = .ok event ∧
            RunsOneMethod saga.handles event (saga.dispatch (.saga request)).trace) ∧
      (∀ saga : Saga Msg, SagaRouter.listens (bookDomain request.source) url
          saga.handler.config = true →
        ∃ event, lastEvent sagaErrors request.source = .ok event ∧
          (RunsOneMethod saga.handles event (saga.dispatch (.saga request)).trace ∨
            FailsToDecode saga.handles event (saga.dispatch (.saga request))))) ∧
    (∀ request url, extractPmEventTypeUrl request = .ok url →
      FansOut (fun factories => ProcessManagerRouter.dispatch ⟨factories⟩ request)
        (ProcessManagerRouter.listens (bookDomain request.trigger) url)
        (.processManager request) ProcessManagerRouter.unwrapProcessManager ∧
      (∀ factories total,
        (ProcessManagerRouter.dispatch ⟨factories⟩ request).outcome = .ok total →
        ∀ manager : ProcessManager S Msg,
          manager.handler ∈ selected
            (ProcessManagerRouter.listens (bookDomain request.trigger) url) factories →
          ∃ event, lastEvent pmErrors request.trigger = .ok event ∧
            RunsOneMethod manager.handles event
              (manager.dispatch (.processManager request)).trace) ∧
      (∀ manager : ProcessManager S Msg,
        ProcessManagerRouter.listens (bookDomain request.trigger) url
          manager.handler.config = true →
        ∃ event, lastEvent pmErrors request.trigger = .ok event ∧
          (RunsOneMethod manager.handles event
              (manager.dispatch (.processManager request)).trace ∨
            FailsToDecode manager.handles event
                (manager.dispatch (.processManager request)) ∨
              manager.state.FailsToRebuild (request.processState.getD {}).pages
                (manager.dispatch (.processManager request))))) := by
  constructor
  · intro request url hurl
    have hfan := SagaRouter.fansOut hurl
    refine ⟨hfan, ?_, fun saga hlistens => Saga.runs_of_listens hurl hlistens⟩
    intro factories total htotal saga hmem
    obtain ⟨answer, hanswer⟩ := (hfan.calls_ok factories total htotal).1 _ hmem
    obtain ⟨event, hevent, hruns⟩ := Saga.runs_of_listens hurl (mem_selected.mp hmem).1
    refine ⟨event, hevent, hruns.resolve_right ?_⟩
    rintro ⟨-, _, -, herror⟩
    exact outcome_ne_error_of_answer hanswer _ herror
  · intro request url hurl
    have hfan := ProcessManagerRouter.fansOut hurl
    refine ⟨hfan, ?_,
      fun manager hlistens => ProcessManager.runs_of_listens hurl hlistens⟩
    intro factories total htotal manager hmem
    obtain ⟨answer, hanswer⟩ := (hfan.calls_ok factories total htotal).1 _ hmem
    obtain ⟨event, hevent, hruns⟩ :=
      ProcessManager.runs_of_listens hurl (mem_selected.mp hmem).1
    refine ⟨event, hevent, hruns.resolve_right ?_⟩
    rintro (⟨-, _, -, herror⟩ | ⟨-, -, _, -, herror⟩)
    · exact outcome_ne_error_of_answer hanswer _ herror
    · exact outcome_ne_error_of_answer hanswer _ herror

namespace Sample

/-- A saga from `order` to `target` that reserves on `order.Created`. -/
def reserveSaga (target : String) : Saga Bool where
  name := named "saga-reserve"
  source := named "order"
  target := named target
  handles := [⟨"reserve", flagType "order.Created", fun _ _ =>
    .ok { commands := [commandBook target "stock.Reserve" []] }⟩]

/-- An `order.Created` event with the given bytes. -/
def orderCreated (value : Bytes) : SagaHandleRequest where
  source := some
    { cover := some { domain := "order" }
      pages := [eventPage "type.googleapis.com/order.Created" value] }

end Sample

open Sample in
/-- A matched saga runs no method at all on an event that does not decode. -/
theorem undecodable_trigger_runs_nothing :
    extractSagaEventTypeUrl (orderCreated [7]) =
        .ok "type.googleapis.com/order.Created" ∧
      SagaRouter.listens "order" "type.googleapis.com/order.Created"
        (reserveSaga "stock").handler.config = true ∧
      calls (SagaRouter.dispatch ⟨[(reserveSaga "stock").factory]⟩
          (orderCreated [7])) =
        [.dispatched (reserveSaga "stock").handler.config
          (.saga (orderCreated [7]))] ∧
      ¬ ∃ event, RunsOneMethod (reserveSaga "stock").handles event
        ((reserveSaga "stock").dispatch (.saga (orderCreated [7]))).trace := by
  refine ⟨by decide, by decide, by rfl, ?_⟩
  rintro ⟨event, arm, _, _, htrace⟩
  cases htrace

open Sample in
/-- Two routers over one saga each, and the router over both. -/
theorem triggers_fan_out_sample :
    (SagaRouter.dispatch ⟨[(reserveSaga "stock").factory] ++
        [(reserveSaga "depot").factory]⟩ (orderCreated [])).outcome =
      .ok ({ commands := [commandBook "stock" "stock.Reserve" []] } +
        { commands := [commandBook "depot" "stock.Reserve" []] }) := by
  have hurl : extractSagaEventTypeUrl (orderCreated []) =
      .ok "type.googleapis.com/order.Created" := by decide
  have hfan := ((triggers_fan_out Bool Bool).1 (orderCreated []) _ hurl).1
  exact hfan.append _ _ _ _ (by rfl) (by rfl)

end AngzarrClient
