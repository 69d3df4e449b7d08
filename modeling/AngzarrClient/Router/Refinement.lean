/-
The routers of commands and triggers compute what the programs over the impl blocks say:
an observer who is shown the methods that run, and no factory or call, sees the program's
run, error for error.
-/
import AngzarrClient.Router.Observed
import AngzarrClient.Router.Program

namespace AngzarrClient

open CommandHandlerRouter Traced

section Notification

variable {prost : Prost} {delivery : ContextualCommand} {payload : Any}
  {notification : Notification} {rejection : RejectionNotification}

theorem reactsTo_eq_isSome (any : AnyAggregate) (key : String × String)
    (pages : List EventPage) :
    reactsTo key (any.factory prost).handler.config =
      (any.reaction key notification payload pages).isSome := by
  rw [Bool.eq_iff_iff, AnyAggregate.reaction, Option.isSome_map, List.find?_isSome]
  simp [reactsTo, AnyAggregate.factory, Aggregate.factory, Aggregate.handler,
    Aggregate.config, eq_comm]

/-- A handler that reacts does so whatever the sequence that it is sent. -/
theorem dispatch_of_reaction (hpayload : commandPayload delivery = .ok payload)
    (hkind : payload.typeUrl = notificationTypeUrl)
    (hopen : openNotification prost payload = .ok (notification, rejection))
    {any : AnyAggregate} {run : HandlerRun BusinessResponse}
    (hreaction : any.reaction rejection.key notification payload
      (delivery.events.getD {}).pages = some run) (seq : UInt32) :
    (any.factory prost).handler.dispatch
        (.commandHandler (scopedCommand delivery seq)) = .commandHandler <$> run := by
  obtain ⟨arm, harm, rfl⟩ := Option.map_eq_some_iff.mp hreaction
  change any.aggregate.dispatchCommand prost (scopedCommand delivery seq) = _
  have hscoped : any.aggregate.dispatchCommand prost (scopedCommand delivery seq) =
      any.aggregate.dispatchCommand prost delivery := by
    apply any.aggregate.dispatchCommand_congr
    · rfl
    · cases hevents : delivery.events with
      | none => simp [scopedCommand, hevents]
      | some book => simp [scopedCommand, hevents, EventBook.payloads]
    · intro other hother hne
      rw [hpayload] at hother
      cases hother
      exact absurd hkind hne
  rw [hscoped]
  cases hstate : any.aggregate.state.rebuild (delivery.events.getD {}).pages with
  | error error =>
      rw [Aggregate.dispatchCommand_of_rebuild_error hpayload hstate]
      rfl
  | ok state =>
      rw [Aggregate.dispatchCommand_of_notification hpayload hkind hstate hopen,
        runRejectedArms_eq, harm]
      simp [Aggregate.rejectionResponse]

theorem foldl_merge_eq (answers : List BusinessResponse) (merged : Compensation) :
    answers.foldl Compensation.merge merged =
      { runningSeq := merged.runningSeq +
          UInt32.ofNat (answers.flatMap BusinessResponse.eventPages).length
        pages := merged.pages ++ answers.flatMap BusinessResponse.eventPages } := by
  induction answers generalizing merged with
  | nil => simp
  | cons answer rest ih =>
      rw [List.foldl_cons, ih, Compensation.merge_eq]
      simp [UInt32.ofNat_add, UInt32.add_assoc]

theorem response_foldl_merge (delivery : ContextualCommand)
    (answers : List BusinessResponse) :
    (answers.foldl Compensation.merge (Compensation.start delivery)).response =
      compensations delivery answers := by
  rw [foldl_merge_eq]
  rfl

/-- The router runs the reactions of its aggregates in turn. -/
theorem methodsOf_dispatch_of_notification (hpayload : commandPayload delivery = .ok payload)
    (hkind : payload.typeUrl = notificationTypeUrl)
    (hopen : openNotification prost payload = .ok (notification, rejection))
    (aggregates : List AnyAggregate) :
    methodsOf (dispatch prost ⟨aggregates.map (AnyAggregate.factory prost)⟩ delivery) =
      compensations delivery <$> (aggregates.filterMap
        (AnyAggregate.reaction rejection.key notification payload
          (delivery.events.getD {}).pages)).mapM id := by
  have hurl := extractCommandTypeUrl_eq_ok_iff.mpr ⟨payload, hpayload, hkind⟩
  have hkey := extractRejectionKey_eq_ok_iff.mpr
    ⟨payload, notification, rejection, hpayload, hopen, rfl⟩
  have hloop := @methodsOf_dispatchEach_const _ _ _ (AnyAggregate.factory prost) _
    unwrapCommand .commandHandler _ (rejectionRequest delivery) Compensation.merge
    (fun any => reactsTo_eq_isSome any rejection.key (delivery.events.getD {}).pages)
    (fun any run merged hreaction =>
      dispatch_of_reaction hpayload hkind hopen hreaction merged.runningSeq)
    (fun answer => rfl) aggregates (Compensation.start delivery)
  rw [dispatch, hurl, ofExcept_ok, pure_bind, if_pos rfl, dispatchRejection, hkey,
    ofExcept_ok, pure_bind, methodsOf_bind, hloop]
  simp [response_foldl_merge]

end Notification

section Command

variable {prost : Prost} {cmd : ContextualCommand} {payload : Any}

theorem isSome_firstArm {Msg In Out : Type} (url : String)
    (arms : List (TypedArm Msg In Out)) :
    (firstArm url arms).isSome = decide (url ∈ armUrls arms) := by
  by_cases hmem : url ∈ armUrls arms
  · rw [decide_eq_true hmem, Option.isSome_iff_ne_none]
    exact fun hnone => firstArm_eq_none_iff.mp hnone hmem
  · rw [decide_eq_false hmem, firstArm_eq_none_iff.mpr hmem]
    rfl

theorem routesCommand_eq_isSome (any : AnyAggregate) :
    routesCommand (cmd.coverDomain.getD "") payload.typeUrl
        (any.factory prost).handler.config = (any.command cmd payload).isSome := by
  change decide (any.aggregate.domain.value = cmd.coverDomain.getD "" ∧
    payload.typeUrl ∈ armUrls any.aggregate.handles) = _
  rw [AnyAggregate.command]
  by_cases hdomain : any.aggregate.domain.value = cmd.coverDomain.getD ""
  · rw [if_pos hdomain, Option.isSome_map, isSome_firstArm]
    simp [hdomain]
  · rw [if_neg hdomain]
    simp [hdomain]

theorem AnyAggregate.dispatch_of_command (hpayload : commandPayload cmd = .ok payload)
    (hkind : payload.typeUrl ≠ notificationTypeUrl) {any : AnyAggregate}
    {run : HandlerRun BusinessResponse} (hcommand : any.command cmd payload = some run) :
    (any.factory prost).handler.dispatch (.commandHandler cmd) =
      .commandHandler <$> run := by
  rw [AnyAggregate.command, Option.ite_none_right_eq_some] at hcommand
  obtain ⟨-, hcommand⟩ := hcommand
  obtain ⟨arm, harm, rfl⟩ := Option.map_eq_some_iff.mp hcommand
  change any.aggregate.dispatchCommand prost cmd = _
  cases hstate : any.aggregate.state.rebuild (cmd.events.getD {}).pages with
  | error error =>
      rw [Aggregate.dispatchCommand_of_rebuild_error hpayload hstate]
      rfl
  | ok state =>
      rw [Aggregate.dispatchCommand_of_command hpayload hkind hstate, harm, ofExcept_ok,
        pure_bind, map_bind]
      exact map_eq_pure_bind _ _

theorem methodsOf_dispatch_command (prost : Prost) (aggregates : List AnyAggregate)
    (cmd : ContextualCommand) :
    methodsOf (dispatch prost ⟨aggregates.map (AnyAggregate.factory prost)⟩ cmd) =
      serveCommand prost aggregates cmd := by
  rw [serveCommand]
  cases hpayload : commandPayload cmd with
  | error error =>
      have hurl : extractCommandTypeUrl cmd = .error error := by
        rw [extractCommandTypeUrl, hpayload]
        rfl
      rw [dispatch, hurl]
      rfl
  | ok payload =>
      have hurl := extractCommandTypeUrl_eq_ok_iff.mpr ⟨payload, hpayload, rfl⟩
      rw [ofExcept_ok, pure_bind]
      by_cases hkind : payload.typeUrl = notificationTypeUrl
      · rw [if_pos hkind]
        cases hopen : openNotification prost payload with
        | error error =>
            have hkey : extractRejectionKey prost cmd = .error error := by
              rw [extractRejectionKey, hpayload]
              change Except.bind (openNotification prost payload) _ = _
              rw [hopen]
              rfl
            rw [dispatch, hurl, ofExcept_ok, pure_bind, if_pos hkind, dispatchRejection,
              hkey]
            rfl
        | ok opened => exact methodsOf_dispatch_of_notification hpayload hkind hopen _
      · rw [if_neg hkind, dispatch, hurl, ofExcept_ok, pure_bind, if_neg hkind]
        rw [methodsOf_dispatchFirst .commandHandler routesCommand_eq_isSome
          (fun any run => AnyAggregate.dispatch_of_command hpayload hkind) (fun answer => rfl)]
        cases aggregates.findSome? (AnyAggregate.command cmd payload) with
        | none => rfl
        | some run => rfl

end Command

section Facts

variable (prost : Prost) (aggregates : List AnyAggregate)

theorem AnyAggregate.dispatch_fact (request : FactRequest) (any : AnyAggregate) :
    (any.factory prost).handler.dispatch (.handleFact request) =
      .handleFact <$> any.fact request := by
  change any.aggregate.dispatchFact request = _
  rw [Aggregate.dispatchFact, fact]
  simp

theorem AnyAggregate.dispatch_replay (request : ReplayRequest) (any : AnyAggregate) :
    (any.factory prost).handler.dispatch (.replay request) =
      .replay <$> any.replay request := by
  change any.aggregate.dispatchReplay request = _
  rw [Aggregate.dispatchReplay, replay]
  cases any.aggregate.replay with
  | none => rfl
  | some codec => simp

theorem methodsOf_dispatchFact (request : FactRequest) :
    methodsOf (dispatchFact ⟨aggregates.map (AnyAggregate.factory prost)⟩ request) =
      serveFact aggregates request := by
  rw [dispatchFact, methodsOf_dispatchFirst .handleFact
    (fun any => Option.isSome_some.symm : ∀ any : AnyAggregate,
      isCommandHandler (any.factory prost).handler.config = (some (any.fact request)).isSome)
    (fun any run hrun => by
      cases hrun
      exact any.dispatch_fact prost request) (fun answer => rfl)]
  cases aggregates with
  | nil => rfl
  | cons any rest => rfl

theorem methodsOf_dispatchReplay (request : ReplayRequest) :
    methodsOf (dispatchReplay ⟨aggregates.map (AnyAggregate.factory prost)⟩ request) =
      serveReplay aggregates request := by
  rw [dispatchReplay, methodsOf_dispatchFirst .replay
    (fun any => Option.isSome_some.symm : ∀ any : AnyAggregate,
      isCommandHandler (any.factory prost).handler.config = (some (any.replay request)).isSome)
    (fun any run hrun => by
      cases hrun
      exact any.dispatch_replay prost request) (fun answer => rfl)]
  cases aggregates with
  | nil => rfl
  | cons any rest => rfl

end Facts

section Sums

/-- Answers that are added up in turn. -/
theorem foldl_add_eq {M : Type} [AddMonoid M] (answers : List M) (total : M) :
    answers.foldl (· + ·) total = total + answers.sum := by
  induction answers generalizing total with
  | nil => simp
  | cons answer rest ih => rw [List.foldl_cons, ih, List.sum_cons, add_assoc]

theorem AnySaga.listens_eq_isSome (request : SagaHandleRequest) (url : String)
    (any : AnySaga) :
    SagaRouter.listens (bookDomain request.source) url any.factory.handler.config =
      (any.reaction request url).isSome := by
  change decide (any.saga.source.value = bookDomain request.source ∧
    url ∈ armUrls any.saga.handles) = _
  rw [reaction]
  by_cases hdomain : any.saga.source.value = bookDomain request.source
  · rw [if_pos hdomain, Option.isSome_map, isSome_firstArm]
    simp [hdomain]
  · rw [if_neg hdomain]
    simp [hdomain]

theorem AnySaga.dispatch_of_reaction {request : SagaHandleRequest} {url : String}
    (hurl : extractSagaEventTypeUrl request = .ok url) {any : AnySaga}
    {run : HandlerRun SagaResponse} (hreaction : any.reaction request url = some run) :
    any.factory.handler.dispatch (.saga request) = .saga <$> run := by
  obtain ⟨event, hevent, rfl, -⟩ := extractEventTypeUrl_eq_ok_iff.mp hurl
  rw [reaction, Option.ite_none_right_eq_some] at hreaction
  obtain ⟨arm, harm, rfl⟩ := Option.map_eq_some_iff.mp hreaction.2
  change any.saga.dispatch (.saga request) = _
  rw [Saga.dispatch_of_event hevent, runArms_eq, harm, hevent, ofExcept_ok, pure_bind]
  simp

theorem methodsOf_dispatchSaga (sagas : List AnySaga) (request : SagaHandleRequest) :
    methodsOf (SagaRouter.dispatch ⟨sagas.map AnySaga.factory⟩ request) =
      serveSaga sagas request := by
  rw [serveSaga]
  cases hurl : extractSagaEventTypeUrl request with
  | error error =>
      rw [SagaRouter.dispatch_of_no_url hurl]
      rfl
  | ok url =>
      rw [SagaRouter.dispatch_of_url hurl, ofExcept_ok, pure_bind,
        methodsOf_dispatchEach_const .saga _ (AnySaga.listens_eq_isSome request url)
          (fun any run _ => AnySaga.dispatch_of_reaction hurl) (fun answer => rfl)]
      simp only [foldl_add_eq, zero_add]

theorem AnyProcessManager.listens_eq_isSome (request : ProcessManagerHandleRequest)
    (url : String) (any : AnyProcessManager) :
    ProcessManagerRouter.listens (bookDomain request.trigger) url
        any.factory.handler.config = (any.reaction request url).isSome := by
  change decide (bookDomain request.trigger ∈ any.manager.sources.map NonEmptyString.value ∧
    url ∈ armUrls any.manager.handles) = _
  rw [reaction]
  by_cases hdomain : bookDomain request.trigger ∈
      any.manager.sources.map NonEmptyString.value
  · rw [if_pos hdomain, Option.isSome_map, isSome_firstArm]
    simp only [hdomain, true_and]
  · rw [if_neg hdomain]
    simp only [hdomain, false_and, decide_false, Option.isSome_none]

theorem AnyProcessManager.dispatch_of_reaction {request : ProcessManagerHandleRequest}
    {url : String} (hurl : extractPmEventTypeUrl request = .ok url)
    {any : AnyProcessManager} {run : HandlerRun ProcessManagerHandleResponse}
    (hreaction : any.reaction request url = some run) :
    any.factory.handler.dispatch (.processManager request) = .processManager <$> run := by
  obtain ⟨event, hevent, rfl, -⟩ := extractEventTypeUrl_eq_ok_iff.mp hurl
  rw [reaction, Option.ite_none_right_eq_some] at hreaction
  obtain ⟨arm, harm, rfl⟩ := Option.map_eq_some_iff.mp hreaction.2
  change any.manager.dispatch (.processManager request) = _
  cases hstate : any.manager.state.rebuild (request.processState.getD {}).pages with
  | error error =>
      rw [ProcessManager.dispatch_of_rebuild_error hstate]
      rfl
  | ok state =>
      rw [ProcessManager.dispatch_of_event hstate hevent, runArms_eq, harm, hevent,
        ofExcept_ok, pure_bind, ofExcept_ok, pure_bind]
      simp

theorem methodsOf_dispatchProcessManager (managers : List AnyProcessManager)
    (request : ProcessManagerHandleRequest) :
    methodsOf (ProcessManagerRouter.dispatch
        ⟨managers.map AnyProcessManager.factory⟩ request) =
      serveProcessManager managers request := by
  rw [serveProcessManager]
  cases hurl : extractPmEventTypeUrl request with
  | error error =>
      rw [ProcessManagerRouter.dispatch_of_no_url hurl]
      rfl
  | ok url =>
      rw [ProcessManagerRouter.dispatch_of_url hurl, ofExcept_ok, pure_bind,
        methodsOf_dispatchEach_const .processManager _
          (AnyProcessManager.listens_eq_isSome request url)
          (fun any run _ => AnyProcessManager.dispatch_of_reaction hurl) (fun answer => rfl)]
      simp only [foldl_add_eq, zero_add]

end Sums

end AngzarrClient
