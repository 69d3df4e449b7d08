/-
What the routers and the generated handlers read of a request.  A command counts for
the domain of its cover, the payload of its first page, and the events and the next
sequence of its history; everything else on it only travels with it.
-/
import AngzarrClient.Lib.View
import AngzarrClient.Macros.Attribution
import AngzarrClient.Router.CommandRouting
import AngzarrClient.Router.Destinations

namespace AngzarrClient

open Traced

variable {α σ : Type}

/-- The method run an event is, if it is one. -/
def Event.methodRun? : Event → Option MethodRun
  | .ran run => some run
  | _ => none

/-- Two runs with one outcome that run the same methods, on the same payloads. -/
abbrev SameRuns (first second : Run α) : Prop :=
  SameView Event.methodRun? first second

/-- The payloads of a book's pages, in order. -/
def EventBook.payloads (book : EventBook) : List (Option EventPayload) :=
  book.pages.map EventPage.payload

/-- The commands agree in all that is read of them. -/
structure ContextualCommand.ReadsAs (cmd other : ContextualCommand) : Prop where
  payload : commandPayload cmd = commandPayload other
  domain : cmd.coverDomain = other.coverDomain
  history : (cmd.events.getD {}).payloads = (other.events.getD {}).payloads
  nextSequence :
    (cmd.events.getD {}).nextSequence = (other.events.getD {}).nextSequence

/-- The triggers agree in all that is read of them. -/
structure SagaHandleRequest.ReadsAs (request other : SagaHandleRequest) : Prop where
  event : lastEvent sagaErrors request.source = lastEvent sagaErrors other.source
  domain : bookDomain request.source = bookDomain other.source

structure ProcessManagerHandleRequest.ReadsAs
    (request other : ProcessManagerHandleRequest) : Prop where
  event : lastEvent pmErrors request.trigger = lastEvent pmErrors other.trigger
  domain : bookDomain request.trigger = bookDomain other.trigger
  history :
    (request.processState.getD {}).payloads = (other.processState.getD {}).payloads

section State

variable {S Msg : Type}

/-- A page counts for its payload. -/
theorem replayPages_congr (arms : List (AppliesArm S Msg)) (state : S)
    {pages others : List EventPage}
    (hpages : pages.map EventPage.payload = others.map EventPage.payload) :
    replayPages arms state pages = replayPages arms state others := by
  induction pages generalizing state others with
  | nil =>
      rw [List.map_nil] at hpages
      rw [List.map_eq_nil_iff.mp hpages.symm]
  | cons page rest ih =>
      cases others with
      | nil => cases hpages
      | cons other others =>
          rw [List.map_cons, List.map_cons] at hpages
          obtain ⟨hpage, hrest⟩ := List.cons.inj hpages
          rw [replayPages, replayPages, hpage]
          cases other.payload with
          | none => exact ih state hrest
          | some payload =>
              cases payload with
              | external reference => exact ih state hrest
              | event evtAny =>
                  dsimp only
                  cases applyArms state evtAny arms with
                  | error error => rfl
                  | ok next => exact ih next hrest

theorem StateModel.rebuild_congr (model : StateModel S Msg) {book other : EventBook}
    (hbooks : book.payloads = other.payloads) :
    model.rebuild book.pages = model.rebuild other.pages :=
  replayPages_congr model.applies model.initial hbooks

end State

section Handlers

variable {S Msg : Type} {prost : Prost} {handler : Handler}
  {cmd other : ContextualCommand}

/-- The next sequence only counts for a command, not for a notification. -/
theorem Aggregate.dispatchCommand_congr (aggregate : Aggregate S Msg)
    (hpayload : commandPayload cmd = commandPayload other)
    (hhistory : (cmd.events.getD {}).payloads = (other.events.getD {}).payloads)
    (hsequence : ∀ payload, commandPayload other = .ok payload →
      payload.typeUrl ≠ notificationTypeUrl →
      (cmd.events.getD {}).nextSequence = (other.events.getD {}).nextSequence) :
    aggregate.dispatchCommand prost cmd = aggregate.dispatchCommand prost other := by
  have hstate := aggregate.state.rebuild_congr hhistory
  simp only [dispatchCommand, hpayload, hstate]
  cases hother : commandPayload other with
  | error error => rfl
  | ok payload =>
      rw [ofExcept_ok, pure_bind, pure_bind]
      by_cases hkind : payload.typeUrl = notificationTypeUrl
      · simp only [if_pos hkind]
      · simp only [if_neg hkind, hsequence payload hother hkind]

theorem Handler.Generated.dispatch_command (hgenerated : handler.Generated prost)
    (hpayload : commandPayload cmd = commandPayload other)
    (hhistory : (cmd.events.getD {}).payloads = (other.events.getD {}).payloads)
    (hsequence : ∀ payload, commandPayload other = .ok payload →
      payload.typeUrl ≠ notificationTypeUrl →
      (cmd.events.getD {}).nextSequence = (other.events.getD {}).nextSequence) :
    handler.dispatch (.commandHandler cmd) =
      handler.dispatch (.commandHandler other) := by
  cases hgenerated with
  | commandHandler aggregate =>
      exact aggregate.dispatchCommand_congr hpayload hhistory hsequence
  | saga | processManager | projector | upcaster => rfl

theorem Handler.Generated.dispatch_saga (hgenerated : handler.Generated prost)
    {request other : SagaHandleRequest} (hreads : request.ReadsAs other) :
    handler.dispatch (.saga request) = handler.dispatch (.saga other) := by
  cases hgenerated with
  | saga saga =>
      change saga.dispatch (.saga request) = saga.dispatch (.saga other)
      simp only [Saga.dispatch, hreads.event]
  | commandHandler | processManager | projector | upcaster => rfl

theorem Handler.Generated.dispatch_processManager (hgenerated : handler.Generated prost)
    {request other : ProcessManagerHandleRequest} (hreads : request.ReadsAs other) :
    handler.dispatch (.processManager request) =
      handler.dispatch (.processManager other) := by
  cases hgenerated with
  | processManager manager =>
      change manager.dispatch (.processManager request) =
        manager.dispatch (.processManager other)
      simp only [ProcessManager.dispatch, hreads.event,
        manager.state.rebuild_congr hreads.history]
  | commandHandler | saga | projector | upcaster => rfl

/-- A handler that answers two requests alike is called alike. -/
theorem sameRuns_call {request other : HandlerRequest}
    (hdispatch : handler.dispatch request = handler.dispatch other) :
    SameRuns (handler.call request) (handler.call other) := by
  apply sameView_emit_bind rfl rfl
  rw [hdispatch]
  exact .refl _

end Handlers

section Loops

theorem sameRuns_produce_bind {factory : Factory} {f g : Handler → Run α}
    (hfg : SameRuns (f factory.handler) (g factory.handler)) :
    SameRuns (factory.produce >>= f) (factory.produce >>= g) := by
  rw [Factory.produce_bind, Factory.produce_bind]
  exact ⟨hfg.outcome, hfg.shown⟩

variable {selects : HandlerConfig → Bool}
  {unwrap : HandlerResponse → Except ClientError α} {factories : List Factory}

theorem sameRuns_dispatchFirst {request other : HandlerRequest} {otherwise : Run α}
    (hdispatch : ∀ factory ∈ factories,
      factory.handler.dispatch request = factory.handler.dispatch other) :
    SameRuns (dispatchFirst selects request unwrap otherwise factories)
      (dispatchFirst selects other unwrap otherwise factories) := by
  induction factories with
  | nil => exact .refl _
  | cons factory rest ih =>
      rw [List.forall_mem_cons] at hdispatch
      apply sameRuns_produce_bind
      split
      · apply (sameRuns_call hdispatch.1).bind
        exact fun response => .refl _
      · exact ih hdispatch.2

theorem sameRuns_dispatchEach {request other : σ → HandlerRequest}
    {merge : σ → α → σ} {merged : σ}
    (hdispatch : ∀ factory ∈ factories, ∀ state,
      factory.handler.dispatch (request state) =
        factory.handler.dispatch (other state)) :
    SameRuns (dispatchEach selects request unwrap merge merged factories)
      (dispatchEach selects other unwrap merge merged factories) := by
  induction factories generalizing merged with
  | nil => exact .refl _
  | cons factory rest ih =>
      rw [List.forall_mem_cons] at hdispatch
      apply sameRuns_produce_bind
      split
      · apply (sameRuns_call (hdispatch.1 merged)).bind
        intro response
        apply (SameView.refl _).bind
        exact fun answer => ih hdispatch.2
      · exact ih hdispatch.2

end Loops

section Routers

variable {prost : Prost} {factories : List Factory}

theorem scopedCommand_payloads (cmd : ContextualCommand) (seq : UInt32) :
    ((CommandHandlerRouter.scopedCommand cmd seq).events.getD {}).payloads =
      (cmd.events.getD {}).payloads := by
  rw [CommandHandlerRouter.scopedCommand]
  cases cmd.events with
  | none => rfl
  | some book => rfl

theorem ContextualCommand.ReadsAs.initialSeq {cmd other : ContextualCommand}
    (hreads : cmd.ReadsAs other) :
    CommandHandlerRouter.Compensation.start cmd =
      CommandHandlerRouter.Compensation.start other := by
  have hdefault : ∀ cmd : ContextualCommand,
      (cmd.events.map EventBook.nextSequence).getD 0 =
        (cmd.events.getD {}).nextSequence := by
    intro cmd
    cases cmd.events with
    | none => rfl
    | some book => rfl
  simp only [CommandHandlerRouter.Compensation.start, hdefault, hreads.nextSequence]

/-- Commands that agree in what is read of them are dispatched alike. -/
theorem sameRuns_dispatchCommand
    (hgenerated : ∀ factory ∈ factories, factory.handler.Generated prost)
    {cmd other : ContextualCommand} (hreads : cmd.ReadsAs other) :
    SameRuns (CommandHandlerRouter.dispatch prost ⟨factories⟩ cmd)
      (CommandHandlerRouter.dispatch prost ⟨factories⟩ other) := by
  rw [CommandHandlerRouter.dispatch, CommandHandlerRouter.dispatch, extractCommandTypeUrl,
    extractCommandTypeUrl, hreads.payload, hreads.domain]
  cases hpayload : commandPayload other with
  | error error => exact .refl _
  | ok payload =>
      change SameRuns (if payload.typeUrl = notificationTypeUrl then _ else _)
        (if payload.typeUrl = notificationTypeUrl then _ else _)
      by_cases hkind : payload.typeUrl = notificationTypeUrl
      · rw [if_pos hkind, if_pos hkind, CommandHandlerRouter.dispatchRejection,
          CommandHandlerRouter.dispatchRejection, extractRejectionKey,
          extractRejectionKey, hreads.payload, hreads.initialSeq]
        apply (SameView.refl _).bind
        intro key
        refine SameView.bind ?_ fun merged => .refl _
        apply sameRuns_dispatchEach
        intro factory hmem merged
        refine @Handler.Generated.dispatch_command prost factory.handler
          (CommandHandlerRouter.scopedCommand cmd merged.runningSeq)
          (CommandHandlerRouter.scopedCommand other merged.runningSeq)
          (hgenerated factory hmem) hreads.payload ?_ ?_
        · rw [scopedCommand_payloads, scopedCommand_payloads]
          exact hreads.history
        · intro notification hnotification hcommand
          cases hpayload.symm.trans hnotification
          exact absurd hkind hcommand
      · rw [if_neg hkind, if_neg hkind]
        apply sameRuns_dispatchFirst
        intro factory hmem
        exact (hgenerated factory hmem).dispatch_command hreads.payload hreads.history
          fun _ _ _ => hreads.nextSequence

theorem sameRuns_dispatchSaga
    (hgenerated : ∀ factory ∈ factories, factory.handler.Generated prost)
    {request other : SagaHandleRequest} (hreads : request.ReadsAs other) :
    SameRuns (SagaRouter.dispatch ⟨factories⟩ request)
      (SagaRouter.dispatch ⟨factories⟩ other) := by
  rw [SagaRouter.dispatch, SagaRouter.dispatch, extractSagaEventTypeUrl,
    extractSagaEventTypeUrl, extractEventTypeUrl, extractEventTypeUrl, hreads.event,
    hreads.domain]
  apply (SameView.refl _).bind
  intro typeUrl
  apply sameRuns_dispatchEach
  exact fun factory hmem _ => (hgenerated factory hmem).dispatch_saga hreads

theorem sameRuns_dispatchProcessManager
    (hgenerated : ∀ factory ∈ factories, factory.handler.Generated prost)
    {request other : ProcessManagerHandleRequest} (hreads : request.ReadsAs other) :
    SameRuns (ProcessManagerRouter.dispatch ⟨factories⟩ request)
      (ProcessManagerRouter.dispatch ⟨factories⟩ other) := by
  rw [ProcessManagerRouter.dispatch, ProcessManagerRouter.dispatch, extractPmEventTypeUrl,
    extractPmEventTypeUrl, extractEventTypeUrl, extractEventTypeUrl, hreads.event,
    hreads.domain]
  apply (SameView.refl _).bind
  intro typeUrl
  apply sameRuns_dispatchEach
  exact fun factory hmem _ => (hgenerated factory hmem).dispatch_processManager hreads

end Routers

/-- Stamping a command, with or without success, leaves all that is read of it. -/
theorem ContextualCommand.ReadsAs.of_stamp {μ : Type} [OrderedMap μ String UInt32]
    (destinations : Destinations μ) (domain : String) {cmd : ContextualCommand}
    {book : CommandBook} (hbook : cmd.command = some book) :
    cmd.ReadsAs
      { cmd with command := some (destinations.stampCommand book domain).2 } := by
  rw [Destinations.stampCommand]
  cases OrderedMap.get? destinations.sequences domain with
  | none => rw [← hbook]; exact ⟨rfl, rfl, rfl, rfl⟩
  | some seq =>
      refine ⟨?_, ?_, rfl, rfl⟩
      · rw [commandPayload, commandPayload, hbook]
        cases hpages : book.pages with
        | nil => simp [hpages]
        | cons page rest => simp [hpages, CommandPage.stamp]
      · rw [ContextualCommand.coverDomain, ContextualCommand.coverDomain, hbook]
        rfl

/-- Routers over generated handlers run the same methods and answer the same, on two
requests that agree in what is read of them: for a command its domain, the payload of
its first page, and the payloads and the next sequence of its history; for a trigger its
domain, its last event and the payloads of the process state.  A command is dispatched
the same before and after it is stamped. -/
theorem requests_count_for_what_is_read (prost : Prost) (factories : List Factory)
    (hgenerated : ∀ factory ∈ factories, factory.handler.Generated prost) :
    (∀ cmd other : ContextualCommand, cmd.ReadsAs other →
      SameRuns (CommandHandlerRouter.dispatch prost ⟨factories⟩ cmd)
        (CommandHandlerRouter.dispatch prost ⟨factories⟩ other)) ∧
    (∀ request other : SagaHandleRequest, request.ReadsAs other →
      SameRuns (SagaRouter.dispatch ⟨factories⟩ request)
        (SagaRouter.dispatch ⟨factories⟩ other)) ∧
    (∀ request other : ProcessManagerHandleRequest, request.ReadsAs other →
      SameRuns (ProcessManagerRouter.dispatch ⟨factories⟩ request)
        (ProcessManagerRouter.dispatch ⟨factories⟩ other)) ∧
    ∀ {μ : Type} [OrderedMap μ String UInt32] (destinations : Destinations μ)
      (domain : String) (cmd : ContextualCommand) (book : CommandBook),
      cmd.command = some book →
      SameRuns (CommandHandlerRouter.dispatch prost ⟨factories⟩ cmd)
        (CommandHandlerRouter.dispatch prost ⟨factories⟩
          { cmd with command := some (destinations.stampCommand book domain).2 }) := by
  refine ⟨fun cmd other hreads => ?_, fun request other hreads => ?_,
    fun request other hreads => ?_, fun destinations domain cmd book hbook => ?_⟩
  · exact sameRuns_dispatchCommand hgenerated hreads
  · exact sameRuns_dispatchSaga hgenerated hreads
  · exact sameRuns_dispatchProcessManager hgenerated hreads
  · exact sameRuns_dispatchCommand hgenerated (.of_stamp destinations domain hbook)

open Sample in
/-- A snapshot beside the history changes nothing about a command. -/
theorem requests_count_for_what_is_read_sample :
    SameRuns (CommandHandlerRouter.dispatch (prost {}) ⟨[stock, order]⟩ (create "order"))
      (CommandHandlerRouter.dispatch (prost {}) ⟨[stock, order]⟩
        { create "order" with
          events := some { snapshot := some { sequence := 3 } } }) := by
  apply (requests_count_for_what_is_read (prost {}) [stock, order] ?_).1
  · exact ⟨rfl, rfl, rfl, rfl⟩
  · intro factory hmem
    rcases List.mem_cons.mp hmem with rfl | hmem
    · exact .commandHandler (creator "stock")
    · rw [List.mem_singleton.mp hmem]
      exact .commandHandler (creator "order")

end AngzarrClient
