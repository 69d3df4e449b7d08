/-
Given some events, when a command comes in: what the method of a generated aggregate is
handed, for a test that states the events as messages and for the command that the
production builder sends.
-/
import AngzarrClient.Client.CommandBuilder
import AngzarrClient.Router.RunsArm
import AngzarrClient.Testing.Scenario

namespace AngzarrClient

open CommandSetter LastWrite ScenarioStep RoutingTable

variable {S Msg Strategy : Type}

/-- What an event says to the state.  Of an event stated as a message, it is the message
itself that is applied. -/
def StateModel.applyGiven (model : StateModel S Msg) (state : S)
    (event : GivenEvent Msg) : S :=
  match model.applier event.any.typeUrl with
  | none => state
  | some arm =>
      match event with
      | .stated _ message => arm.apply state message
      | .packed any =>
          match arm.eventType.decode any.value with
          | .ok message => arm.apply state message
          | .error _ => state

/-- The method that applies the event reads back the message that was stated, or can
read what was packed. -/
def StateModel.ReadsBack (model : StateModel S Msg) (event : GivenEvent Msg) : Prop :=
  ∀ arm, model.applier event.any.typeUrl = some arm →
    match event with
    | .stated codec message =>
        arm.eventType.decode (codec.encode message) = .ok message
    | .packed any => ∃ message, arm.eventType.decode any.value = .ok message

section State

variable (model : StateModel S Msg)

theorem applyArms_given (state : S) {event : GivenEvent Msg}
    (hreads : model.ReadsBack event) :
    applyArms state event.any model.applies = .ok (model.applyGiven state event) := by
  rw [StateModel.applyArms_eq, StateModel.applyGiven]
  change (match model.applier event.any.typeUrl with
    | none => Except.ok state
    | some arm => arm.execute state event.any) = _
  cases happlier : model.applier event.any.typeUrl with
  | none => rfl
  | some arm =>
      have hdecode := hreads arm happlier
      cases event with
      | stated codec message =>
          dsimp only at hdecode ⊢
          rw [AppliesArm.execute, GivenEvent.any, packEvent, hdecode]
      | packed any =>
          obtain ⟨message, hmessage⟩ := hdecode
          dsimp only
          rw [AppliesArm.execute, GivenEvent.any, hmessage]

theorem replayPages_given (state : S) {events : List (GivenEvent Msg)}
    (hreads : ∀ event ∈ events, model.ReadsBack event) :
    replayPages model.applies state
        (events.map fun event => { payload := some (.event event.any) }) =
      .ok (events.foldl model.applyGiven state) := by
  induction events generalizing state with
  | nil => rfl
  | cons event rest ih =>
      rw [List.forall_mem_cons] at hreads
      rw [List.map_cons, List.foldl_cons, ← ih _ hreads.2, replayPages]
      dsimp only
      rw [applyArms_given model state hreads.1]

/-- The state rebuilt from the book of a test is the fold of its events. -/
theorem rebuild_eventBook (clock : Nat → Timestamp) (steps : List (ScenarioStep Msg))
    (hreads : ∀ event ∈ given steps, model.ReadsBack event) :
    model.rebuild ((run steps).eventBook clock).pages =
      .ok ((given steps).foldl model.applyGiven model.initial) := by
  rw [← replayPages_given model model.initial hreads]
  apply replayPages_congr
  rw [payload_pages_eventBook, events_run, List.map_map, List.map_map]
  rfl

end State

/-- Given the events of a test, a command for the aggregate runs its method on the
message, the fold of the events of its history, and their number.  It does not
matter whether the harness or the production builder made the command. -/
theorem given_when_then [MergeStrategies Strategy] (prost : Prost)
    {router : CommandHandlerRouter} (haccepted : router.Accepted)
    (hgenerated : ∀ factory ∈ router.factories, factory.handler.Generated prost)
    {aggregate : Aggregate S Msg} (hmem : aggregate.factory prost ∈ router.factories)
    (clock : Nat → Timestamp) {steps : List (ScenarioStep Msg)}
    (hgiven : ∀ event ∈ given steps, aggregate.state.ReadsBack event)
    {codec : EventCodec Msg} {message : Msg} {arm : TypedArm Msg (S × UInt32) EventBook}
    (hkind : fullTypeUrl codec.toMessageType ≠ notificationTypeUrl)
    (harm : firstArm (fullTypeUrl codec.toMessageType) aggregate.handles = some arm)
    (hdecode : arm.messageType.decode (codec.encode message) = .ok message)
    (root : Uuid) (correlationId : String) (sequence : Option UInt32) :
    let history := (run steps).eventBook clock
    let state := (given steps).foldl aggregate.state.applyGiven aggregate.state.initial
    let book := makeCommandBook (makeCover aggregate.domain.value root correlationId)
      (packEvent codec message) sequence
    let dispatched := router.dispatch prost ⟨some book, some history⟩
    dispatched.outcome =
        ((arm.run message (state, UInt32.ofNat (given steps).length)).mapError
          ClientError.rejected).map (fun events => { result := some (.events events) }) ∧
      dispatched.trace.filterMap Event.methodRun? =
        [⟨arm.method, .handles (fullTypeUrl codec.toMessageType),
          packEvent codec message⟩] ∧
      ∀ (fresh : String) (other : Uuid) (setters : List (CommandSetter Strategy Msg))
        (built : CommandBook),
        last? command? setters = some (fullTypeUrl codec.toMessageType, message) →
        (applyAll codec.encode (CommandBuilder.new aggregate.domain.value other)
          setters).build fresh = .ok built →
        SameRuns (router.dispatch prost ⟨some built, some history⟩) dispatched := by
  intro history state book dispatched
  have hsequence : history.nextSequence = UInt32.ofNat (given steps).length := by
    rw [nextSequence_eventBook, events_run, List.length_map]
  obtain ⟨houtcome, hruns⟩ := @dispatch_runs_arm _ _ prost router aggregate haccepted hmem
    ⟨some book, some history⟩ _ arm message state rfl rfl hkind harm hdecode
    (rebuild_eventBook aggregate.state clock steps hgiven)
  refine ⟨?_, hruns, fun fresh other setters built hcommand hbuild => ?_⟩
  · rw [← hsequence]
    exact houtcome
  · obtain ⟨typeUrl, sent, hsent, hpayload⟩ :=
      (CommandBuilder.saysLast_of_build hbuild).command
    cases hcommand.symm.trans hsent
    apply sameRuns_dispatchCommand hgenerated
    refine ⟨hpayload _, ?_, rfl, rfl⟩
    exact (CommandBuilder.saysLast_of_build hbuild).domain

namespace Sample

/-- A strategy enumeration with one value. -/
@[reducible] def oneStrategy : MergeStrategies PUnit where
  asI32 _ := 0
  tryFrom _ := some ⟨⟩
  tryFrom_asI32 _ := rfl
  mergeCommutative := ⟨⟩

/-- The message of one type, written as it is read. -/
def flagMessage (fullName : String) : EventCodec Bool where
  toMessageType := flagType fullName
  encode flag := if flag then [8, 1] else []

/-- It reports the flag, and how long the history is. -/
def report : TypedArm Bool (Bool × UInt32) EventBook where
  method := "report"
  messageType := flagType "order.Report"
  run _ input := .ok {
    pages := [eventPage (if input.1 then "order.IsSet" else "order.IsUnset") []]
    nextSequence := input.2 }

def reporter : Aggregate Bool Bool where
  domain := named "order"
  state := flagState
  handles := [report]

/-- A test that starts over after its first event, and packs the last but one itself. -/
def toggledTwice : List (ScenarioStep Bool) :=
  [.addEvent (flagMessage "order.Toggled") true, .clearEvents,
    .pushEvent (packEvent (flagMessage "order.Toggled") false),
    .addEvent (flagMessage "order.Toggled") true]

theorem readsBack_packed (flag : Bool) :
    flagState.ReadsBack (.packed (packEvent (flagMessage "order.Toggled") flag)) := by
  intro arm harm
  have hfirst : some ⟨"apply_toggled", toggled, fun _ flag => flag⟩ = some arm := harm
  cases hfirst
  exact ⟨flag, by cases flag <;> rfl⟩

theorem readsBack_stated (flag : Bool) :
    flagState.ReadsBack (.stated (flagMessage "order.Toggled") flag) := by
  intro arm harm
  have hfirst : some ⟨"apply_toggled", toggled, fun _ flag => flag⟩ = some arm := harm
  cases hfirst
  cases flag <;> rfl

end Sample

open Sample in
/-- The method sees the flag that was set last, and two events. -/
theorem given_when_then_sample :
    (CommandHandlerRouter.dispatch (prost {}) ⟨[reporter.factory (prost {})]⟩
      ⟨some (makeCommandBook (makeCover "order" .zero "")
        (packEvent (flagMessage "order.Report") true) none),
        some ((run toggledTwice).eventBook fun _ => {})⟩).outcome =
      .ok { result := some (.events
        { pages := [eventPage "order.IsSet" []], nextSequence := 2 }) } := by
  have hgenerated : ∀ factory ∈ [reporter.factory (prost {})],
      factory.handler.Generated (prost {}) := by
    intro factory hmem
    rw [List.mem_singleton.mp hmem]
    exact .commandHandler reporter
  have hreads : ∀ event ∈ given toggledTwice, reporter.state.ReadsBack event := by
    have hgiven : given toggledTwice =
        [.packed (packEvent (flagMessage "order.Toggled") false),
          .stated (flagMessage "order.Toggled") true] := by
      rfl
    rw [hgiven]
    simp [readsBack_packed, readsBack_stated, reporter]
  exact (@given_when_then Bool Bool PUnit oneStrategy (prost {})
    ⟨[reporter.factory (prost {})]⟩ ⟨"order", by rfl⟩ hgenerated reporter (by simp)
    (fun _ => {}) toggledTwice hreads (flagMessage "order.Report") true report (by decide)
    (by rfl) (by rfl) .zero "" none).1

end AngzarrClient
