/-
Which method of a built router a command runs, and on what: the message, the state of
the aggregate's history and its next sequence.
-/
import AngzarrClient.Router.Reads

namespace AngzarrClient

open RoutingTable

variable {S Msg : Type}

variable {prost : Prost} {router : CommandHandlerRouter} {aggregate : Aggregate S Msg}

/-- The methods that run are among the calls. -/
theorem methodRuns_calls {α : Type} (run : Run α) :
    (calls run).filterMap Event.methodRun? = run.trace.filterMap Event.methodRun? := by
  rw [calls, List.filterMap_filter]
  apply List.filterMap_congr
  intro event _
  cases event with
  | produced config => rfl
  | dispatched config request => rfl
  | ran run => rfl

/-- The methods of one call are those the handler ran. -/
theorem methodRuns_call (handler : Handler) (request : HandlerRequest) :
    (handler.call request).trace.filterMap Event.methodRun? =
      (handler.dispatch request).trace := by
  rw [Handler.trace_call, List.filterMap_cons_none rfl, List.filterMap_map]
  exact List.filterMap_some

/-- In a built router a command of an aggregate's domain, of a type it handles, runs the
method on the decoded message, the state of its history and its next sequence. -/
theorem dispatch_runs_arm (haccepted : router.Accepted)
    (hmem : aggregate.factory prost ∈ router.factories) {cmd : ContextualCommand}
    {payload : Any} {arm : TypedArm Msg (S × UInt32) EventBook} {message : Msg}
    {state : S}
    (hdomain : cmd.coverDomain = some aggregate.domain.value)
    (hpayload : commandPayload cmd = .ok payload)
    (hkind : payload.typeUrl ≠ notificationTypeUrl)
    (harm : firstArm payload.typeUrl aggregate.handles = some arm)
    (hdecode : arm.messageType.decode payload.value = .ok message)
    (hstate : aggregate.state.rebuild (cmd.events.getD {}).pages = .ok state) :
    (router.dispatch prost cmd).outcome =
        ((arm.run message (state, (cmd.events.getD {}).nextSequence)).mapError
          ClientError.rejected).map (fun events => { result := some (.events events) }) ∧
      (router.dispatch prost cmd).trace.filterMap Event.methodRun? =
        [⟨arm.method, .handles payload.typeUrl, payload⟩] := by
  obtain ⟨-, -, hunique⟩ := router.accepted_iff.mp haccepted
  have hdeclared : commandKey cmd payload ∈ (aggregate.factory prost).declared := by
    rw [commandKey, hdomain]
    apply List.mem_map.mpr
    refine ⟨payload.typeUrl, ?_, rfl⟩
    change payload.typeUrl ∈ armUrls aggregate.handles
    by_contra hnone
    rw [firstArm_eq_none_iff.mpr hnone] at harm
    cases harm
  obtain ⟨houtcome, hcalls⟩ := routed_to_declaring hunique hpayload hkind hmem hdeclared
  have hdispatch : (aggregate.factory prost).handler.dispatch (.commandHandler cmd) =
      Aggregate.eventsResponse <$>
        arm.execute .handles (state, (cmd.events.getD {}).nextSequence) payload := by
    change aggregate.dispatchCommand prost cmd = _
    rw [Aggregate.dispatchCommand_of_command hpayload hkind hstate, harm]
  rw [TypedArm.execute_of_decode hdecode] at hdispatch
  constructor
  · rw [houtcome, Handler.answer, hdispatch, Traced.outcome_map]
    cases arm.run message (state, (cmd.events.getD {}).nextSequence) with
    | error rejection => rfl
    | ok events => rfl
  · rw [← methodRuns_calls, hcalls, methodRuns_call, hdispatch, Traced.trace_map]

end AngzarrClient
