/-
The two loops the runtime routers run over their factories: commit to the
first selected handler, or call every selected handler in registration order
and merge the answers.  Both invoke a factory to read its handler's config,
so a run is compared up to the `produced` events.
-/
import AngzarrClient.Lib.FanOut
import AngzarrClient.Router.Handler

namespace AngzarrClient

variable {α σ : Type}

/-- Call the first selected handler and return its answer. -/
def dispatchFirst (selects : HandlerConfig → Bool) (request : HandlerRequest)
    (unwrap : HandlerResponse → Except ClientError α) (otherwise : Run α) :
    List Factory → Run α
  | [] => otherwise
  | factory :: rest => do
      let handler ← factory.produce
      if selects handler.config then do
        let response ← handler.call request
        Traced.ofExcept (unwrap response)
      else dispatchFirst selects request unwrap otherwise rest

/-- Call every selected handler in turn, merging its answer into `merged`. -/
def dispatchEach (selects : HandlerConfig → Bool) (request : σ → HandlerRequest)
    (unwrap : HandlerResponse → Except ClientError α) (merge : σ → α → σ)
    (merged : σ) : List Factory → Run σ
  | [] => pure merged
  | factory :: rest => do
      let handler ← factory.produce
      if selects handler.config then do
        let response ← handler.call (request merged)
        let answer ← Traced.ofExcept (unwrap response)
        dispatchEach selects request unwrap merge (merge merged answer) rest
      else dispatchEach selects request unwrap merge merged rest

/-- The merging loop over handlers that are already selected. -/
def callEach (request : σ → HandlerRequest)
    (unwrap : HandlerResponse → Except ClientError α) (merge : σ → α → σ)
    (merged : σ) : List Handler → Run σ
  | [] => pure merged
  | handler :: rest => do
      let response ← handler.call (request merged)
      let answer ← Traced.ofExcept (unwrap response)
      callEach request unwrap merge (merge merged answer) rest

/-- The handlers a loop calls, in registration order. -/
def selected (selects : HandlerConfig → Bool) (factories : List Factory) :
    List Handler :=
  (factories.map Factory.handler).filter fun handler => selects handler.config

def Event.isProduced : Event → Bool
  | .produced _ => true
  | _ => false

/-- What a run did beyond invoking factories: the handlers it dispatched to
and the methods these ran. -/
def calls (run : Run α) : List Event :=
  run.trace.filter fun event => !event.isProduced

/-- What a handler answers to a request, as the loops read it. -/
def Handler.answer (handler : Handler)
    (unwrap : HandlerResponse → Except ClientError α) (request : HandlerRequest) :
    Except ClientError α :=
  (handler.dispatch request).outcome.bind unwrap

@[simp] theorem calls_pure (a : α) : calls (pure a : Run α) = [] := rfl

@[simp] theorem calls_fail (error : ClientError) :
    calls (Traced.fail error : Run α) = [] := rfl

@[simp] theorem calls_ofExcept (x : Except ClientError α) :
    calls (Traced.ofExcept x : Run α) = [] := rfl

@[simp] theorem calls_produce_bind (factory : Factory) (f : Handler → Run α) :
    calls (factory.produce >>= f) = calls (f factory.handler) := by
  simp [calls, Factory.produce_bind, Event.isProduced]

@[simp] theorem outcome_produce_bind (factory : Factory) (f : Handler → Run α) :
    (factory.produce >>= f).outcome = (f factory.handler).outcome := rfl

@[simp] theorem calls_call (handler : Handler) (request : HandlerRequest) :
    calls (handler.call request) = (handler.call request).trace := by
  rw [calls, List.filter_eq_self]
  intro event hevent
  rw [Handler.trace_call, List.mem_cons, List.mem_map] at hevent
  rcases hevent with rfl | ⟨run, -, rfl⟩
  · rfl
  · rfl

/-- Nothing but `produced` events is left out of the calls. -/
theorem mem_calls {run : Run α} {config : HandlerConfig} {sent : HandlerRequest} :
    Event.dispatched config sent ∈ calls run ↔
      Event.dispatched config sent ∈ run.trace := by
  simp [calls, Event.isProduced]

theorem ran_mem_calls {run : Run α} {ran : MethodRun} :
    Event.ran ran ∈ calls run ↔ Event.ran ran ∈ run.trace := by
  simp [calls, Event.isProduced]

@[simp] theorem ran_mem_trace_call {handler : Handler} {request : HandlerRequest}
    {ran : MethodRun} :
    Event.ran ran ∈ (handler.call request).trace ↔
      ran ∈ (handler.dispatch request).trace := by
  simp [Handler.trace_call]

theorem mem_selected {selects : HandlerConfig → Bool} {factories : List Factory}
    {handler : Handler} :
    handler ∈ selected selects factories ↔
      selects handler.config = true ∧
        ∃ factory ∈ factories, factory.handler = handler := by
  rw [selected, List.mem_filter, List.mem_map, and_comm]

theorem selected_cons_of_pos {selects : HandlerConfig → Bool} {factory : Factory}
    (hselects : selects factory.handler.config = true) (rest : List Factory) :
    selected selects (factory :: rest) = factory.handler :: selected selects rest := by
  simp [selected, hselects]

theorem selected_cons_of_neg {selects : HandlerConfig → Bool} {factory : Factory}
    (hselects : selects factory.handler.config ≠ true) (rest : List Factory) :
    selected selects (factory :: rest) = selected selects rest := by
  simp [selected, hselects]

theorem calls_bind_of_ok {x : Run σ} {a : σ} (hx : x.outcome = .ok a)
    (f : σ → Run α) : calls (x >>= f) = calls x ++ calls (f a) := by
  rw [calls, Traced.bind_of_ok hx, List.filter_append]
  rfl

theorem calls_bind_of_error {x : Run σ} {error : ClientError}
    (hx : x.outcome = .error error) (f : σ → Run α) :
    calls (x >>= f) = calls x := by
  rw [calls, Traced.bind_of_error hx]
  rfl

/-- One call followed by the reading of its answer does nothing else. -/
theorem calls_call_bind_ofExcept (handler : Handler) (request : HandlerRequest)
    (unwrap : HandlerResponse → Except ClientError α) :
    calls (handler.call request >>= fun response =>
      Traced.ofExcept (unwrap response)) = (handler.call request).trace := by
  cases hx : (handler.call request).outcome with
  | ok response => rw [calls_bind_of_ok hx]; simp
  | error error => rw [calls_bind_of_error hx, calls_call]

section First

variable (selects : HandlerConfig → Bool) (request : HandlerRequest)
  (unwrap : HandlerResponse → Except ClientError α) (otherwise : Run α)

/-- The first-match loop returns what the first selected handler answers. -/
theorem outcome_dispatchFirst (factories : List Factory) :
    (dispatchFirst selects request unwrap otherwise factories).outcome =
      match (selected selects factories).head? with
      | some handler => handler.answer unwrap request
      | none => otherwise.outcome := by
  induction factories with
  | nil => rfl
  | cons factory rest ih =>
      rw [dispatchFirst, outcome_produce_bind]
      by_cases hselects : selects factory.handler.config = true
      · simp [hselects, selected, Handler.answer]
      · rw [if_neg hselects, ih]
        simp [hselects, selected]

/-- It calls that handler and no other. -/
theorem calls_dispatchFirst (factories : List Factory) :
    calls (dispatchFirst selects request unwrap otherwise factories) =
      match (selected selects factories).head? with
      | some handler => (handler.call request).trace
      | none => calls otherwise := by
  induction factories with
  | nil => rfl
  | cons factory rest ih =>
      rw [dispatchFirst, calls_produce_bind]
      by_cases hselects : selects factory.handler.config = true
      · rw [if_pos hselects, calls_call_bind_ofExcept]
        simp [hselects, selected]
      · rw [if_neg hselects, ih]
        simp [hselects, selected]

end First

section Each

variable (selects : HandlerConfig → Bool) (request : σ → HandlerRequest)
  (unwrap : HandlerResponse → Except ClientError α) (merge : σ → α → σ)

/-- The merging loop is the loop over the selected handlers. -/
theorem outcome_dispatchEach (merged : σ) (factories : List Factory) :
    (dispatchEach selects request unwrap merge merged factories).outcome =
      (callEach request unwrap merge merged (selected selects factories)).outcome := by
  induction factories generalizing merged with
  | nil => rfl
  | cons factory rest ih =>
      rw [dispatchEach, outcome_produce_bind]
      by_cases hselects : selects factory.handler.config = true
      · rw [if_pos hselects, selected_cons_of_pos hselects, callEach]
        simp only [Traced.outcome_bind, ih]
      · rw [if_neg hselects, selected_cons_of_neg hselects, ih]

theorem calls_dispatchEach (merged : σ) (factories : List Factory) :
    calls (dispatchEach selects request unwrap merge merged factories) =
      calls (callEach request unwrap merge merged (selected selects factories)) := by
  induction factories generalizing merged with
  | nil => rfl
  | cons factory rest ih =>
      rw [dispatchEach, calls_produce_bind]
      by_cases hselects : selects factory.handler.config = true
      · rw [if_pos hselects, selected_cons_of_pos hselects, callEach]
        cases hcall : (factory.handler.call (request merged)).outcome with
        | error error =>
            rw [calls_bind_of_error hcall, calls_bind_of_error hcall]
        | ok response =>
            rw [calls_bind_of_ok hcall, calls_bind_of_ok hcall]
            cases hanswer : unwrap response with
            | error error => rfl
            | ok answer =>
                rw [Traced.ofExcept_ok, pure_bind, pure_bind, ih]
      · rw [if_neg hselects, selected_cons_of_neg hselects, ih]

variable {request unwrap merge}

/-- A handler that answers is followed by the rest of the loop. -/
theorem callEach_cons_of_ok {handler : Handler} {merged : σ} {answer : α}
    (hanswer : handler.answer unwrap (request merged) = .ok answer)
    (rest : List Handler) :
    callEach request unwrap merge merged (handler :: rest) =
      ⟨(handler.call (request merged)).trace ++
          (callEach request unwrap merge (merge merged answer) rest).trace,
        (callEach request unwrap merge (merge merged answer) rest).outcome⟩ := by
  rw [Handler.answer] at hanswer
  cases hcall : (handler.dispatch (request merged)).outcome with
  | error error => rw [hcall] at hanswer; cases hanswer
  | ok response =>
      rw [hcall] at hanswer
      have hunwrap : unwrap response = .ok answer := hanswer
      rw [callEach, Traced.bind_of_ok (x := handler.call (request merged)) hcall,
        hunwrap, Traced.ofExcept_ok, pure_bind]

/-- A handler that fails ends the loop with its error. -/
theorem callEach_cons_of_error {handler : Handler} {merged : σ}
    {error : ClientError}
    (hanswer : handler.answer unwrap (request merged) = .error error)
    (rest : List Handler) :
    callEach request unwrap merge merged (handler :: rest) =
      ⟨(handler.call (request merged)).trace, .error error⟩ := by
  rw [Handler.answer] at hanswer
  cases hcall : (handler.dispatch (request merged)).outcome with
  | error error' =>
      rw [hcall] at hanswer
      cases hanswer
      rw [callEach, Traced.bind_of_error (x := handler.call (request merged)) hcall]
  | ok response =>
      rw [hcall] at hanswer
      have hunwrap : unwrap response = .error error := hanswer
      rw [callEach, Traced.bind_of_ok (x := handler.call (request merged)) hcall,
        hunwrap, Traced.ofExcept_error, Traced.fail_bind]
      simp

/-- The loop over selected handlers invokes no factory. -/
theorem calls_callEach (merged : σ) (handlers : List Handler) :
    calls (callEach request unwrap merge merged handlers) =
      (callEach request unwrap merge merged handlers).trace := by
  induction handlers generalizing merged with
  | nil => rfl
  | cons handler rest ih =>
      have hcall := calls_call handler (request merged)
      rw [calls] at hcall
      cases hanswer : handler.answer unwrap (request merged) with
      | error error =>
          rw [callEach_cons_of_error hanswer, calls]
          exact hcall
      | ok answer =>
          rw [callEach_cons_of_ok hanswer, calls, List.filter_append, hcall]
          exact congrArg _ (ih (merge merged answer))

/-- The handler and the request a single call names. -/
theorem dispatched_mem_trace_call {handler : Handler} {request sent : HandlerRequest}
    {config : HandlerConfig}
    (hmem : Event.dispatched config sent ∈ (handler.call request).trace) :
    handler.config = config ∧ sent = request := by
  rw [Handler.trace_call, List.mem_cons] at hmem
  rcases hmem with hcall | hran
  · injection hcall with hconfig hsent
    exact ⟨hconfig.symm, hsent⟩
  · obtain ⟨run, -, hrun⟩ := List.mem_map.mp hran
    cases hrun

/-- Only handlers of the list are dispatched to. -/
theorem dispatched_of_mem_callEach {merged : σ} {handlers : List Handler}
    {config : HandlerConfig} {sent : HandlerRequest}
    (hmem : Event.dispatched config sent ∈
      (callEach request unwrap merge merged handlers).trace) :
    ∃ handler ∈ handlers, handler.config = config ∧ ∃ state, sent = request state := by
  induction handlers generalizing merged with
  | nil => simp [callEach] at hmem
  | cons handler rest ih =>
      cases hanswer : handler.answer unwrap (request merged) with
      | error error =>
          rw [callEach_cons_of_error hanswer] at hmem
          obtain ⟨hconfig, hsent⟩ := dispatched_mem_trace_call hmem
          exact ⟨handler, by simp, hconfig, merged, hsent⟩
      | ok answer =>
          rw [callEach_cons_of_ok hanswer, List.mem_append] at hmem
          rcases hmem with hmem | hmem
          · obtain ⟨hconfig, hsent⟩ := dispatched_mem_trace_call hmem
            exact ⟨handler, by simp, hconfig, merged, hsent⟩
          · obtain ⟨other, hother, hconfig⟩ := ih hmem
            exact ⟨other, by simp [hother], hconfig⟩

/-- Only methods of these handlers run. -/
theorem ran_of_mem_callEach {merged : σ} {handlers : List Handler} {ran : MethodRun}
    (hmem : Event.ran ran ∈ (callEach request unwrap merge merged handlers).trace) :
    ∃ handler ∈ handlers, ∃ sent, ran ∈ (handler.dispatch (request sent)).trace := by
  induction handlers generalizing merged with
  | nil => simp [callEach] at hmem
  | cons handler rest ih =>
      cases hanswer : handler.answer unwrap (request merged) with
      | error error =>
          rw [callEach_cons_of_error hanswer, ran_mem_trace_call] at hmem
          exact ⟨handler, by simp, merged, hmem⟩
      | ok answer =>
          rw [callEach_cons_of_ok hanswer, List.mem_append, ran_mem_trace_call] at hmem
          rcases hmem with hmem | hmem
          · exact ⟨handler, by simp, merged, hmem⟩
          · obtain ⟨other, hother, sent, hran⟩ := ih hmem
            exact ⟨other, by simp [hother], sent, hran⟩

/-- What the first handler runs, the loop runs. -/
theorem ran_mem_callEach_cons {merged : σ} {handler : Handler} {rest : List Handler}
    {ran : MethodRun} (hran : ran ∈ (handler.dispatch (request merged)).trace) :
    Event.ran ran ∈
      (callEach request unwrap merge merged (handler :: rest)).trace := by
  cases hanswer : handler.answer unwrap (request merged) with
  | error error =>
      rw [callEach_cons_of_error hanswer, ran_mem_trace_call]
      exact hran
  | ok answer =>
      rw [callEach_cons_of_ok hanswer, List.mem_append, ran_mem_trace_call]
      exact Or.inl hran

end Each

/-- The first-match loop only runs methods of a selected handler. -/
theorem ran_of_mem_dispatchFirst {selects : HandlerConfig → Bool}
    {request : HandlerRequest} {unwrap : HandlerResponse → Except ClientError α}
    {error : ClientError} {factories : List Factory} {ran : MethodRun}
    (hmem : Event.ran ran ∈
      (dispatchFirst selects request unwrap (.fail error) factories).trace) :
    ∃ handler ∈ selected selects factories, ran ∈ (handler.dispatch request).trace := by
  rw [← ran_mem_calls, calls_dispatchFirst] at hmem
  cases hhead : (selected selects factories).head? with
  | none => rw [hhead] at hmem; cases hmem
  | some handler =>
      rw [hhead] at hmem
      exact ⟨handler, List.mem_of_mem_head? hhead, ran_mem_trace_call.mp hmem⟩

/-- So does the merging loop. -/
theorem ran_of_mem_dispatchEach {selects : HandlerConfig → Bool}
    {request : σ → HandlerRequest} {unwrap : HandlerResponse → Except ClientError α}
    {merge : σ → α → σ} {merged : σ} {factories : List Factory} {ran : MethodRun}
    (hmem : Event.ran ran ∈
      (dispatchEach selects request unwrap merge merged factories).trace) :
    ∃ handler ∈ selected selects factories, ∃ sent,
      ran ∈ (handler.dispatch (request sent)).trace := by
  rw [← ran_mem_calls, calls_dispatchEach, ran_mem_calls] at hmem
  exact ran_of_mem_callEach hmem

/-- Over one registration, it only runs methods of that handler. -/
theorem ran_of_mem_dispatchEach_singleton {selects : HandlerConfig → Bool}
    {request : HandlerRequest} {unwrap : HandlerResponse → Except ClientError α}
    {merge : σ → α → σ} {merged : σ} {factory : Factory} {ran : MethodRun}
    (hmem : Event.ran ran ∈
      (dispatchEach selects (fun _ => request) unwrap merge merged [factory]).trace) :
    ran ∈ (factory.handler.dispatch request).trace := by
  obtain ⟨handler, hhandler, -, hran⟩ := ran_of_mem_dispatchEach hmem
  obtain ⟨-, registered, hregistered, rfl⟩ := mem_selected.mp hhandler
  rw [List.mem_singleton] at hregistered
  rwa [hregistered] at hran

section Single

variable {selects : HandlerConfig → Bool} {factory : Factory} {ran : MethodRun}
  {unwrap : HandlerResponse → Except ClientError α}
  (hselects : selects factory.handler.config = true)
include hselects

theorem selected_singleton : selected selects [factory] = [factory.handler] := by
  rw [selected, List.map_singleton, List.filter_singleton, hselects]
  rfl

/-- A router over one selected handler runs what that handler runs. -/
theorem ran_mem_dispatchFirst_singleton {request : HandlerRequest} {otherwise : Run α}
    (hran : ran ∈ (factory.handler.dispatch request).trace) :
    Event.ran ran ∈ (dispatchFirst selects request unwrap otherwise [factory]).trace := by
  rw [← ran_mem_calls, calls_dispatchFirst, selected_singleton hselects]
  exact ran_mem_trace_call.mpr hran

theorem ran_mem_dispatchEach_singleton {request : σ → HandlerRequest}
    {merge : σ → α → σ} {merged : σ}
    (hran : ran ∈ (factory.handler.dispatch (request merged)).trace) :
    Event.ran ran ∈
      (dispatchEach selects request unwrap merge merged [factory]).trace := by
  rw [← ran_mem_calls, calls_dispatchEach, selected_singleton hselects, ran_mem_calls]
  exact ran_mem_callEach_cons hran

end Single

/-- With one request for all and answers that are added up, the loop is the
early-exit sum of the answers. -/
theorem outcome_callEach_add [AddMonoid α] (request : HandlerRequest)
    (unwrap : HandlerResponse → Except ClientError α) (merged : α)
    (handlers : List Handler) :
    (callEach (fun _ => request) unwrap (· + ·) merged handlers).outcome =
      (FanOut.gather (handlers.map fun handler =>
        handler.answer unwrap request)).map (merged + ·) := by
  induction handlers generalizing merged with
  | nil => simp [callEach, Except.map]
  | cons handler rest ih =>
      rw [List.map_cons]
      cases hanswer : handler.answer unwrap request with
      | error error =>
          rw [callEach_cons_of_error hanswer]
          rfl
      | ok answer =>
          rw [callEach_cons_of_ok hanswer, ih, FanOut.gather_ok_cons]
          cases FanOut.gather (rest.map fun handler => handler.answer unwrap request) with
          | error error => rfl
          | ok total => simp [Except.map, add_assoc]

end AngzarrClient
