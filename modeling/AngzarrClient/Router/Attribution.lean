/-
Where the errors of a dispatch come from: every loop over the handlers hands on what
one of them explains, and adds only errors of its own.
-/
import AngzarrClient.Macros.Attribution
import AngzarrClient.Router.Projection
import AngzarrClient.Router.Upcasting
import Mathlib.Data.List.Induction

namespace AngzarrClient

open Blame

variable {α σ : Type}

/-- A method run that one of the factories' handlers rejected. -/
def RejectedBy (prost : Prost) (factories : List Factory) (run : MethodRun)
    (rejection : CommandRejectedError) : Prop :=
  ∃ factory ∈ factories, factory.handler.Rejects prost run rejection

/-- The event is a method run, and the error is what the method rejected with. -/
def BlamesMethod (rejects : MethodRun → CommandRejectedError → Prop) :
    Event → ClientError → Prop
  | .ran run, error => Rejected rejects run error
  | _, _ => False

section Loops

variable {rejects : MethodRun → CommandRejectedError → Prop}
  {unwrap : HandlerResponse → Except ClientError α}

/-- A run of a router explains its errors. -/
abbrev RunExplained (rejects : MethodRun → CommandRejectedError → Prop) (run : Run α) :
    Prop :=
  Explained ClientError.IsFramework (BlamesMethod rejects) run

/-- Whatever a handler is asked, it explains its errors. -/
def Handler.Explains (rejects : MethodRun → CommandRejectedError → Prop)
    (handler : Handler) : Prop :=
  ∀ request, Attributed rejects (handler.dispatch request)

theorem Handler.Explains.call {handler : Handler} (hhandler : handler.Explains rejects)
    (request : HandlerRequest) : RunExplained rejects (handler.call request) := by
  apply (explained_emit _).bind
  intro _ _
  exact (hhandler request).mapTrace fun run error hrejected => hrejected

/-- Reading an answer of the wrong kind is the framework's error. -/
def Unwraps (unwrap : HandlerResponse → Except ClientError α) : Prop :=
  ∀ response error, unwrap response = .error error → error.IsFramework

theorem explained_dispatchFirst {selects : HandlerConfig → Bool}
    {request : HandlerRequest} {otherwise : Run α} {factories : List Factory}
    (hunwrap : Unwraps unwrap)
    (hfactories : ∀ factory ∈ factories, factory.handler.Explains rejects)
    (hotherwise : RunExplained rejects otherwise) :
    RunExplained rejects (dispatchFirst selects request unwrap otherwise factories) := by
  induction factories with
  | nil => exact hotherwise
  | cons factory rest ih =>
      rw [List.forall_mem_cons] at hfactories
      apply (Explained.of_ok rfl : RunExplained rejects factory.produce).bind
      intro handler hproduced
      cases hproduced
      split
      · apply (hfactories.1.call request).bind
        exact fun response _ => explained_ofExcept (hunwrap response)
      · exact ih hfactories.2

theorem explained_dispatchEach {selects : HandlerConfig → Bool}
    {request : σ → HandlerRequest} {merge : σ → α → σ} {merged : σ}
    {factories : List Factory} (hunwrap : Unwraps unwrap)
    (hfactories : ∀ factory ∈ factories, factory.handler.Explains rejects) :
    RunExplained rejects
      (dispatchEach selects request unwrap merge merged factories) := by
  induction factories generalizing merged with
  | nil => exact explained_pure merged
  | cons factory rest ih =>
      rw [List.forall_mem_cons] at hfactories
      apply (Explained.of_ok rfl : RunExplained rejects factory.produce).bind
      intro handler hproduced
      cases hproduced
      split
      · apply (hfactories.1.call (request merged)).bind
        intro response _
        apply (explained_ofExcept (hunwrap response)).bind
        exact fun answer _ => ih hfactories.2
      · exact ih hfactories.2

/-- A run of the projector router explains its errors. -/
abbrev InstanceRunExplained (rejects : MethodRun → CommandRejectedError → Prop)
    (run : InstanceRun α) : Prop :=
  Explained ClientError.IsFramework (fun entry => BlamesMethod rejects entry.2) run

/-- The instance has answered each of the requests after the ones before it. -/
def Handler.Served (handler : Handler) (served : List HandlerRequest) : Prop :=
  ∀ before request after, served = before ++ request :: after →
    ∃ response, (handler.dispatchAfter before request).outcome = .ok response

/-- An instance that has not failed yet explains its next error. -/
def Handler.ExplainsNext (rejects : MethodRun → CommandRejectedError → Prop)
    (handler : Handler) : Prop :=
  ∀ served request, handler.Served served →
    Attributed rejects (handler.dispatchAfter served request)

theorem Handler.Served.snoc {handler : Handler} {served : List HandlerRequest}
    {request : HandlerRequest} {response : HandlerResponse}
    (hserved : handler.Served served)
    (hanswer : (handler.dispatchAfter served request).outcome = .ok response) :
    handler.Served (served ++ [request]) := by
  intro before other after hsplit
  rcases List.eq_nil_or_concat after with rfl | ⟨front, last, rfl⟩
  · obtain ⟨rfl, hlast⟩ := List.append_inj' hsplit rfl
    cases hlast
    exact ⟨response, hanswer⟩
  · have hinit : served = before ++ other :: front := by
      have hparts : served ++ [request] = (before ++ other :: front) ++ [last] := by
        rw [hsplit]
        simp
      exact (List.append_inj' hparts rfl).1
    exact hserved before other front hinit

theorem unwraps_of_wrongKind (expected : String)
    (hunwrap : ∀ response, (∃ answer, unwrap response = .ok answer) ∨
      unwrap response = wrongKind expected) : Unwraps unwrap := by
  intro response error herror
  rcases hunwrap response with ⟨answer, hanswer⟩ | hwrong
  · rw [hanswer] at herror
    cases herror
  · rw [hwrong] at herror
    cases herror
    exact isFramework_wrongResponseKind expected

theorem unwraps_projector : Unwraps ProjectorRouter.unwrapProjector :=
  unwraps_of_wrongKind "Projector" fun response => by
    cases response <;> simp [ProjectorRouter.unwrapProjector]

section Projection

open ProjectorRouter

variable {served : List HandlerRequest} {request : HandlerRequest} {entry : Nat × Handler}
  {matched : List (Nat × Handler)}

theorem explained_callInstance (hentry : entry.2.ExplainsNext rejects)
    (hserved : entry.2.Served served) :
    InstanceRunExplained rejects (callInstance served request entry) := by
  apply Explained.bind
  · apply @Explained.mapTrace _ _ _ _ _ (BlamesMethod rejects)
    · apply (explained_emit _).bind
      intro _ _
      exact (hentry served request hserved).mapTrace fun run error hrejected => hrejected
    · exact fun event error hblamed => hblamed
  · exact fun response _ => explained_ofExcept (unwraps_projector response)

theorem served_of_callInstance (hserved : entry.2.Served served)
    (hcall : (callInstance served request entry).outcome = .ok ⟨⟩) :
    entry.2.Served (served ++ [request]) := by
  rw [callInstance, Traced.outcome_bind] at hcall
  cases hanswer : (onInstance entry.1 (entry.2.callAfter served request)).outcome with
  | error error => rw [hanswer] at hcall; cases hcall
  | ok response => exact hserved.snoc hanswer

/-- What one page keeps: the instances that got it have not failed. -/
theorem served_of_projectPage (hserved : ∀ entry ∈ matched, entry.2.Served served)
    (hpage : (projectPage served request matched).outcome = .ok ⟨⟩) :
    ∀ entry ∈ matched, entry.2.Served (served ++ [request]) := by
  induction matched with
  | nil => exact fun entry hmem => by cases hmem
  | cons entry rest ih =>
      rw [List.forall_mem_cons] at hserved ⊢
      rw [projectPage, Traced.outcome_bind] at hpage
      cases hcall : (callInstance served request entry).outcome with
      | error error => rw [hcall] at hpage; cases hpage
      | ok _ =>
          rw [hcall] at hpage
          exact ⟨served_of_callInstance hserved.1 hcall, ih hserved.2 hpage⟩

theorem explained_projectPage (hmatched : ∀ entry ∈ matched, entry.2.ExplainsNext rejects)
    (hserved : ∀ entry ∈ matched, entry.2.Served served) :
    InstanceRunExplained rejects (projectPage served request matched) := by
  induction matched with
  | nil => exact explained_pure _
  | cons entry rest ih =>
      rw [List.forall_mem_cons] at hmatched hserved
      apply (explained_callInstance hmatched.1 hserved.1).bind
      exact fun _ _ => ih hmatched.2 hserved.2

theorem explained_projectPages (book : EventBook) (pages : List EventPage)
    (hmatched : ∀ entry ∈ matched, entry.2.ExplainsNext rejects)
    (hserved : ∀ entry ∈ matched, entry.2.Served served) :
    InstanceRunExplained rejects (projectPages book matched served pages) := by
  induction pages generalizing served with
  | nil => exact explained_pure _
  | cons page rest ih =>
      apply (explained_projectPage hmatched hserved).bind
      exact fun _ hpage => ih (served_of_projectPage hserved hpage)

/-- Instantiating constructs each instance and never fails. -/
theorem instantiate_ok (domain : Option String) (index : Nat) {factories : List Factory}
    (hmatched : ∀ entry ∈ matched, entry.2.ExplainsNext rejects)
    (hfactories : ∀ factory ∈ factories, factory.handler.ExplainsNext rejects) :
    ∃ all, (instantiate domain matched index factories).outcome = .ok all ∧
      ∀ entry ∈ all, entry.2.ExplainsNext rejects := by
  induction factories generalizing matched index with
  | nil => exact ⟨matched, rfl, hmatched⟩
  | cons factory rest ih =>
      rw [List.forall_mem_cons] at hfactories
      rw [instantiate, Traced.outcome_bind]
      change ∃ all, (if listens domain factory.handler.config then _ else _ :
        InstanceRun _).outcome = .ok all ∧ _
      split
      · apply ih (index + 1) _ hfactories.2
        intro entry hmem
        rcases List.mem_append.mp hmem with hmem | hmem
        · exact hmatched entry hmem
        · rw [List.mem_singleton.mp hmem]
          exact hfactories.1
      · exact ih (index + 1) hmatched hfactories.2

end Projection

end Loops

section Generated

variable {prost : Prost} {handler : Handler}

/-- A generated handler explains its errors. -/
theorem Handler.Generated.explains (hgenerated : handler.Generated prost) :
    handler.Explains (handler.Rejects prost) := by
  intro request
  cases hgenerated with
  | commandHandler aggregate => exact aggregate.attributed_dispatch prost request
  | saga saga => exact saga.attributed_dispatch prost request
  | processManager manager => exact manager.attributed_dispatch prost request
  | projector projector =>
      exact (projector.attributed_serve prost projector.fresh request).map _
  | upcaster upcaster => exact upcaster.attributed_dispatch prost request

theorem Projector.instanceAfter_snoc {I Msg : Type} (projector : Projector I Msg)
    (served : List HandlerRequest) (request : HandlerRequest) :
    projector.instanceAfter (served ++ [request]) =
      (projector.instanceAfter served).bind fun self =>
        (projector.serve self request).outcome.map Prod.snd := by
  rw [instanceAfter, List.foldlM_append, ← instanceAfter]
  cases projector.instanceAfter served with
  | error error => rfl
  | ok self =>
      change ((projector.serve self request).outcome.map Prod.snd).bind
          (fun next => .ok next) =
        (projector.serve self request).outcome.map Prod.snd
      cases (projector.serve self request).outcome with
      | error error => rfl
      | ok answer => rfl

/-- An instance that has not failed is in some state. -/
theorem Projector.instanceAfter_of_served {I Msg : Type} {projector : Projector I Msg}
    {served : List HandlerRequest} (hserved : projector.handler.Served served) :
    ∃ self, projector.instanceAfter served = .ok self := by
  induction served using List.reverseRecOn with
  | nil => exact ⟨projector.fresh, rfl⟩
  | append_singleton before request ih =>
      obtain ⟨self, hself⟩ := ih fun front other after hsplit =>
        hserved front other (after ++ [request]) (by rw [hsplit]; simp)
      obtain ⟨response, hresponse⟩ := hserved before request [] rfl
      change (projector.dispatchAfter before request).outcome = .ok response at hresponse
      rw [dispatchAfter, hself] at hresponse
      dsimp only at hresponse
      rw [Traced.outcome_map] at hresponse
      rw [instanceAfter_snoc, hself]
      change ∃ next, (projector.serve self request).outcome.map Prod.snd = .ok next
      cases hserve : (projector.serve self request).outcome with
      | error error => rw [hserve] at hresponse; cases hresponse
      | ok answer => exact ⟨answer.2, rfl⟩

/-- So does an instance that is asked again, as long as it has not failed. -/
theorem Handler.Generated.explainsNext (hgenerated : handler.Generated prost) :
    handler.ExplainsNext (handler.Rejects prost) := by
  intro served request hserved
  cases hgenerated with
  | commandHandler aggregate => exact aggregate.attributed_dispatch prost request
  | saga saga => exact saga.attributed_dispatch prost request
  | processManager manager => exact manager.attributed_dispatch prost request
  | projector projector =>
      obtain ⟨self, hself⟩ := Projector.instanceAfter_of_served hserved
      change Attributed _ (projector.dispatchAfter served request)
      rw [Projector.dispatchAfter, hself]
      exact (projector.attributed_serve prost self request).map _
  | upcaster upcaster => exact upcaster.attributed_dispatch prost request

variable {factories : List Factory}

/-- What one handler rejects, the registered handlers reject. -/
theorem explains_of_mem
    (hgenerated : ∀ factory ∈ factories, factory.handler.Generated prost) :
    ∀ factory ∈ factories, factory.handler.Explains (RejectedBy prost factories) := by
  intro factory hmem request
  apply attributed_mono ((hgenerated factory hmem).explains request)
  exact fun run rejection hrejects => ⟨factory, hmem, hrejects⟩

theorem explainsNext_of_mem
    (hgenerated : ∀ factory ∈ factories, factory.handler.Generated prost) :
    ∀ factory ∈ factories, factory.handler.ExplainsNext (RejectedBy prost factories) := by
  intro factory hmem served request hserved
  apply attributed_mono ((hgenerated factory hmem).explainsNext served request hserved)
  exact fun run rejection hrejects => ⟨factory, hmem, hrejects⟩

theorem unwraps_command : Unwraps CommandHandlerRouter.unwrapCommand :=
  unwraps_of_wrongKind "CommandHandler" fun response => by
    cases response <;> simp [CommandHandlerRouter.unwrapCommand]

theorem unwraps_fact : Unwraps CommandHandlerRouter.unwrapFact :=
  unwraps_of_wrongKind "HandleFact" fun response => by
    cases response <;> simp [CommandHandlerRouter.unwrapFact]

theorem unwraps_replay : Unwraps CommandHandlerRouter.unwrapReplay :=
  unwraps_of_wrongKind "Replay" fun response => by
    cases response <;> simp [CommandHandlerRouter.unwrapReplay]

theorem unwraps_saga : Unwraps SagaRouter.unwrapSaga :=
  unwraps_of_wrongKind "Saga" fun response => by
    cases response <;> simp [SagaRouter.unwrapSaga]

theorem unwraps_processManager : Unwraps ProcessManagerRouter.unwrapProcessManager :=
  unwraps_of_wrongKind "ProcessManager" fun response => by
    cases response <;> simp [ProcessManagerRouter.unwrapProcessManager]

/-- The upcaster router has an error of its own for it. -/
theorem unwraps_upcaster : Unwraps UpcasterRouter.unwrapUpcaster := by
  intro response error herror
  cases response with
  | upcaster => cases herror
  | commandHandler | handleFact | replay | saga | processManager | projector =>
      cases herror
      exact isFramework_ofCode (by simp [messages.ofRouters])

theorem isFramework_extractEventTypeUrl {errors : TriggerErrors}
    (herrors : errors.AreFramework) {book : Option EventBook} {error : ClientError}
    (herror : extractEventTypeUrl errors book = .error error) : error.IsFramework := by
  rw [extractEventTypeUrl] at herror
  cases hevent : lastEvent errors book with
  | error first =>
      rw [hevent] at herror
      cases herror
      exact herrors.of_lastEvent hevent
  | ok any =>
      rw [hevent] at herror
      dsimp only at herror
      split_ifs at herror
      cases herror
      exact herrors.invalidTypeUrl any.typeUrl

section Routers

variable (hgenerated : ∀ factory ∈ factories, factory.handler.Generated prost)
include hgenerated

theorem explained_dispatchCommand (cmd : ContextualCommand) :
    RunExplained (RejectedBy prost factories)
      (CommandHandlerRouter.dispatch prost ⟨factories⟩ cmd) := by
  apply Explained.bind
  · apply explained_ofExcept
    intro error herror
    rw [extractCommandTypeUrl] at herror
    cases hpayload : commandPayload cmd with
    | ok payload => rw [hpayload] at herror; cases herror
    | error first =>
        rw [hpayload] at herror
        cases herror
        exact isFramework_commandPayload hpayload
  intro typeUrl _
  split
  · apply Explained.bind
    · apply explained_ofExcept
      intro error herror
      rw [extractRejectionKey] at herror
      cases hpayload : commandPayload cmd with
      | error first =>
          rw [hpayload] at herror
          cases herror
          exact isFramework_commandPayload hpayload
      | ok payload =>
          rw [hpayload] at herror
          cases hopen : openNotification prost payload with
          | error first =>
              simp only [bind, Except.bind, hopen] at herror
              cases herror
              exact isFramework_openNotification hopen
          | ok opened =>
              simp only [bind, Except.bind, hopen] at herror
              cases herror
    intro key _
    apply (explained_dispatchEach unwraps_command (explains_of_mem hgenerated)).bind
    exact fun merged _ => explained_pure _
  · apply explained_dispatchFirst unwraps_command (explains_of_mem hgenerated)
    exact explained_fail (isFramework_ofCode (by simp [messages.ofRouters]))

theorem explained_dispatchFact (request : FactRequest) :
    RunExplained (RejectedBy prost factories)
      (CommandHandlerRouter.dispatchFact ⟨factories⟩ request) :=
  explained_dispatchFirst unwraps_fact (explains_of_mem hgenerated) (explained_pure _)

theorem explained_dispatchReplay (request : ReplayRequest) :
    RunExplained (RejectedBy prost factories)
      (CommandHandlerRouter.dispatchReplay ⟨factories⟩ request) :=
  explained_dispatchFirst unwraps_replay (explains_of_mem hgenerated) (explained_pure _)

theorem explained_dispatchSaga (request : SagaHandleRequest) :
    RunExplained (RejectedBy prost factories)
      (SagaRouter.dispatch ⟨factories⟩ request) := by
  apply (explained_ofExcept fun _ herror =>
    isFramework_extractEventTypeUrl sagaErrors_areFramework herror).bind
  exact fun typeUrl _ => explained_dispatchEach unwraps_saga (explains_of_mem hgenerated)

theorem explained_dispatchProcessManager (request : ProcessManagerHandleRequest) :
    RunExplained (RejectedBy prost factories)
      (ProcessManagerRouter.dispatch ⟨factories⟩ request) := by
  apply (explained_ofExcept fun _ herror =>
    isFramework_extractEventTypeUrl pmErrors_areFramework herror).bind
  exact fun typeUrl _ =>
    explained_dispatchEach unwraps_processManager (explains_of_mem hgenerated)

theorem explained_dispatchProjector (book : EventBook) :
    InstanceRunExplained (RejectedBy prost factories)
      (ProjectorRouter.dispatch ⟨factories⟩ book) := by
  have hnone : ∀ entry ∈ ([] : List (Nat × Handler)),
      entry.2.ExplainsNext (RejectedBy prost factories) := fun entry hmem => by cases hmem
  obtain ⟨all, hall, hnext⟩ := instantiate_ok (book.cover.map Cover.domain) 0 hnone
    (explainsNext_of_mem hgenerated)
  apply (Explained.of_ok hall).bind
  intro matched hmatched
  rw [hall] at hmatched
  cases hmatched
  apply Explained.bind
  · apply explained_projectPages book book.pages hnext
    intro entry _ before request after hsplit
    cases before <;> cases hsplit
  · exact fun _ _ => explained_pure _

theorem explained_dispatchUpcaster (request : UpcastRequest) :
    RunExplained (RejectedBy prost factories)
      (UpcasterRouter.dispatch ⟨factories⟩ request) := by
  have hpages : ∀ out pages : List EventPage, RunExplained (RejectedBy prost factories)
      (UpcasterRouter.upcastPages request.domain ⟨factories⟩ out pages) := by
    intro out pages
    induction pages generalizing out with
    | nil => exact explained_pure out
    | cons page rest ih =>
        apply Explained.bind
        · rw [UpcasterRouter.upcastPage]
          split
          · exact explained_dispatchEach unwraps_upcaster (explains_of_mem hgenerated)
          · exact explained_pure page
        · exact fun current _ => ih (out ++ [current])
  exact (hpages [] request.events).bind fun out _ => explained_pure _

end Routers

end Generated

end AngzarrClient
