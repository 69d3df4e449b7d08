/-
The handlers that the kind macros generate, of any kind, and where their errors come
from: the framework's own ones are `InvalidArgument` under a fixed message, and a
rejection is handed on as the method that ran last returned it.
-/
import AngzarrClient.Lib.Blame
import AngzarrClient.Macros.CommandHandler
import AngzarrClient.Macros.Projector
import AngzarrClient.Macros.Saga
import AngzarrClient.Macros.Upcaster
import AngzarrClient.Router.Dispatch

namespace AngzarrClient

open Blame

variable {Msg In Out S I : Type}

/-- The messages of the errors that routers and generated handlers raise. -/
def messages.ofRouters : List String :=
  [messages.anyDecodeFailed, messages.handlerWrongResponseKind,
    messages.handlerWrongRequestKind, messages.upcasterWrongResponseKind,
    messages.noHandlerRegistered, messages.missingCommandBook,
    messages.missingCommandPage, messages.missingCommandPayload,
    messages.notificationDecodeFailed, messages.rejectionNotificationDecodeFailed,
    messages.missingSagaSource, messages.emptySagaSource,
    messages.missingSagaEventPayload, messages.sagaInvalidTypeUrl,
    messages.missingPmTrigger, messages.emptyPmTrigger, messages.missingPmEventPayload,
    messages.pmInvalidTypeUrl]

/-- The framework raised the error itself. -/
def ClientError.IsFramework : ClientError → Prop
  | .invalidArgument detail => detail.message ∈ messages.ofRouters
  | _ => False

/-- The run is one of the arm's method, which returned the rejection. -/
def TypedArm.Rejects (key : String → ArmKey) (arm : TypedArm Msg In Out) (run : MethodRun)
    (rejection : CommandRejectedError) : Prop :=
  run.method = arm.method ∧ run.key = key run.payload.typeUrl ∧
    ∃ message input, arm.messageType.decode run.payload.value = .ok message ∧
      arm.run message input = .error rejection

/-- The same for a rejection arm. -/
def RejectedArm.Rejects (arm : RejectedArm S) (run : MethodRun)
    (rejection : CommandRejectedError) : Prop :=
  run.method = arm.method ∧ run.key = .rejected arm.domain.value arm.command.value ∧
    ∃ notification state, arm.run notification state = .error rejection

/-- The handler comes out of one of the five kind macros. -/
inductive Handler.Generated (prost : Prost) : Handler → Prop
  | commandHandler {S Msg : Type} (aggregate : Aggregate S Msg) :
      Generated prost (aggregate.handler prost)
  | saga {Msg : Type} (saga : Saga Msg) : Generated prost saga.handler
  | processManager {S Msg : Type} (manager : ProcessManager S Msg) :
      Generated prost manager.handler
  | projector {I Msg : Type} (projector : Projector I Msg) :
      Generated prost projector.handler
  | upcaster {Msg : Type} (upcaster : Upcaster Msg) : Generated prost upcaster.handler

/-- The run is one of a marked method of the generated handler, which returned the
rejection.  An upcaster's methods cannot reject. -/
inductive Handler.Rejects (prost : Prost) :
    Handler → MethodRun → CommandRejectedError → Prop
  | command {S Msg : Type} (aggregate : Aggregate S Msg) {arm run rejection} :
      arm ∈ aggregate.handles → arm.Rejects .handles run rejection →
      Rejects prost (aggregate.handler prost) run rejection
  | compensation {S Msg : Type} (aggregate : Aggregate S Msg) {arm run rejection} :
      arm ∈ aggregate.rejected → arm.Rejects run rejection →
      Rejects prost (aggregate.handler prost) run rejection
  | fact {S Msg : Type} (aggregate : Aggregate S Msg) {arm run rejection} :
      arm ∈ aggregate.handlesFact → arm.Rejects .handlesFact run rejection →
      Rejects prost (aggregate.handler prost) run rejection
  | saga {Msg : Type} (saga : Saga Msg) {arm run rejection} :
      arm ∈ saga.handles → arm.Rejects .handles run rejection →
      Rejects prost saga.handler run rejection
  | processManager {S Msg : Type} (manager : ProcessManager S Msg) {arm run rejection} :
      arm ∈ manager.handles → arm.Rejects .handles run rejection →
      Rejects prost manager.handler run rejection
  | projector {I Msg : Type} (projector : Projector I Msg) {arm run rejection} :
      arm ∈ projector.handles → arm.Rejects .handles run rejection →
      Rejects prost projector.handler run rejection

/-- The error is a rejection, and the run is one that `rejects` holds it against. -/
def Rejected (rejects : MethodRun → CommandRejectedError → Prop) (run : MethodRun)
    (error : ClientError) : Prop :=
  ∃ rejection, error = .rejected rejection ∧ rejects run rejection

/-- A run inside a handler explains its errors. -/
abbrev Attributed {α : Type} (rejects : MethodRun → CommandRejectedError → Prop)
    (run : HandlerRun α) : Prop :=
  Explained ClientError.IsFramework (Rejected rejects) run

section Own

variable {error : ClientError}

theorem isFramework_ofCode {code message : String} {details : Details}
    (hmem : message ∈ messages.ofRouters) :
    (ClientError.ofCode code message details).IsFramework := hmem

theorem isFramework_anyDecodeFailed (typeUrl cause : String) :
    (ClientError.anyDecodeFailed typeUrl cause).IsFramework :=
  isFramework_ofCode (by simp [messages.ofRouters])

theorem isFramework_wrongRequestKind (expected : String) :
    (ClientError.wrongRequestKind expected).IsFramework :=
  isFramework_ofCode (by simp [messages.ofRouters])

theorem isFramework_wrongResponseKind (expected : String) :
    (ClientError.wrongResponseKind expected).IsFramework :=
  isFramework_ofCode (by simp [messages.ofRouters])

theorem isFramework_commandPayload {cmd : ContextualCommand}
    (herror : commandPayload cmd = .error error) : error.IsFramework := by
  rw [commandPayload] at herror
  split at herror
  · cases herror
    exact isFramework_ofCode (by simp [messages.ofRouters])
  · split at herror
    · cases herror
      exact isFramework_ofCode (by simp [messages.ofRouters])
    · split at herror
      · cases herror
      · cases herror
        exact isFramework_ofCode (by simp [messages.ofRouters])

theorem isFramework_openNotification {prost : Prost} {payload : Any}
    (herror : openNotification prost payload = .error error) : error.IsFramework := by
  rw [openNotification] at herror
  split at herror
  · cases herror
    exact isFramework_ofCode (by simp [messages.ofRouters])
  · split at herror
    · cases herror
    · split at herror
      · cases herror
        exact isFramework_ofCode (by simp [messages.ofRouters])
      · cases herror

/-- Every error about a trigger book of this kind is the framework's. -/
structure TriggerErrors.AreFramework (errors : TriggerErrors) : Prop where
  missing : errors.missing.IsFramework
  empty : errors.empty.IsFramework
  noEvent : errors.noEvent.IsFramework
  invalidTypeUrl : ∀ url, (errors.invalidTypeUrl url).IsFramework

theorem sagaErrors_areFramework : sagaErrors.AreFramework where
  missing := isFramework_ofCode (by simp [messages.ofRouters])
  empty := isFramework_ofCode (by simp [messages.ofRouters])
  noEvent := isFramework_ofCode (by simp [messages.ofRouters])
  invalidTypeUrl _ := isFramework_ofCode (by simp [messages.ofRouters])

theorem pmErrors_areFramework : pmErrors.AreFramework where
  missing := isFramework_ofCode (by simp [messages.ofRouters])
  empty := isFramework_ofCode (by simp [messages.ofRouters])
  noEvent := isFramework_ofCode (by simp [messages.ofRouters])
  invalidTypeUrl _ := isFramework_ofCode (by simp [messages.ofRouters])

theorem TriggerErrors.AreFramework.of_lastEvent {errors : TriggerErrors}
    (herrors : errors.AreFramework) {book : Option EventBook}
    (herror : lastEvent errors book = .error error) : error.IsFramework := by
  unfold lastEvent at herror
  split at herror
  · cases herror
    exact herrors.missing
  · split at herror
    · cases herror
      exact herrors.empty
    · split at herror
      · cases herror
      · cases herror
        exact herrors.noEvent

theorem isFramework_replayPages {model : StateModel S Msg} {base : S}
    {pages : List EventPage}
    (herror : replayPages model.applies base pages = .error error) :
    error.IsFramework := by
  rw [StateModel.replayPages_eq_replay, EventFold.replay_eq_error_iff] at herror
  obtain ⟨_, _, _, -, -, hread⟩ := herror
  obtain ⟨typeUrl, cause, rfl⟩ := StateModel.readPage_eq_error hread
  exact isFramework_anyDecodeFailed typeUrl cause

theorem isFramework_stateCodec {α : Type} {x : Except String α}
    (herror : x.mapError ClientError.stateCodecFailed = .error error) :
    error.IsFramework := by
  cases x with
  | ok a => cases herror
  | error cause =>
      cases herror
      exact isFramework_ofCode (by simp [messages.ofRouters])

end Own

section Arms

variable {key : String → ArmKey} {input : In} {payload : Any}

/-- A matched arm fails on its payload, or because its method, run last, rejects. -/
theorem attributed_execute (arm : TypedArm Msg In Out) :
    Attributed (arm.Rejects key) (arm.execute key input payload) := by
  intro error herror
  cases hdecode : arm.messageType.decode payload.value with
  | error cause =>
      rw [TypedArm.execute_of_undecodable hdecode] at herror
      cases herror
      exact Or.inl (isFramework_anyDecodeFailed payload.typeUrl cause)
  | ok message =>
      rw [TypedArm.execute_of_decode hdecode] at herror ⊢
      cases hrun : arm.run message input with
      | ok out => rw [hrun] at herror; cases herror
      | error rejection =>
          rw [hrun] at herror
          cases herror
          exact Or.inr ⟨[], _, rfl, rejection, rfl, rfl, rfl, message, input, hdecode,
            hrun⟩

theorem attributed_runArms (arms : List (TypedArm Msg In Out)) :
    Attributed (fun run rejection => ∃ arm ∈ arms, arm.Rejects key run rejection)
      (runArms key input payload arms) := by
  rw [runArms_eq]
  cases hfirst : firstArm payload.typeUrl arms with
  | none => exact explained_pure none
  | some arm =>
      apply Explained.map
      apply (attributed_execute arm).mono
      rintro run error ⟨rejection, rfl, hrejects⟩
      exact ⟨rejection, rfl, arm, List.mem_of_find?_eq_some hfirst, hrejects⟩

theorem attributed_runRejectedArms (notification : Notification) (key : String × String)
    (state : S) (payload : Any) (arms : List (RejectedArm S)) :
    Attributed (fun run rejection => ∃ arm ∈ arms, arm.Rejects run rejection)
      (runRejectedArms notification key state payload arms) := by
  rw [runRejectedArms_eq]
  cases hfirst : arms.find? fun arm => key = arm.key with
  | none => exact explained_pure none
  | some arm =>
      apply Explained.map
      rw [RejectedArm.execute_eq]
      intro error herror
      cases hrun : arm.run notification state with
      | ok response => rw [hrun] at herror; cases herror
      | error rejection =>
          rw [hrun] at herror
          cases herror
          exact Or.inr ⟨[], _, rfl, rejection, rfl, arm,
            List.mem_of_find?_eq_some hfirst, rfl, rfl, notification, state, hrun⟩

end Arms

section Kinds

/-- What one list of arms rejects, the handler rejects. -/
theorem attributed_mono {α : Type}
    {rejects rejects' : MethodRun → CommandRejectedError → Prop} {run : HandlerRun α}
    (hrun : Attributed rejects run)
    (hmono : ∀ run rejection, rejects run rejection → rejects' run rejection) :
    Attributed rejects' run := by
  apply hrun.mono
  rintro run error ⟨rejection, rfl, hrejects⟩
  exact ⟨rejection, rfl, hmono run rejection hrejects⟩

theorem attributed_rebuild {rejects : MethodRun → CommandRejectedError → Prop}
    (model : StateModel S Msg) (pages : List EventPage) :
    Attributed rejects (Traced.ofExcept (model.rebuild pages)) :=
  explained_ofExcept fun _ herror => isFramework_replayPages herror

variable (prost : Prost)

theorem Aggregate.attributed_dispatchCommand (aggregate : Aggregate S Msg)
    (cmd : ContextualCommand) :
    Attributed ((aggregate.handler prost).Rejects prost)
      (aggregate.dispatchCommand prost cmd) := by
  rw [dispatchCommand]
  apply (explained_ofExcept fun _ herror => isFramework_commandPayload herror).bind
  intro payload _
  apply (attributed_rebuild _ _).bind
  intro state _
  split
  · apply (explained_ofExcept fun _ herror => isFramework_openNotification herror).bind
    intro opened _
    apply Explained.bind
    · apply attributed_mono (attributed_runRejectedArms _ _ _ _ _)
      rintro run rejection ⟨arm, harm, hrejects⟩
      exact .compensation aggregate harm hrejects
    · exact fun answer _ => explained_pure _
  · apply Explained.bind
    · apply attributed_mono (attributed_runArms _)
      rintro run rejection ⟨arm, harm, hrejects⟩
      exact .command aggregate harm hrejects
    · intro answer _
      cases answer with
      | none => exact explained_fail (isFramework_ofCode (by simp [messages.ofRouters]))
      | some events => exact explained_pure _

theorem Aggregate.attributed_walkFacts (aggregate : Aggregate S Msg) (state : S)
    (merged pages : List EventPage) :
    Attributed ((aggregate.handler prost).Rejects prost)
      (aggregate.walkFacts state merged pages) := by
  induction pages generalizing merged with
  | nil => exact explained_pure merged
  | cons page rest ih =>
      rw [walkFacts]
      split
      · apply Explained.bind
        · apply attributed_mono (attributed_runArms _)
          rintro run rejection ⟨arm, harm, hrejects⟩
          exact .fact aggregate harm hrejects
        · intro answer _
          cases answer with
          | none => exact ih merged
          | some events => exact ih (merged ++ events.pages)
      · exact ih merged

theorem Aggregate.attributed_dispatchReplay (aggregate : Aggregate S Msg)
    (request : ReplayRequest) :
    Attributed ((aggregate.handler prost).Rejects prost)
      (aggregate.dispatchReplay request) := by
  rw [dispatchReplay]
  cases aggregate.replay with
  | none => exact explained_fail (isFramework_wrongRequestKind _)
  | some codec =>
      apply Explained.bind
      · apply explained_ofExcept
        intro error herror
        rw [baseState] at herror
        split at herror
        · split at herror
          · exact isFramework_stateCodec herror
          · cases herror
        · cases herror
      intro base _
      apply (explained_ofExcept fun _ herror => isFramework_replayPages herror).bind
      intro state _
      apply (explained_ofExcept fun _ herror => isFramework_stateCodec herror).bind
      exact fun value _ => explained_pure _

theorem Aggregate.attributed_dispatch (aggregate : Aggregate S Msg)
    (request : HandlerRequest) :
    Attributed ((aggregate.handler prost).Rejects prost)
      (aggregate.dispatch prost request) := by
  cases request with
  | commandHandler cmd => exact aggregate.attributed_dispatchCommand prost cmd
  | handleFact request =>
      apply (attributed_rebuild _ _).bind
      intro state _
      apply (aggregate.attributed_walkFacts prost state [] _).bind
      exact fun pages _ => explained_pure _
  | replay request => exact aggregate.attributed_dispatchReplay prost request
  | saga | processManager | projector | upcaster =>
      exact explained_fail (isFramework_wrongRequestKind _)

theorem Saga.attributed_dispatch (saga : Saga Msg) (request : HandlerRequest) :
    Attributed (saga.handler.Rejects prost) (saga.dispatch request) := by
  cases request with
  | saga request =>
      apply (explained_ofExcept fun _ herror =>
        sagaErrors_areFramework.of_lastEvent herror).bind
      intro eventAny _
      apply Explained.bind
      · apply attributed_mono (attributed_runArms _)
        rintro run rejection ⟨arm, harm, hrejects⟩
        exact .saga saga harm hrejects
      · exact fun answer _ => explained_pure _
  | commandHandler | handleFact | replay | processManager | projector | upcaster =>
      exact explained_fail (isFramework_wrongRequestKind _)

theorem ProcessManager.attributed_dispatch (manager : ProcessManager S Msg)
    (request : HandlerRequest) :
    Attributed (manager.handler.Rejects prost) (manager.dispatch request) := by
  cases request with
  | processManager request =>
      apply (attributed_rebuild _ _).bind
      intro state _
      apply (explained_ofExcept fun _ herror =>
        pmErrors_areFramework.of_lastEvent herror).bind
      intro eventAny _
      apply Explained.bind
      · apply attributed_mono (attributed_runArms _)
        rintro run rejection ⟨arm, harm, hrejects⟩
        exact .processManager manager harm hrejects
      · exact fun answer _ => explained_pure _
  | commandHandler | handleFact | replay | saga | projector | upcaster =>
      exact explained_fail (isFramework_wrongRequestKind _)

theorem Projector.attributed_serve (projector : Projector I Msg) (self : I)
    (request : HandlerRequest) :
    Attributed (projector.handler.Rejects prost) (projector.serve self request) := by
  have hpages : ∀ (self : I) (pages : List EventPage),
      Attributed (projector.handler.Rejects prost)
        (projector.projectPages self pages) := by
    intro self pages
    induction pages generalizing self with
    | nil => exact explained_pure self
    | cons page rest ih =>
        apply Explained.bind
        · rw [projectPage]
          split
          · apply Explained.bind
            · apply attributed_mono (attributed_runArms _)
              rintro run rejection ⟨arm, harm, hrejects⟩
              exact .projector projector harm hrejects
            · exact fun changed _ => explained_pure _
          · exact explained_pure self
        · exact fun changed _ => ih changed
  cases request with
  | projector book =>
      exact (hpages self book.pages).bind fun changed _ => explained_pure _
  | commandHandler | handleFact | replay | saga | processManager | upcaster =>
      exact explained_fail (isFramework_wrongRequestKind _)

theorem Upcaster.attributed_dispatch (upcaster : Upcaster Msg)
    (request : HandlerRequest) :
    Attributed (upcaster.handler.Rejects prost) (upcaster.dispatch request) := by
  have hpages : ∀ outPages pages : List EventPage,
      Attributed (upcaster.handler.Rejects prost)
        (upcaster.upcastPages outPages pages) := by
    intro outPages pages
    induction pages generalizing outPages with
    | nil => exact explained_pure outPages
    | cons page rest ih =>
        apply Explained.bind
        · rw [upcastPage]
          split
          · rw [runUpcasts_eq]
            split
            · exact explained_pure page
            · rw [UpcastArm.execute]
              split
              · exact explained_fail (isFramework_anyDecodeFailed _ _)
              · exact .of_ok rfl
          · exact explained_pure page
        · exact fun out _ => ih (outPages ++ [out])
  cases request with
  | upcaster request =>
      exact (hpages [] request.events).bind fun out _ => explained_pure _
  | commandHandler | handleFact | replay | saga | processManager | projector =>
      exact explained_fail (isFramework_wrongRequestKind _)

end Kinds

end AngzarrClient
