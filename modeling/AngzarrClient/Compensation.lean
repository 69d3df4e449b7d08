/-
The helpers of a `#[rejected]` method (`compensation.rs`): the parsed context of
a rejection notification, and the answers that delegate to the framework or emit
compensation events.
-/
import AngzarrClient.Convert

namespace AngzarrClient

/-- What is read off a rejection notification. -/
structure CompensationContext where
  sourceEventSequence : UInt32 := 0
  rejectionReason : String := ""
  rejectedCommand : Option CommandBook := none
  sourceAggregate : Option Cover := none
deriving DecidableEq, Repr

namespace CompensationContext

/-- The deferred sequence in the header of the rejected command's first page. -/
def deferredSource (command : Option CommandBook) : Option AngzarrDeferredSequence :=
  command.bind fun cmd => cmd.pages.head?.bind fun page => page.header.bind fun header =>
    match header.sequenceType with
    | some (.angzarrDeferred deferred) => some deferred
    | _ => none

/-- `from_notification`: a payload that is missing or does not decode leaves
the context empty. -/
def fromNotification (prost : Prost) (notification : Notification) :
    CompensationContext :=
  match notification.payload with
  | none => {}
  | some payload =>
      match prost.rejectionNotification payload.value with
      | .error _ => {}
      | .ok rejection =>
          let deferred := deferredSource rejection.rejectedCommand
          { rejectionReason := rejection.rejectionReason
            rejectedCommand := rejection.rejectedCommand
            sourceAggregate := deferred.bind AngzarrDeferredSequence.source
            sourceEventSequence :=
              (deferred.map AngzarrDeferredSequence.sourceSeq).getD 0 }

/-- `rejected_command_type`. -/
def rejectedCommandType (ctx : CompensationContext) : String :=
  (ctx.rejectedCommand.bind fun cmd => cmd.pages.head?.bind fun page =>
    match page.payload with
    | some (.command c) => some c.typeUrl
    | _ => none).getD ""

/-- `dispatch_key`. -/
def dispatchKey (ctx : CompensationContext) : String :=
  match ((ctx.rejectedCommand.bind CommandBook.cover).map Cover.domain).filter
      (· ≠ "") with
  | none => ""
  | some domain =>
      if ctx.rejectedCommandType = "" then ""
      else domain ++ "/" ++ typeNameFromUrl ctx.rejectedCommandType

end CompensationContext

structure DelegationOptions where
  emitSystemEvent : Bool := true
  sendToDeadLetter : Bool := false
  escalate : Bool := false
  abort : Bool := false
deriving DecidableEq, Repr

/-- `delegate_to_framework`. -/
def delegateToFramework (reason : String) (options : DelegationOptions) :
    BusinessResponse where
  result := some (.revocation
    { emitSystemRevocation := options.emitSystemEvent
      sendToDeadLetterQueue := options.sendToDeadLetter
      escalate := options.escalate
      abort := options.abort
      reason := reason })

/-- `emit_compensation_events`. -/
def emitCompensationEvents (events : EventBook) : BusinessResponse where
  result := some (.events events)

structure PMRevocationResponse where
  processEvents : Option EventBook := none
  revocation : RevocationResponse
deriving DecidableEq, Repr

/-- `pm_delegate_to_framework`. -/
def pmDelegateToFramework (reason : String) (options : DelegationOptions) :
    PMRevocationResponse where
  revocation :=
    { emitSystemRevocation := options.emitSystemEvent
      sendToDeadLetterQueue := options.sendToDeadLetter
      escalate := options.escalate
      abort := options.abort
      reason := reason }

/-- `pm_emit_compensation_events`. -/
def pmEmitCompensationEvents (events : EventBook) (alsoEmitSystemEvent : Bool)
    (reason : String) : PMRevocationResponse where
  processEvents := some events
  revocation := { emitSystemRevocation := alsoEmitSystemEvent, reason := reason }

/-- `is_notification`. -/
def isNotification (typeUrl : String) : Bool := typeUrl = notificationTypeUrl

namespace BusinessResponse

/-- The pages of an `Events` result; no other result has pages. -/
def eventPages (response : BusinessResponse) : List EventPage :=
  match response.result with
  | some (.events book) => book.pages
  | _ => []

def IsEvents (response : BusinessResponse) : Prop :=
  ∃ book, response.result = some (.events book)

/-- `merged` still says what `answer` said: the event pages are among its
pages, in their order and without a gap, and any other result is its result. -/
def Carries (merged answer : BusinessResponse) : Prop :=
  match answer.result with
  | some (.events book) =>
      ∃ all, merged.result = some (.events all) ∧ book.pages <:+: all.pages
  | other => merged.result = other

/-- The variants agree, and so do the event pages or the other contents. -/
def SameDecision (merged answer : BusinessResponse) : Prop :=
  match answer.result with
  | some (.events book) =>
      ∃ all, merged.result = some (.events all) ∧ all.pages = book.pages
  | other => merged.result = other

theorem isEvents_emitCompensationEvents (events : EventBook) :
    (emitCompensationEvents events).IsEvents := ⟨events, rfl⟩

/-- An `Events` response carries its own variant only. -/
theorem Carries.isEvents {merged answer : BusinessResponse}
    (hmerged : merged.IsEvents) (hcarries : Carries merged answer) :
    answer.IsEvents := by
  obtain ⟨book, hbook⟩ := hmerged
  rw [Carries] at hcarries
  split at hcarries
  · rename_i answered hanswered
    exact ⟨answered, hanswered⟩
  · rw [hbook] at hcarries
    exact ⟨book, hcarries.symm⟩

theorem SameDecision.carries {merged answer : BusinessResponse}
    (hsame : SameDecision merged answer) : Carries merged answer := by
  rw [SameDecision] at hsame
  rw [Carries]
  split at hsame
  · obtain ⟨all, hmerged, hpages⟩ := hsame
    have hinfix : all.pages <:+: all.pages := List.infix_rfl
    exact ⟨all, hmerged, hpages ▸ hinfix⟩
  · exact hsame

end BusinessResponse

end AngzarrClient
