/-
What the routers and the generated handlers read off a request before they
route it: the command payload, the rejection key, the triggering event
(`router/runtime.rs`, and the copies of it that `angzarr-macros` emits).
-/
import AngzarrClient.Convert
import AngzarrClient.Error

namespace AngzarrClient

/-- The payload of the command's first page, or an error on any missing
nesting layer. -/
def commandPayload (cmd : ContextualCommand) : Except ClientError Any :=
  match cmd.command with
  | none => .error .missingCommandBook
  | some book =>
      match book.pages.head? with
      | none => .error .missingCommandPage
      | some page =>
          match page.payload with
          | some (.command payload) => .ok payload
          | _ => .error .missingCommandPayload

/-- `extract_command_type_url`. -/
def extractCommandTypeUrl (cmd : ContextualCommand) : Except ClientError String :=
  (commandPayload cmd).map Any.typeUrl

/-- The domain of the command's cover, if there is a cover. -/
def ContextualCommand.coverDomain (cmd : ContextualCommand) : Option String :=
  (cmd.command.bind CommandBook.cover).map Cover.domain

/-- The domain of a rejected command, empty when a layer is missing. -/
def RejectionNotification.targetDomain (rejection : RejectionNotification) :
    String :=
  ((rejection.rejectedCommand.bind CommandBook.cover).map Cover.domain).getD ""

/-- The type URL of a rejected command. -/
def RejectionNotification.commandUrl (rejection : RejectionNotification) :
    Option String :=
  rejection.rejectedCommand.bind fun book =>
    book.pages.head?.bind fun page =>
      match page.payload with
      | some (.command any) => some any.typeUrl
      | _ => none

/-- What follows the last `/`, and in that what follows the last `.`. -/
def commandSuffix (url : String) : String := rsplitNext '.' (rsplitNext '/' url)

/-- The rejection key `(target_domain, target_command_suffix)`. -/
def RejectionNotification.key (rejection : RejectionNotification) :
    String × String :=
  (rejection.targetDomain, (rejection.commandUrl.map commandSuffix).getD "")

/-- Open a notification payload: the notification, and the rejection inside. -/
def openNotification (prost : Prost) (payload : Any) :
    Except ClientError (Notification × RejectionNotification) :=
  match prost.notification payload.value with
  | .error cause => .error (.notificationDecodeFailed cause)
  | .ok notification =>
      match notification.payload with
      | none => .ok (notification, {})
      | some inner =>
          match prost.rejectionNotification inner.value with
          | .error cause => .error (.rejectionNotificationDecodeFailed cause)
          | .ok rejection => .ok (notification, rejection)

/-- `extract_rejection_key`. -/
def extractRejectionKey (prost : Prost) (cmd : ContextualCommand) :
    Except ClientError (String × String) := do
  let payload ← commandPayload cmd
  let (_, rejection) ← openNotification prost payload
  pure rejection.key

/-- The errors of one kind of trigger book. -/
structure TriggerErrors where
  missing : ClientError
  empty : ClientError
  noEvent : ClientError
  invalidTypeUrl : String → ClientError

def sagaErrors : TriggerErrors where
  missing := .ofCode codes.missingSagaSource messages.missingSagaSource []
  empty := .ofCode codes.emptySagaSource messages.emptySagaSource []
  noEvent :=
    .ofCode codes.missingSagaEventPayload messages.missingSagaEventPayload []
  invalidTypeUrl url :=
    .ofCode codes.sagaInvalidTypeUrl messages.sagaInvalidTypeUrl
      [(keys.typeUrl, url)]

def pmErrors : TriggerErrors where
  missing := .ofCode codes.missingPmTrigger messages.missingPmTrigger []
  empty := .ofCode codes.emptyPmTrigger messages.emptyPmTrigger []
  noEvent := .ofCode codes.missingPmEventPayload messages.missingPmEventPayload []
  invalidTypeUrl url :=
    .ofCode codes.pmInvalidTypeUrl messages.pmInvalidTypeUrl [(keys.typeUrl, url)]

/-- The event on the last page of a trigger book. -/
def lastEvent (errors : TriggerErrors) (book : Option EventBook) :
    Except ClientError Any :=
  match book with
  | none => .error errors.missing
  | some book =>
      match book.pages.getLast? with
      | none => .error errors.empty
      | some page =>
          match page.payload with
          | some (.event any) => .ok any
          | _ => .error errors.noEvent

/-- The router also refuses an empty or a non-googleapis type URL. -/
def extractEventTypeUrl (errors : TriggerErrors) (book : Option EventBook) :
    Except ClientError String :=
  match lastEvent errors book with
  | .error error => .error error
  | .ok any =>
      if any.typeUrl = "" ∨ hasTypeUrlPrefix any.typeUrl = false then
        .error (errors.invalidTypeUrl any.typeUrl)
      else .ok any.typeUrl

/-- `extract_saga_event_type_url`. -/
def extractSagaEventTypeUrl (request : SagaHandleRequest) :
    Except ClientError String :=
  extractEventTypeUrl sagaErrors request.source

/-- `extract_pm_event_type_url`. -/
def extractPmEventTypeUrl (request : ProcessManagerHandleRequest) :
    Except ClientError String :=
  extractEventTypeUrl pmErrors request.trigger

/-- The domain of a book's cover, empty when a layer is missing. -/
def bookDomain (book : Option EventBook) : String :=
  ((book.bind EventBook.cover).map Cover.domain).getD ""

theorem extractCommandTypeUrl_eq_ok_iff {cmd : ContextualCommand} {url : String} :
    extractCommandTypeUrl cmd = .ok url ↔
      ∃ payload, commandPayload cmd = .ok payload ∧ payload.typeUrl = url := by
  rw [extractCommandTypeUrl]
  cases commandPayload cmd with
  | error error => simp [Except.map]
  | ok payload => simp [Except.map]

theorem extractRejectionKey_eq_ok_iff {prost : Prost} {cmd : ContextualCommand}
    {key : String × String} :
    extractRejectionKey prost cmd = .ok key ↔
      ∃ payload notification rejection,
        commandPayload cmd = .ok payload ∧
        openNotification prost payload = .ok (notification, rejection) ∧
        rejection.key = key := by
  rw [extractRejectionKey]
  cases commandPayload cmd with
  | error error => simp [bind, Except.bind]
  | ok payload =>
      cases hopen : openNotification prost payload with
      | error error => simp [bind, Except.bind, hopen]
      | ok opened => simp [bind, Except.bind, pure, Except.pure, hopen, Prod.ext_iff]

/-- The router and a generated handler read the same event, and the router
only lets a well-formed type URL through. -/
theorem extractEventTypeUrl_eq_ok_iff {errors : TriggerErrors}
    {book : Option EventBook} {url : String} :
    extractEventTypeUrl errors book = .ok url ↔
      ∃ any, lastEvent errors book = .ok any ∧ any.typeUrl = url ∧
        hasTypeUrlPrefix url = true := by
  rw [extractEventTypeUrl]
  cases lastEvent errors book with
  | error error => simp
  | ok any =>
      constructor
      · intro hurl
        dsimp only at hurl
        split_ifs at hurl with hbad
        rw [not_or, Bool.not_eq_false] at hbad
        cases hurl
        exact ⟨any, rfl, rfl, hbad.2⟩
      · rintro ⟨other, hany, rfl, hprefixed⟩
        cases hany
        have hne := ne_empty_of_hasTypeUrlPrefix hprefixed
        simp [hne, hprefixed]

/-- A suffix holds neither separator. -/
theorem not_mem_commandSuffix {url : String} {c : Char} (hc : c = '/' ∨ c = '.') :
    c ∉ (commandSuffix url).toList := by
  rcases hc with rfl | rfl
  · intro hmem
    exact not_mem_rsplitNext '/' url (mem_of_mem_rsplitNext hmem)
  · exact not_mem_rsplitNext '.' (rsplitNext '/' url)

/-- The type URL of a top-level message ends in the message's name. -/
theorem commandSuffix_prefixed {name : String} (hslash : '/' ∉ name.toList)
    (hdot : '.' ∉ name.toList) : commandSuffix (typeUrlPrefix ++ name) = name := by
  rw [commandSuffix, rsplitNext_append (by decide) hslash, rsplitNext_of_not_mem hdot]

example : commandSuffix "type.googleapis.com/payment.ProcessPayment" =
    "ProcessPayment" := by
  decide

end AngzarrClient
