/-
The rejection key.  The router, the code that `#[command_handler]` generates and
`CompensationContext` each walk the rejected command for a domain and a command
name; the first two compute the same pair, and the third joins it into a string
from which the pair can be read back.
-/
import AngzarrClient.Router.Rejection

namespace AngzarrClient

open CommandHandlerRouter

namespace Aggregate

/-- `target_domain` in the generated rejection branch. -/
def targetDomain (rejection : RejectionNotification) : String :=
  (rejection.rejectedCommand.bind fun cb => cb.cover.map fun c => c.domain).getD ""

/-- `target_command_suffix` there. -/
def targetCommandSuffix (rejection : RejectionNotification) : String :=
  ((rejection.rejectedCommand.bind fun cb => cb.pages.head?.bind fun p =>
      match p.payload with
      | some (.command a) => some a.typeUrl
      | _ => none).map fun url =>
    (rsplit '.' ((rsplit '/' url).head?.getD "")).head?.getD "").getD ""

/-- The notification the generated branch hands to its arms, and the key it
compares them with. -/
def rejectionKey (prost : Prost) (payload : Any) :
    Except ClientError (Notification × String × String) := do
  let notification ← (prost.notification payload.value).mapError .notificationDecodeFailed
  let rejection ←
    match notification.payload with
    | some p =>
        (prost.rejectionNotification p.value).mapError .rejectionNotificationDecodeFailed
    | none => .ok {}
  .ok (notification, targetDomain rejection, targetCommandSuffix rejection)

variable {S Msg : Type}

/-- The command ran the method of one rejection arm for the key, once, and the
answer is what that method returned. -/
def AnsweredByRejectedArm (aggregate : Aggregate S Msg) (prost : Prost)
    (key : String × String) (cmd : ContextualCommand) : Prop :=
  ∃ arm ∈ aggregate.rejected, arm.key = key ∧
    ∃ (notification : Notification) (state : S) (payload : Any),
      (aggregate.handler prost).dispatch (.commandHandler cmd) =
        ⟨[⟨arm.method, .rejected key.1 key.2, payload⟩],
          ((arm.run notification state).mapError ClientError.rejected).map
            .commandHandler⟩

end Aggregate

/-- Read a dispatch key back: the last slash ends the domain. -/
def splitDispatchKey (key : String) : String × String :=
  (String.ofList (key.toList.rdropWhile (· != '/')).dropLast, commandSuffix key)

section Extraction

theorem targetDomain_eq (rejection : RejectionNotification) :
    Aggregate.targetDomain rejection = rejection.key.1 := by
  obtain ⟨command, reason⟩ := rejection
  rcases command with _ | ⟨cover, pages⟩
  · rfl
  · rfl

theorem targetCommandSuffix_eq (rejection : RejectionNotification) :
    Aggregate.targetCommandSuffix rejection = rejection.key.2 := by
  simp only [Aggregate.targetCommandSuffix, head?_rsplit, Option.getD_some]
  rfl

/-- The generated branch opens the payload as the router does. -/
theorem rejectionKey_eq (prost : Prost) (payload : Any) :
    Aggregate.rejectionKey prost payload =
      (openNotification prost payload).map fun opened => (opened.1, opened.2.key) := by
  rw [Aggregate.rejectionKey, openNotification]
  cases prost.notification payload.value with
  | error cause => rfl
  | ok notification =>
      obtain ⟨inner⟩ := notification
      simp only [targetDomain_eq, targetCommandSuffix_eq]
      rcases inner with _ | inner
      · rfl
      · change Except.bind
          (Except.mapError _ (prost.rejectionNotification inner.value)) _ = _
        dsimp only
        cases prost.rejectionNotification inner.value with
        | error cause => rfl
        | ok rejection => rfl

/-- The router and the generated branch compute the same key from a payload. -/
theorem extractRejectionKey_eq {prost : Prost} {cmd : ContextualCommand} {payload : Any}
    (hpayload : commandPayload cmd = .ok payload) :
    extractRejectionKey prost cmd =
      (Aggregate.rejectionKey prost payload).map Prod.snd := by
  rw [extractRejectionKey, hpayload, rejectionKey_eq]
  change Except.bind (openNotification prost payload) _ = _
  cases openNotification prost payload with
  | error error => rfl
  | ok opened => rfl

end Extraction

section Generated

variable {S Msg : Type} {aggregate : Aggregate S Msg} {prost : Prost}
  {cmd : ContextualCommand} {key : String × String}

/-- The generated rejection branch, in terms of the key it computes. -/
theorem Aggregate.dispatchCommand_eq_rejectionKey {payload : Any} {state : S}
    (hpayload : commandPayload cmd = .ok payload)
    (hkind : payload.typeUrl = notificationTypeUrl)
    (hstate : aggregate.state.rebuild (cmd.events.getD {}).pages = .ok state) :
    aggregate.dispatchCommand prost cmd =
      Traced.ofExcept (rejectionKey prost payload) >>= fun opened =>
        rejectionResponse <$>
          runRejectedArms opened.1 opened.2 state payload aggregate.rejected := by
  cases hopen : openNotification prost payload with
  | error error =>
      rw [rejectionKey_eq, hopen]
      simp [dispatchCommand, hpayload, hstate, hkind, hopen, Except.map]
  | ok opened =>
      rw [dispatchCommand_of_notification hpayload hkind hstate hopen, rejectionKey_eq,
        hopen]
      rfl

/-- A config lists the keys of the arms. -/
theorem reactsTo_handler_iff :
    reactsTo key (aggregate.handler prost).config = true ↔
      ∃ arm ∈ aggregate.rejected, arm.key = key := by
  simp [reactsTo, Aggregate.handler, Aggregate.config]

/-- Once the state is rebuilt, a handler that lists the key runs an arm. -/
theorem answeredByRejectedArm_of_rebuild {state : S}
    (hkind : extractCommandTypeUrl cmd = .ok notificationTypeUrl)
    (hkey : extractRejectionKey prost cmd = .ok key)
    (hreacts : reactsTo key (aggregate.handler prost).config = true)
    (hstate : aggregate.state.rebuild (cmd.events.getD {}).pages = .ok state) :
    aggregate.AnsweredByRejectedArm prost key cmd := by
  obtain ⟨payload, hpayload, hurl⟩ := extractCommandTypeUrl_eq_ok_iff.mp hkind
  rw [extractRejectionKey_eq hpayload] at hkey
  have hdispatch : (aggregate.handler prost).dispatch (.commandHandler cmd) = _ :=
    Aggregate.dispatchCommand_eq_rejectionKey hpayload hurl hstate
  cases hcomputed : Aggregate.rejectionKey prost payload with
  | error error => rw [hcomputed] at hkey; cases hkey
  | ok opened =>
      obtain ⟨notification, computed⟩ := opened
      rw [hcomputed] at hkey hdispatch
      have hsame : computed = key := Except.ok.inj hkey
      subst hsame
      cases hfirst : aggregate.rejected.find? fun arm => computed = arm.key with
      | none =>
          obtain ⟨arm, hmem, harm⟩ := reactsTo_handler_iff.mp hreacts
          have hno := List.find?_eq_none.mp hfirst arm hmem
          exact absurd harm.symm (by simpa using hno)
      | some arm =>
          have harm : computed = arm.key := by
            simpa using List.find?_some hfirst
          refine ⟨arm, List.mem_of_find?_eq_some hfirst, harm.symm, notification, state,
            payload, ?_⟩
          rw [hdispatch, Traced.ofExcept_ok, pure_bind, runRejectedArms_eq, hfirst, harm]
          dsimp only
          rw [RejectedArm.execute_eq]
          cases arm.run notification state with
          | error rejection => rfl
          | ok response => rfl

/-- A state that cannot be rebuilt ends the dispatch before any arm. -/
theorem dispatch_of_rebuild_error {error : ClientError}
    (hkind : extractCommandTypeUrl cmd = .ok notificationTypeUrl)
    (hstate : aggregate.state.rebuild (cmd.events.getD {}).pages = .error error) :
    (aggregate.handler prost).dispatch (.commandHandler cmd) = .fail error := by
  obtain ⟨payload, hpayload, -⟩ := extractCommandTypeUrl_eq_ok_iff.mp hkind
  exact Aggregate.dispatchCommand_of_rebuild_error hpayload hstate

end Generated

section DispatchKey

open CompensationContext

/-- A domain, a slash and a name without slashes determine each other. -/
theorem splitDispatchKey_append (domain : String) {name : String}
    (hname : '/' ∉ name.toList) :
    splitDispatchKey (domain ++ "/" ++ name) = (domain, rsplitNext '.' name) := by
  have hall : ∀ c ∈ name.toList.reverse, (c != '/') = true := by
    intro c hc
    rw [bne_iff_ne]
    rintro rfl
    exact hname (List.mem_reverse.mp hc)
  have hslash : ['/'] <:+ (domain ++ "/").toList := by
    rw [String.toList_append]
    exact List.suffix_append _ _
  have hdomain : (domain ++ "/" ++ name).toList.rdropWhile (· != '/') =
      domain.toList ++ ['/'] := by
    rw [List.rdropWhile, String.toList_append, String.toList_append, List.reverse_append,
      List.dropWhile_append_of_pos hall]
    simp
  rw [splitDispatchKey, hdomain, List.dropLast_concat, String.ofList_toList,
    commandSuffix, rsplitNext_append hslash hname]

/-- A key that is not empty has a domain and a command to name. -/
theorem exists_url_of_dispatchKey_ne {ctx : CompensationContext}
    {rejection : RejectionNotification}
    (hcommand : ctx.rejectedCommand = rejection.rejectedCommand)
    (hne : ctx.dispatchKey ≠ "") :
    ∃ url, rejection.commandUrl = some url ∧
      ctx.dispatchKey = rejection.targetDomain ++ "/" ++ typeNameFromUrl url := by
  have htype : ctx.rejectedCommandType = rejection.commandUrl.getD "" := by
    rw [rejectedCommandType, hcommand]
    rfl
  rw [dispatchKey, htype, hcommand] at hne ⊢
  cases hdomain : ((rejection.rejectedCommand.bind CommandBook.cover).map
      Cover.domain).filter (· ≠ "") with
  | none => exact absurd (by rw [hdomain]) hne
  | some domain =>
      rw [hdomain] at hne
      have htarget : rejection.targetDomain = domain := by
        rw [RejectionNotification.targetDomain, (Option.filter_eq_some_iff.mp hdomain).1,
          Option.getD_some]
      cases hurl : rejection.commandUrl with
      | none => exact absurd (by simp [hurl]) hne
      | some url =>
          have hurlNe : url ≠ "" := by
            rintro rfl
            exact hne (by simp [hurl])
          refine ⟨url, rfl, ?_⟩
          rw [htarget]
          exact if_neg hurlNe

/-- A dispatch key joins the domain of the rejection key and a name without
slashes whose last part is the command of the rejection key. -/
theorem exists_name_of_dispatchKey_ne {prost : Prost} {notification : Notification}
    (hne : (fromNotification prost notification).dispatchKey ≠ "") :
    ∃ inner rejection name, notification.payload = some inner ∧
      prost.rejectionNotification inner.value = .ok rejection ∧
      (fromNotification prost notification).dispatchKey =
        rejection.key.1 ++ "/" ++ name ∧
      '/' ∉ name.toList ∧ rsplitNext '.' name = rejection.key.2 := by
  cases hpayload : notification.payload with
  | none =>
      rw [fromNotification, hpayload] at hne
      exact absurd rfl hne
  | some inner =>
      cases hdecode : prost.rejectionNotification inner.value with
      | error cause =>
          rw [fromNotification, hpayload] at hne
          dsimp only at hne
          rw [hdecode] at hne
          exact absurd rfl hne
      | ok rejection =>
          have hcommand : (fromNotification prost notification).rejectedCommand =
              rejection.rejectedCommand := by
            simp only [fromNotification, hpayload, hdecode]
          obtain ⟨url, hurl, hkey⟩ := exists_url_of_dispatchKey_ne hcommand hne
          refine ⟨inner, rejection, typeNameFromUrl url, rfl, hdecode, hkey, ?_, ?_⟩
          · rw [typeNameFromUrl_eq]
            exact not_mem_rsplitNext '/' url
          · rw [RejectionNotification.key, hurl, typeNameFromUrl_eq]
            rfl

/-- The router's key for a command with this notification. -/
theorem extractRejectionKey_of_notification {prost : Prost} {cmd : ContextualCommand}
    {payload inner : Any} {notification : Notification}
    {rejection : RejectionNotification}
    (hpayload : commandPayload cmd = .ok payload)
    (hnotification : prost.notification payload.value = .ok notification)
    (hinner : notification.payload = some inner)
    (hdecode : prost.rejectionNotification inner.value = .ok rejection) :
    extractRejectionKey prost cmd = .ok rejection.key := by
  have hopen : openNotification prost payload = .ok (notification, rejection) := by
    simp only [openNotification, hnotification, hinner, hdecode]
  exact extractRejectionKey_eq_ok_iff.mpr
    ⟨payload, notification, rejection, hpayload, hopen, rfl⟩

end DispatchKey

/-- The three computations of the rejection key agree.  A generated handler that
the router selected answers with one of its rejection arms, unless its state
cannot be rebuilt, which fails the dispatch; and a dispatch key that is not empty
reads back as the router's key. -/
theorem rejection_keys_agree (prost : Prost) :
    (∀ cmd payload, commandPayload cmd = .ok payload →
      extractRejectionKey prost cmd =
        (Aggregate.rejectionKey prost payload).map Prod.snd) ∧
    (∀ {S Msg : Type} (aggregate : Aggregate S Msg) (cmd : ContextualCommand)
      (key : String × String) (seq : UInt32),
      extractCommandTypeUrl cmd = .ok notificationTypeUrl →
      extractRejectionKey prost cmd = .ok key →
      reactsTo key (aggregate.handler prost).config = true →
      match aggregate.state.rebuild (cmd.events.getD {}).pages with
      | .ok _ => aggregate.AnsweredByRejectedArm prost key (scopedCommand cmd seq)
      | .error error => (aggregate.handler prost).dispatch
          (.commandHandler (scopedCommand cmd seq)) = .fail error) ∧
    ∀ notification,
      (CompensationContext.fromNotification prost notification).dispatchKey ≠ "" →
      ∃ domain command name,
        (CompensationContext.fromNotification prost notification).dispatchKey =
          domain ++ "/" ++ name ∧
        '/' ∉ name.toList ∧ rsplitNext '.' name = command ∧
        splitDispatchKey
          (CompensationContext.fromNotification prost notification).dispatchKey =
            (domain, command) ∧
        ∀ cmd payload, commandPayload cmd = .ok payload →
          prost.notification payload.value = .ok notification →
          extractRejectionKey prost cmd = .ok (domain, command) := by
  refine ⟨fun cmd payload hpayload => extractRejectionKey_eq hpayload, ?_, ?_⟩
  · intro S Msg aggregate cmd key seq hkind hkey hreacts
    have hpages : ((scopedCommand cmd seq).events.getD {}).pages =
        (cmd.events.getD {}).pages := by
      obtain ⟨command, events⟩ := cmd
      rcases events with _ | book
      · rfl
      · rfl
    rw [← hpages]
    cases hstate : aggregate.state.rebuild
        ((scopedCommand cmd seq).events.getD {}).pages with
    | ok state => exact answeredByRejectedArm_of_rebuild hkind hkey hreacts hstate
    | error error => exact dispatch_of_rebuild_error hkind hstate
  · intro notification hne
    obtain ⟨inner, rejection, name, hinner, hdecode, hkey, hslash, hdot⟩ :=
      exists_name_of_dispatchKey_ne hne
    refine ⟨rejection.key.1, rejection.key.2, name, hkey, hslash, hdot, ?_, ?_⟩
    · rw [hkey, splitDispatchKey_append _ hslash, hdot]
    · intro cmd payload hpayload hnotification
      exact extractRejectionKey_of_notification hpayload hnotification hinner hdecode

namespace Sample

/-- An aggregate that follows the flag and compensates for a failed payment. -/
def compensator : Aggregate Bool Bool := reactor "order" compensated

/-- The notification, after an event of the flag's type with these bytes. -/
def notifyAfter (value : Bytes) : ContextualCommand :=
  { notify "order" with events := some { pages := [toggledPage value] } }

end Sample

open Sample in
/-- A prior event that does not decode: the router selects the handler for the
key, and no rejection arm runs. -/
theorem undecodable_event_stops_rejection :
    extractRejectionKey paymentRejected (notifyAfter [9]) =
        .ok ("payment", "ProcessPayment") ∧
      reactsTo ("payment", "ProcessPayment")
        (compensator.handler paymentRejected).config = true ∧
      ¬compensator.AnsweredByRejectedArm paymentRejected ("payment", "ProcessPayment")
        (notifyAfter [9]) := by
  refine ⟨by rfl, by rfl, ?_⟩
  rintro ⟨arm, -, -, notification, state, payload, hdispatch⟩
  have htrace := congrArg Traced.trace hdispatch
  cases htrace

open Sample in
/-- After an event that does decode the arm runs; the key of the notification in
it reads back. -/
theorem rejection_keys_agree_sample :
    compensator.AnsweredByRejectedArm paymentRejected ("payment", "ProcessPayment")
        (scopedCommand (notifyAfter [8, 1]) 7) ∧
      ∃ domain command name, (CompensationContext.fromNotification paymentRejected
          { payload := some ⟨"RejectionNotification", [10, 1]⟩ }).dispatchKey =
        domain ++ "/" ++ name ∧ rsplitNext '.' name = command := by
  have hagree := rejection_keys_agree paymentRejected
  constructor
  · exact hagree.2.1 compensator (notifyAfter [8, 1]) ("payment", "ProcessPayment") 7
      (by rfl) (by rfl) (by rfl)
  · obtain ⟨domain, command, name, hkey, -, hname, -⟩ := hagree.2.2
      { payload := some ⟨"RejectionNotification", [10, 1]⟩ } (by decide)
    exact ⟨domain, command, name, hkey, hname⟩

end AngzarrClient
