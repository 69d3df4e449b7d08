/-
Precondition checks of command handlers (`validation.rs`).  A method runs its checks one
after the other and ends with the first that fails; what that check says of the failure
is what the client of the service is told.
-/
import AngzarrClient.Router.RunsArm
import AngzarrClient.Server.Services

namespace AngzarrClient

/-- A precondition: whether it holds, and the rejection if it does not, which carries one
of the documented status codes. -/
structure Guard where
  holds : Bool
  rejection : CommandRejectedError
  hasClass : (ClientError.rejected rejection).HasClass

/-- The body of every `require_*`. -/
def Guard.check (guard : Guard) : CommandResult Unit :=
  if guard.holds then .ok () else .error guard.rejection

namespace Guard

open CommandRejectedError

/-- A precondition on the arguments of a command. -/
def onArgument (holds : Bool) (code message fieldName : String) : Guard where
  holds := holds
  rejection := invalidArgument code message [(keys.field, fieldName)]
  hasClass := by simp [ClientError.HasClass, invalidArgument]

/-- A precondition on the state of the aggregate. -/
def onState (holds : Bool) (code message context : String) : Guard where
  holds := holds
  rejection := preconditionFailed code message [(keys.context, context)]
  hasClass := by simp [ClientError.HasClass, preconditionFailed]

/-- The aggregate has to exist. -/
def existence (isThere : Bool) (context : String) : Guard where
  holds := isThere
  rejection := notFound codes.entityNotFound messages.entityNotFound [(keys.context, context)]
  hasClass := by simp [ClientError.HasClass, notFound]

def absence (isThere : Bool) (context : String) : Guard :=
  onState (!isThere) codes.entityAlreadyExists messages.entityAlreadyExists context

section Values

variable {T : Type}

/-- A value that does not compare with the default passes. -/
def positive [LE T] [DecidableLE T] [Inhabited T] (value : T) (fieldName : String) : Guard :=
  onArgument (!decide (value ≤ default)) codes.valueNotPositive messages.valueNotPositive
    fieldName

def nonNegative [LT T] [DecidableLT T] [Inhabited T] (value : T) (fieldName : String) :
    Guard :=
  onArgument (!decide (value < default)) codes.valueNotNonNegative
    messages.valueNotNonNegative fieldName

def notEmptyStr (value fieldName : String) : Guard :=
  onArgument (!value.isEmpty) codes.valueEmpty messages.valueEmpty fieldName

def notEmpty (items : List T) (fieldName : String) : Guard :=
  onArgument (!items.isEmpty) codes.collectionEmpty messages.collectionEmpty fieldName

def status [BEq T] (actual expected : T) (context : String) : Guard :=
  onState (actual == expected) codes.statusMismatch messages.statusMismatch context

def statusNot [BEq T] (actual forbidden : T) (context : String) : Guard :=
  onState (actual != forbidden) codes.statusForbidden messages.statusForbidden context

end Values

end Guard

section Checks

variable {T : Type}

/-- `require_exists`. -/
def requireExists (isThere : Bool) (context : String) : CommandResult Unit :=
  (Guard.existence isThere context).check

/-- `require_not_exists`. -/
def requireNotExists (isThere : Bool) (context : String) : CommandResult Unit :=
  (Guard.absence isThere context).check

/-- `require_positive`. -/
def requirePositive [LE T] [DecidableLE T] [Inhabited T] (value : T) (fieldName : String) :
    CommandResult Unit :=
  (Guard.positive value fieldName).check

/-- `require_non_negative`. -/
def requireNonNegative [LT T] [DecidableLT T] [Inhabited T] (value : T)
    (fieldName : String) : CommandResult Unit :=
  (Guard.nonNegative value fieldName).check

/-- `require_not_empty_str`. -/
def requireNotEmptyStr (value fieldName : String) : CommandResult Unit :=
  (Guard.notEmptyStr value fieldName).check

/-- `require_not_empty`. -/
def requireNotEmpty (items : List T) (fieldName : String) : CommandResult Unit :=
  (Guard.notEmpty items fieldName).check

/-- `require_status`. -/
def requireStatus [BEq T] (actual expected : T) (context : String) :
    CommandResult Unit :=
  (Guard.status actual expected context).check

/-- `require_status_not`. -/
def requireStatusNot [BEq T] (actual forbidden : T) (context : String) :
    CommandResult Unit :=
  (Guard.statusNot actual forbidden context).check

end Checks

/-- A method that runs its checks, each followed by `?`, before its body. -/
def guarded {Msg In Out : Type} (guards : Msg → In → List Guard)
    (body : Msg → In → CommandResult Out) (message : Msg) (input : In) :
    CommandResult Out := do
  (guards message input).forM Guard.check
  body message input

/-- The guard is the first of the list that does not hold. -/
def FirstBroken (guards : List Guard) (guard : Guard) : Prop :=
  guards.find? (fun other => !other.holds) = some guard

section Guarded

variable {Msg In Out : Type} {guards : Msg → In → List Guard}
  {body : Msg → In → CommandResult Out} {message : Msg} {input : In}

theorem forM_check_of_holds {checks : List Guard}
    (hholds : ∀ guard ∈ checks, guard.holds = true) :
    checks.forM Guard.check = .ok () := by
  induction checks with
  | nil => rfl
  | cons guard rest ih =>
      rw [List.forall_mem_cons] at hholds
      change (guard.check >>= fun _ => rest.forM Guard.check) = .ok ()
      rw [Guard.check, if_pos hholds.1]
      exact ih hholds.2

theorem forM_check_of_firstBroken {checks : List Guard} {broken : Guard}
    (hbroken : FirstBroken checks broken) :
    checks.forM Guard.check = .error broken.rejection := by
  induction checks with
  | nil => cases hbroken
  | cons guard rest ih =>
      rw [FirstBroken] at hbroken
      change (guard.check >>= fun _ => rest.forM Guard.check) = .error broken.rejection
      rw [Guard.check]
      cases hholds : guard.holds with
      | true =>
          rw [List.find?_cons_of_neg (by simp [hholds])] at hbroken
          rw [if_pos rfl]
          exact ih hbroken
      | false =>
          rw [List.find?_cons_of_pos (by simp [hholds])] at hbroken
          cases hbroken
          rfl

/-- With every guard met, the method is its body. -/
theorem guarded_of_holds (hholds : ∀ guard ∈ guards message input, guard.holds = true) :
    guarded guards body message input = body message input := by
  rw [guarded, forM_check_of_holds hholds]
  rfl

/-- Otherwise the body does not run. -/
theorem guarded_of_firstBroken {broken : Guard}
    (hbroken : FirstBroken (guards message input) broken) :
    guarded guards body message input = .error broken.rejection := by
  rw [guarded, forM_check_of_firstBroken hbroken]
  rfl

end Guarded

section Service

variable {S Msg : Type} {prost : Prost} {router : CommandHandlerRouter}
  {aggregate : Aggregate S Msg} {cmd : ContextualCommand} {payload : Any}
  {arm : TypedArm Msg (S × UInt32) EventBook} {guards : Msg → S × UInt32 → List Guard}
  {body : Msg → S × UInt32 → CommandResult EventBook} {message : Msg} {state : S}

/-- What a client hears of a broken guard: its message, under a status that it classifies
as the rejection itself. -/
structure Hears (guard : Guard) (status : Status) : Prop where
  message : status.message = guard.rejection.message
  sameClass : SameClass (.rejected guard.rejection) (.ofStatus status)

theorem hears_toStatus (guard : Guard) : Hears guard guard.rejection.toStatus :=
  ⟨rfl, (sameClass_rejected_iff guard.rejection).mpr guard.hasClass⟩

/-- In a built router, a command whose method starts with guards on the message, the state
and the sequence: that method runs once and no other does.  With every guard met the
service answers what the body says; otherwise the first broken guard decides what the
client hears, whatever the body and the guards after it would say. -/
theorem guards_decide_command (haccepted : router.Accepted)
    (hmem : aggregate.factory prost ∈ router.factories)
    (hdomain : cmd.coverDomain = some aggregate.domain.value)
    (hpayload : commandPayload cmd = .ok payload)
    (hkind : payload.typeUrl ≠ notificationTypeUrl)
    (harm : firstArm payload.typeUrl aggregate.handles = some arm)
    (hguarded : arm.run = guarded guards body)
    (hdecode : arm.messageType.decode payload.value = .ok message)
    (hstate : aggregate.state.rebuild (cmd.events.getD {}).pages = .ok state) :
    let input := (state, (cmd.events.getD {}).nextSequence)
    let served := CommandHandlerGrpc.handle prost ⟨router⟩ cmd
    served.trace.filterMap Event.methodRun? =
        [⟨arm.method, .handles payload.typeUrl, payload⟩] ∧
      ((∀ guard ∈ guards message input, guard.holds = true) →
        served.outcome = ((body message input).mapError CommandRejectedError.toStatus).map
          fun events => { result := some (.events events) }) ∧
      ∀ guard, FirstBroken (guards message input) guard →
        ∃ status, served.outcome = .error status ∧ Hears guard status := by
  intro input served
  obtain ⟨houtcome, hruns⟩ :=
    dispatch_runs_arm haccepted hmem hdomain hpayload hkind harm hdecode hstate
  have hserved : served.outcome =
      (((arm.run message input).mapError ClientError.rejected).map fun events =>
        { result := some (.events events) }).mapError clientErrorToStatus :=
    congrArg (Except.mapError clientErrorToStatus) houtcome
  rw [hguarded] at hserved
  refine ⟨hruns, fun hholds => ?_, fun guard hbroken => ?_⟩
  · rw [hserved, guarded_of_holds hholds]
    cases body message input with
    | ok events => rfl
    | error rejection => rfl
  · rw [hserved, guarded_of_firstBroken hbroken]
    exact ⟨_, rfl, hears_toStatus guard⟩

end Service

namespace Sample

/-- It closes an order that exists, with a reason. -/
def close : TypedArm Bool (Bool × UInt32) EventBook where
  method := "close"
  messageType := flagType "order.Close"
  run := guarded
    (fun hasReason input => [.existence input.1 "order", .positive (if hasReason then 1 else
      (0 : Int)) "reason"])
    fun _ _ => .ok {}

def closer : Aggregate Bool Bool where
  domain := named "order"
  state := flagState
  handles := [close]

/-- The command to close it, without a reason and without a history. -/
def closing : ContextualCommand where
  command := some
    { cover := some { domain := "order" }
      pages := [{ payload := some (.command ⟨"type.googleapis.com/order.Close", []⟩) }] }

end Sample

open Sample in
/-- Of two broken guards the first is heard. -/
theorem guards_decide_command_sample :
    ∃ status, (CommandHandlerGrpc.handle (prost {}) ⟨⟨[closer.factory (prost {})]⟩⟩
        closing).outcome = .error status ∧
      Hears (.existence false "order") status := by
  have haccepted : CommandHandlerRouter.Accepted ⟨[closer.factory (prost {})]⟩ :=
    ⟨"order", by rfl⟩
  have hpayload : commandPayload closing = .ok ⟨"type.googleapis.com/order.Close", []⟩ := rfl
  have harm : firstArm "type.googleapis.com/order.Close" closer.handles = some close := by
    rfl
  have hdecode : close.messageType.decode [] = .ok false := by rfl
  have hstate : closer.state.rebuild (closing.events.getD {}).pages = .ok false := by rfl
  obtain ⟨-, -, hbroken⟩ := guards_decide_command haccepted
    (List.mem_singleton_self (closer.factory (prost {}))) (by rfl) hpayload (by decide) harm
    rfl hdecode hstate
  exact hbroken (.existence false "order") (by rfl)

end AngzarrClient
