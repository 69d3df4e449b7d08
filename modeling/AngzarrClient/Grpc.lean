/-
The gRPC adapters (`handler.rs`): how a client error becomes a `tonic::Status`,
what its class is after that, and the gate in front of the `Replay` RPC.
-/
import AngzarrClient.Router.Runtime

namespace AngzarrClient

/-- `From<CommandRejectedError> for Status`. -/
def CommandRejectedError.toStatus (rejection : CommandRejectedError) : Status where
  code :=
    if rejection.statusCode = "INVALID_ARGUMENT" then .invalidArgument
    else if rejection.statusCode = "NOT_FOUND" then .notFound
    else .failedPrecondition
  message := rejection.message

/-- `client_error_to_status`: only the message goes on the wire. -/
def clientErrorToStatus : ClientError → Status
  | .invalidArgument detail => ⟨.invalidArgument, detail.message⟩
  | .connection detail => ⟨.unavailable, detail.message⟩
  | .transport display => ⟨.unavailable, display⟩
  | .grpc status => status
  | .invalidTimestamp detail => ⟨.invalidArgument, detail.message⟩
  | .rejected rejection => rejection.toStatus

/-- The predicates callers decide by answer on `after` as on `before`. -/
structure SameClass (before after : ClientError) : Prop where
  notFound : after.isNotFound = before.isNotFound
  preconditionFailed : after.isPreconditionFailed = before.isPreconditionFailed
  invalidArgument : after.isInvalidArgument = before.isInvalidArgument
  connectionError : after.isConnectionError = before.isConnectionError

/-- The error has a class of its own: it is no timestamp error, and a rejection
carries one of the documented status codes. -/
def ClientError.HasClass : ClientError → Prop
  | .invalidTimestamp _ => False
  | .rejected rejection =>
      rejection.statusCode ∈ ["FAILED_PRECONDITION", "INVALID_ARGUMENT", "NOT_FOUND"]
  | _ => True

/-- A rejection becomes a status of its class, any other one of
`FAILED_PRECONDITION`. -/
theorem sameClass_rejected_iff (rejection : CommandRejectedError) :
    SameClass (.rejected rejection) (.ofStatus rejection.toStatus) ↔
      (ClientError.rejected rejection).HasClass := by
  simp only [ClientError.HasClass, List.mem_cons, List.not_mem_nil, or_false]
  constructor
  · intro hsame
    have hprecondition := hsame.preconditionFailed
    by_contra hcode
    push Not at hcode
    obtain ⟨hfailed, hinvalid, hnotFound⟩ := hcode
    simp [ClientError.isPreconditionFailed, ClientError.ofStatus, ClientError.grpcCode,
      ClientError.rejectedWith, CommandRejectedError.toStatus,
      CommandRejectedError.isPreconditionFailed, hfailed, hinvalid, hnotFound]
      at hprecondition
  · obtain ⟨code, message, statusCode, details⟩ := rejection
    rintro (rfl | rfl | rfl)
    · exact ⟨rfl, rfl, rfl, rfl⟩
    · exact ⟨rfl, rfl, rfl, rfl⟩
    · exact ⟨rfl, rfl, rfl, rfl⟩

/-- Over the wire an error keeps its class if and only if it has one of its own. -/
theorem class_survives_wire_iff (error : ClientError) :
    SameClass error (.ofStatus (clientErrorToStatus error)) ↔ error.HasClass := by
  cases error with
  | connection detail => exact iff_of_true ⟨rfl, rfl, rfl, rfl⟩ trivial
  | transport display => exact iff_of_true ⟨rfl, rfl, rfl, rfl⟩ trivial
  | grpc status => exact iff_of_true ⟨rfl, rfl, rfl, rfl⟩ trivial
  | invalidArgument detail => exact iff_of_true ⟨rfl, rfl, rfl, rfl⟩ trivial
  | invalidTimestamp detail =>
      apply iff_of_false
      · intro hsame
        have hchanged : true = false := hsame.invalidArgument
        cases hchanged
      · exact id
  | rejected rejection => exact sameClass_rejected_iff rejection

/-- A timestamp that does not parse becomes `INVALID_ARGUMENT`, which it was not,
and a rejection with a code of its own `FAILED_PRECONDITION`, so that the caller
would retry. -/
theorem class_changes_on_wire :
    (¬SameClass (.invalidTimestamp ⟨"TIMESTAMP_PARSE_FAILED",
        "failed to parse RFC3339 timestamp", [("input", "yesterday")]⟩)
      (.ofStatus (clientErrorToStatus (.invalidTimestamp ⟨"TIMESTAMP_PARSE_FAILED",
        "failed to parse RFC3339 timestamp", [("input", "yesterday")]⟩)))) ∧
    ¬SameClass (.rejected ⟨"STOCK_LOCKED", "stock is locked", "ABORTED", []⟩)
      (.ofStatus (clientErrorToStatus
        (.rejected ⟨"STOCK_LOCKED", "stock is locked", "ABORTED", []⟩))) :=
  ⟨fun hsame => absurd hsame.invalidArgument (by decide),
    fun hsame => absurd hsame.preconditionFailed (by decide)⟩

/-- `CommandHandlerGrpc`. -/
structure CommandHandlerGrpc where
  router : CommandHandlerRouter

/-- `CommandHandlerGrpc::replay`: UNIMPLEMENTED unless some handler opted in. -/
def CommandHandlerGrpc.replay (service : CommandHandlerGrpc)
    (request : ReplayRequest) : Traced Event Status ReplayResponse :=
  if service.router.supportsReplay then
    { trace := (service.router.dispatchReplay request).trace
      outcome :=
        (service.router.dispatchReplay request).outcome.mapError clientErrorToStatus }
  else
    .fail ⟨.unimplemented,
      "command_handler did not opt in via #[command_handler(supports_replay = true)]"⟩

end AngzarrClient
