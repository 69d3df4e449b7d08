/-
The structural error model of `error.rs` and the part of the inventory in
`error_codes.rs` that the modelled functions raise.
-/
import Mathlib.Data.List.Basic

namespace AngzarrClient

/-- A `details` map, as the list of entries the call site builds it from.
Every call site uses distinct keys. -/
abbrev Details := List (String × String)

structure ErrorDetail where
  code : String
  message : String
  details : Details := []
deriving DecidableEq, Repr

/-- `tonic::Code`. -/
inductive Code
  | ok | cancelled | unknown | invalidArgument | deadlineExceeded | notFound
  | alreadyExists | permissionDenied | resourceExhausted | failedPrecondition
  | aborted | outOfRange | unimplemented | internal | unavailable | dataLoss
  | unauthenticated
deriving DecidableEq, Repr

/-- `tonic::Status`. -/
structure Status where
  code : Code
  message : String
deriving DecidableEq, Repr

/-- A business-rule rejection raised by a user method. -/
structure CommandRejectedError where
  code : String
  message : String
  statusCode : String
  details : Details := []
deriving DecidableEq, Repr

namespace CommandRejectedError

def isPreconditionFailed (rejection : CommandRejectedError) : Bool :=
  rejection.statusCode = "FAILED_PRECONDITION"

def isInvalidArgument (rejection : CommandRejectedError) : Bool :=
  rejection.statusCode = "INVALID_ARGUMENT"

def isNotFound (rejection : CommandRejectedError) : Bool :=
  rejection.statusCode = "NOT_FOUND"

def preconditionFailed (code message : String) (details : Details) :
    CommandRejectedError :=
  ⟨code, message, "FAILED_PRECONDITION", details⟩

def invalidArgument (code message : String) (details : Details) :
    CommandRejectedError :=
  ⟨code, message, "INVALID_ARGUMENT", details⟩

def notFound (code message : String) (details : Details) : CommandRejectedError :=
  ⟨code, message, "NOT_FOUND", details⟩

end CommandRejectedError

/-- `CommandResult<T>`. -/
abbrev CommandResult (α : Type) := Except CommandRejectedError α

inductive ClientError
  | connection (detail : ErrorDetail)
  | transport (display : String)
  | grpc (status : Status)
  | invalidArgument (detail : ErrorDetail)
  | invalidTimestamp (detail : ErrorDetail)
  | rejected (rejection : CommandRejectedError)
deriving DecidableEq, Repr

namespace codes

def anyTypeMismatch := "ANY_TYPE_MISMATCH"
def anyDecodeFailed := "ANY_DECODE_FAILED"
def endpointParseFailed := "ENDPOINT_PARSE_FAILED"
def endpointInvalidUri := "ENDPOINT_INVALID_URI"
def connectionFailed := "CONNECTION_FAILED"
def connectionFailedMaxRetries := "CONNECTION_FAILED_MAX_RETRIES"
def transportError := "TRANSPORT_ERROR"
def grpcError := "GRPC_ERROR"
def invalidTransportMode := "INVALID_TRANSPORT_MODE"
def invalidPort := "INVALID_PORT"
def handlerWrongResponseKind := "HANDLER_WRONG_RESPONSE_KIND"
def handlerWrongRequestKind := "HANDLER_WRONG_REQUEST_KIND"
def upcasterWrongResponseKind := "UPCASTER_WRONG_RESPONSE_KIND"
def noHandlerRegistered := "NO_HANDLER_REGISTERED"
def missingCommandBook := "MISSING_COMMAND_BOOK"
def missingCommandPage := "MISSING_COMMAND_PAGE"
def missingCommandPayload := "MISSING_COMMAND_PAYLOAD"
def notificationDecodeFailed := "NOTIFICATION_DECODE_FAILED"
def rejectionNotificationDecodeFailed := "REJECTION_NOTIFICATION_DECODE_FAILED"
def missingSagaSource := "MISSING_SAGA_SOURCE"
def emptySagaSource := "EMPTY_SAGA_SOURCE"
def missingSagaEventPayload := "MISSING_SAGA_EVENT_PAYLOAD"
def sagaInvalidTypeUrl := "SAGA_INVALID_TYPE_URL"
def missingPmTrigger := "MISSING_PM_TRIGGER"
def emptyPmTrigger := "EMPTY_PM_TRIGGER"
def missingPmEventPayload := "MISSING_PM_EVENT_PAYLOAD"
def pmInvalidTypeUrl := "PM_INVALID_TYPE_URL"
def routerNoHandlers := "ROUTER_NO_HANDLERS"
def duplicateCommandHandler := "DUPLICATE_COMMAND_HANDLER"
def mixedHandlerKinds := "MIXED_HANDLER_KINDS"
def missingDestinationSequence := "MISSING_DESTINATION_SEQUENCE"
def valueNotPositive := "VALUE_NOT_POSITIVE"
def valueNotNonNegative := "VALUE_NOT_NON_NEGATIVE"
def valueEmpty := "VALUE_EMPTY"
def collectionEmpty := "COLLECTION_EMPTY"
def entityNotFound := "ENTITY_NOT_FOUND"
def entityAlreadyExists := "ENTITY_ALREADY_EXISTS"
def statusMismatch := "STATUS_MISMATCH"
def statusForbidden := "STATUS_FORBIDDEN"
def commandTypeUrlMissing := "COMMAND_TYPE_URL_MISSING"
def commandPayloadMissing := "COMMAND_PAYLOAD_MISSING"
def commandSequenceMissing := "COMMAND_SEQUENCE_MISSING"
def timestampParseFailed := "TIMESTAMP_PARSE_FAILED"

end codes

namespace messages

def anyTypeMismatch := "Any type_url does not match expected message type"
def anyDecodeFailed := "failed to decode Any payload into expected message type"
def endpointParseFailed := "failed to parse fallback endpoint"
def endpointInvalidUri := "endpoint URI is invalid"
def connectionFailed := "connection failed"
def connectionFailedMaxRetries := "connection failed after max retries"
def invalidTransportMode := "invalid transport mode env value"
def invalidPort := "invalid port env value"
def handlerWrongResponseKind := "handler returned wrong response kind"
def handlerWrongRequestKind := "handler dispatched with wrong request kind"
def upcasterWrongResponseKind := "upcaster handler returned non-Upcaster response"
def noHandlerRegistered :=
  "no handler registered for the given (domain, type_url)"
def missingCommandBook := "missing command book"
def missingCommandPage := "missing command page"
def missingCommandPayload := "missing command payload"
def notificationDecodeFailed := "failed to decode Notification payload"
def rejectionNotificationDecodeFailed :=
  "failed to decode RejectionNotification payload"
def missingSagaSource := "missing saga source"
def emptySagaSource := "empty saga source"
def missingSagaEventPayload := "missing event payload"
def sagaInvalidTypeUrl := "saga trigger has invalid type_url"
def missingPmTrigger := "missing PM trigger"
def emptyPmTrigger := "empty PM trigger"
def missingPmEventPayload := "missing event payload on PM trigger"
def pmInvalidTypeUrl := "PM trigger has invalid type_url"
def routerNoHandlers := "no handlers registered on Router"
def duplicateCommandHandler :=
  "duplicate command handler registration for (domain, type_url)"
def mixedHandlerKinds :=
  "cannot mix handler kinds in one Router — all handlers must share a kind"
def missingDestinationSequence := "no sequence for destination domain"
def valueNotPositive := "value must be positive"
def valueNotNonNegative := "value must be non-negative"
def valueEmpty := "value must not be empty"
def collectionEmpty := "collection must not be empty"
def entityNotFound := "entity not found"
def entityAlreadyExists := "entity already exists"
def statusMismatch := "status does not match expected"
def statusForbidden := "status is the forbidden value"
def commandTypeUrlMissing := "command type_url not set"
def commandPayloadMissing := "command payload not set"
def commandSequenceMissing := "sequence not set (call with_sequence)"
def timestampParseFailed := "failed to parse RFC3339 timestamp"

end messages

namespace keys

def cause := "cause"
def endpoint := "endpoint"
def input := "input"
def expected := "expected"
def actual := "actual"
def expectedKind := "expected_kind"
def domain := "domain"
def typeUrl := "type_url"
def routerName := "router_name"
def handlerKind := "handler_kind"
def otherKind := "other_kind"
def envVar := "env_var"
def field := "field"
def context := "context"

end keys

namespace ClientError

/-- `ClientError::invalid_argument`. -/
def ofCode (code message : String) (details : Details) : ClientError :=
  .invalidArgument ⟨code, message, details⟩

/-- A matched payload of type `typeUrl` whose bytes do not decode. -/
def anyDecodeFailed (typeUrl cause : String) : ClientError :=
  ofCode codes.anyDecodeFailed messages.anyDecodeFailed
    [(keys.typeUrl, typeUrl), (keys.cause, cause)]

/-- A snapshot whose state does not decode, or a state that does not encode:
the same code, without a type URL. -/
def stateCodecFailed (cause : String) : ClientError :=
  ofCode codes.anyDecodeFailed messages.anyDecodeFailed [(keys.cause, cause)]

def wrongResponseKind (expected : String) : ClientError :=
  ofCode codes.handlerWrongResponseKind messages.handlerWrongResponseKind
    [(keys.expectedKind, expected)]

def wrongRequestKind (expected : String) : ClientError :=
  ofCode codes.handlerWrongRequestKind messages.handlerWrongRequestKind
    [(keys.expectedKind, expected)]

/-- The upcaster router has a code and a message of its own. -/
def upcasterWrongResponseKind : ClientError :=
  ofCode codes.upcasterWrongResponseKind messages.upcasterWrongResponseKind
    [(keys.expectedKind, "Upcaster")]

def missingCommandBook : ClientError :=
  ofCode codes.missingCommandBook messages.missingCommandBook []

def missingCommandPage : ClientError :=
  ofCode codes.missingCommandPage messages.missingCommandPage []

def missingCommandPayload : ClientError :=
  ofCode codes.missingCommandPayload messages.missingCommandPayload []

def notificationDecodeFailed (cause : String) : ClientError :=
  ofCode codes.notificationDecodeFailed messages.notificationDecodeFailed
    [(keys.cause, cause)]

def rejectionNotificationDecodeFailed (cause : String) : ClientError :=
  ofCode codes.rejectionNotificationDecodeFailed
    messages.rejectionNotificationDecodeFailed [(keys.cause, cause)]

/-- The runtime router's own error: it names domain and type URL. -/
def noHandlerRegistered (domain typeUrl : String) : ClientError :=
  ofCode codes.noHandlerRegistered messages.noHandlerRegistered
    [(keys.domain, domain), (keys.typeUrl, typeUrl)]

/-- The same code from a generated handler, with the type URL alone. -/
def noArmRegistered (typeUrl : String) : ClientError :=
  ofCode codes.noHandlerRegistered messages.noHandlerRegistered
    [(keys.typeUrl, typeUrl)]

/-- `ClientError::code`. -/
def code : ClientError → String
  | .connection detail => detail.code
  | .transport _ => codes.transportError
  | .grpc _ => codes.grpcError
  | .invalidArgument detail => detail.code
  | .invalidTimestamp detail => detail.code
  | .rejected rejection => rejection.code

/-- `From<Status> for ClientError`. -/
def ofStatus (status : Status) : ClientError := .grpc status

/-- `ClientError::grpc_code`. -/
def grpcCode : ClientError → Option Code
  | .grpc status => some status.code
  | _ => none

/-- `matches!(self, ClientError::Rejected(r) if p(r))`. -/
def rejectedWith (p : CommandRejectedError → Bool) : ClientError → Bool
  | .rejected rejection => p rejection
  | _ => false

/-- `ClientError::is_not_found`. -/
def isNotFound (error : ClientError) : Bool :=
  error.grpcCode = some .notFound || error.rejectedWith CommandRejectedError.isNotFound

/-- `ClientError::is_precondition_failed`. -/
def isPreconditionFailed (error : ClientError) : Bool :=
  error.grpcCode = some .failedPrecondition ||
    error.rejectedWith CommandRejectedError.isPreconditionFailed

/-- `ClientError::is_invalid_argument`. -/
def isInvalidArgument (error : ClientError) : Bool :=
  error.grpcCode = some .invalidArgument ||
    (match error with
      | .invalidArgument _ => true
      | _ => false) ||
    error.rejectedWith CommandRejectedError.isInvalidArgument

/-- `ClientError::is_connection_error`. -/
def isConnectionError : ClientError → Bool
  | .connection _ => true
  | .transport _ => true
  | .grpc status => status.code = .unavailable
  | _ => false

/-- The framework raised the error under `code`: an `InvalidArgument`, not the
rejection of a user method, which may carry any code. -/
def RaisedAs (code : String) : ClientError → Prop
  | .invalidArgument detail => detail.code = code
  | _ => False

@[simp] theorem raisedAs_ofCode {code code' message : String} {details : Details} :
    RaisedAs code (ofCode code' message details) ↔ code' = code := Iff.rfl

@[simp] theorem raisedAs_anyDecodeFailed {code typeUrl cause : String} :
    RaisedAs code (anyDecodeFailed typeUrl cause) ↔
      codes.anyDecodeFailed = code := Iff.rfl

@[simp] theorem raisedAs_wrongResponseKind {code expected : String} :
    RaisedAs code (wrongResponseKind expected) ↔
      codes.handlerWrongResponseKind = code := Iff.rfl

@[simp] theorem not_raisedAs_rejected {code : String}
    {rejection : CommandRejectedError} : ¬RaisedAs code (.rejected rejection) := id

end ClientError

end AngzarrClient
