/-
The protobuf messages the client routes, as `types.proto` and its siblings
generate them.  A field is kept when some modelled function reads it, builds
it or hands it on inside a request; proto3 defaults are the field defaults, so
`{}` is `Default::default()`.
-/
import Mathlib.Data.List.Basic

namespace AngzarrClient

abbrev Bytes := List UInt8

/-- `google.protobuf.Any`: a type URL and the encoded message. -/
structure Any where
  typeUrl : String
  value : Bytes
deriving DecidableEq, Repr

structure Timestamp where
  seconds : Int := 0
  nanos : Int := 0
deriving DecidableEq, Repr

structure ProtoUuid where
  value : Bytes := []
deriving DecidableEq, Repr

structure DomainDivergence where
  domain : String := ""
  sequence : UInt32 := 0
deriving DecidableEq, Repr

structure Edition where
  name : String := ""
  divergences : List DomainDivergence := []
deriving DecidableEq, Repr

structure Cover where
  domain : String := ""
  root : Option ProtoUuid := none
  correlationId : String := ""
  edition : Option Edition := none
deriving DecidableEq, Repr

structure AngzarrDeferredSequence where
  source : Option Cover := none
  sourceSeq : UInt32 := 0
deriving DecidableEq, Repr

/-- Opaque to the client: no function under `src/` opens it. -/
structure ExternalDeferredSequence where
  encoded : Bytes := []
deriving DecidableEq, Repr

/-- `page_header::SequenceType`. -/
inductive SequenceType
  | sequence (seq : UInt32)
  | externalDeferred (deferred : ExternalDeferredSequence)
  | angzarrDeferred (deferred : AngzarrDeferredSequence)
deriving DecidableEq, Repr

structure PageHeader where
  sequenceType : Option SequenceType := none
  syncMode : Option Int := none
deriving DecidableEq, Repr

structure PayloadReference where
  storageType : Int := 0
  uri : String := ""
  contentHash : Bytes := []
  originalSize : UInt64 := 0
  storedAt : Option Timestamp := none
deriving DecidableEq, Repr

/-- `event_page::Payload`. -/
inductive EventPayload
  | event (any : Any)
  | external (reference : PayloadReference)
deriving DecidableEq, Repr

structure EventPage where
  header : Option PageHeader := none
  createdAt : Option Timestamp := none
  payload : Option EventPayload := none
  noCommit : Bool := false
  cascadeId : Option String := none
deriving DecidableEq, Repr

structure Snapshot where
  sequence : UInt32 := 0
  state : Option Any := none
  retention : Int := 0
deriving DecidableEq, Repr

structure EventBook where
  cover : Option Cover := none
  pages : List EventPage := []
  snapshot : Option Snapshot := none
  nextSequence : UInt32 := 0
deriving DecidableEq, Repr

/-- `command_page::Payload`. -/
inductive CommandPayload
  | command (any : Any)
  | external (reference : PayloadReference)
deriving DecidableEq, Repr

structure CommandPage where
  header : Option PageHeader := none
  mergeStrategy : Int := 0
  payload : Option CommandPayload := none
deriving DecidableEq, Repr

structure CommandBook where
  cover : Option Cover := none
  pages : List CommandPage := []
deriving DecidableEq, Repr

structure ContextualCommand where
  command : Option CommandBook := none
  events : Option EventBook := none
deriving DecidableEq, Repr

structure Notification where
  payload : Option Any := none
deriving DecidableEq, Repr

structure RejectionNotification where
  rejectedCommand : Option CommandBook := none
  rejectionReason : String := ""
deriving DecidableEq, Repr

structure RevocationResponse where
  emitSystemRevocation : Bool := false
  sendToDeadLetterQueue : Bool := false
  escalate : Bool := false
  abort : Bool := false
  reason : String := ""
deriving DecidableEq, Repr

/-- `business_response::Result`.  The client only ever builds the first two;
`other` stands for any further variant of the generated enum. -/
inductive BusinessResult
  | events (book : EventBook)
  | revocation (response : RevocationResponse)
  | other (encoded : Bytes)
deriving DecidableEq, Repr

structure BusinessResponse where
  result : Option BusinessResult := none
deriving DecidableEq, Repr

structure FactRequest where
  facts : Option EventBook := none
  priorEvents : Option EventBook := none
deriving DecidableEq, Repr

structure ReplayRequest where
  baseSnapshot : Option Snapshot := none
  events : List EventPage := []
deriving DecidableEq, Repr

structure ReplayResponse where
  state : Option Any := none
deriving DecidableEq, Repr

structure SagaHandleRequest where
  source : Option EventBook := none
  destinationSequences : List (String × UInt32) := []
deriving DecidableEq, Repr

structure SagaResponse where
  commands : List CommandBook := []
  events : List EventBook := []
deriving DecidableEq, Repr

structure ProcessManagerHandleRequest where
  trigger : Option EventBook := none
  processState : Option EventBook := none
  destinationSequences : List (String × UInt32) := []
deriving DecidableEq, Repr

structure ProcessManagerHandleResponse where
  commands : List CommandBook := []
  processEvents : List EventBook := []
  facts : List EventBook := []
deriving DecidableEq, Repr

structure Projection where
  cover : Option Cover := none
  projector : String := ""
  sequence : UInt32 := 0
  projection : Option Any := none
deriving DecidableEq, Repr

structure UpcastRequest where
  domain : String := ""
  events : List EventPage := []
deriving DecidableEq, Repr

structure UpcastResponse where
  events : List EventPage := []
deriving DecidableEq, Repr

end AngzarrClient
