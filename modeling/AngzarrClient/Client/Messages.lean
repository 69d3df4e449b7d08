/-
The requests and responses of the client (`query.proto`, `command_handler.proto` and
their siblings).  A field is kept when the client builds or reads it; `rest` stands
for the fields of a message that it only hands on.
-/
import AngzarrClient.Cover

namespace AngzarrClient

/-- An enumeration of the generated code, which messages store as its number. -/
class ProtoEnum (ε : Type) where
  asI32 : ε → Int
  tryFrom : Int → Option ε
  tryFrom_asI32 : ∀ x, tryFrom (asI32 x) = some x

/-- `MergeStrategy`, with the strategy the client falls back on. -/
class MergeStrategies (ε : Type) extends ProtoEnum ε where
  mergeCommutative : ε

/-- `SyncMode`, with the mode of the calls that take none, and the number of the one
`CascadeErrorMode` that the client sends. -/
class CommandModes (ε : Type) extends ProtoEnum ε where
  async : ε
  cascadeErrorFailFast : Int

structure SequenceRange where
  lower : UInt32
  upper : Option UInt32 := none
deriving DecidableEq, Repr

/-- `temporal_query::PointInTime`. -/
inductive PointInTime
  | asOfTime (time : Timestamp)
  | asOfSequence (seq : UInt32)
deriving DecidableEq, Repr

structure TemporalQuery where
  pointInTime : Option PointInTime := none
deriving DecidableEq, Repr

/-- `query::Selection`, as far as the client builds it. -/
inductive Selection
  | range (range : SequenceRange)
  | temporal (query : TemporalQuery)
deriving DecidableEq, Repr

structure Query where
  cover : Option Cover := none
  selection : Option Selection := none
deriving DecidableEq, Repr

instance : CoverExt Query := ⟨Query.cover⟩

structure CommandRequest where
  command : Option CommandBook := none
  syncMode : Int := 0
  cascadeErrorMode : Int := 0
  cascadeId : Option String := none
deriving DecidableEq, Repr

structure CommandResponse where
  events : Option EventBook := none
  rest : Bytes := []
deriving DecidableEq, Repr

structure SpeculateCommandHandlerRequest where
  command : Option CommandBook := none
  rest : Bytes := []
deriving DecidableEq, Repr

structure SpeculateProjectorRequest where
  events : Option EventBook := none
  rest : Bytes := []
deriving DecidableEq, Repr

structure SpeculateSagaRequest where
  request : Option SagaHandleRequest := none
  rest : Bytes := []
deriving DecidableEq, Repr

structure SpeculatePmRequest where
  request : Option ProcessManagerHandleRequest := none
  rest : Bytes := []
deriving DecidableEq, Repr

/-- `Edition::implicit`, which `From<String>` is. -/
def Edition.implicit (name : String) : Edition where
  name := name

section Strategy

variable (Strategy : Type) [MergeStrategies Strategy]

/-- `CommandPageExt::merge_strategy`. -/
def CommandPage.strategy (page : CommandPage) : Strategy :=
  (ProtoEnum.tryFrom page.mergeStrategy).getD MergeStrategies.mergeCommutative

/-- `CommandBookExt::merge_strategy`. -/
def CommandBook.strategy (book : CommandBook) : Strategy :=
  (book.pages.head?.map (CommandPage.strategy Strategy)).getD
    MergeStrategies.mergeCommutative

end Strategy

/-- `events_from_response`. -/
def eventsFromResponse (response : CommandResponse) : List EventPage :=
  (response.events.map EventBook.pages).getD []

end AngzarrClient
