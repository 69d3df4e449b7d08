/-
The test harness (`testing/builders.rs`, `testing/context.rs`): constructors of books,
and the scenario context whose history the steps of a test write.
-/
import AngzarrClient.Lib.Journal
import AngzarrClient.Lib.LastWrite
import AngzarrClient.Macros.State
import AngzarrClient.Macros.Upcaster
import AngzarrClient.ProtoExt
import AngzarrClient.Uuid

namespace AngzarrClient

open Journal LastWrite

variable {S Msg : Type}

/-- `pack_event`. -/
def packEvent (codec : EventCodec Msg) (message : Msg) : Any where
  typeUrl := fullTypeUrl codec.toMessageType
  value := codec.encode message

/-- `make_cover`; a root is sixteen bytes. -/
def makeCover (domain : String) (root : Uuid) (correlationId : String) : Cover where
  domain := domain
  root := some ⟨root.bytes⟩
  correlationId := correlationId

/-- `make_event_page`; `now` is what `make_timestamp` reads. -/
def makeEventPage (now : Timestamp) (sequence : UInt32) (event : Any) : EventPage where
  header := some { sequenceType := some (.sequence sequence) }
  createdAt := some now
  payload := some (.event event)

/-- `make_event_book`. -/
def makeEventBook (cover : Cover) (pages : List EventPage)
    (nextSequence : Option UInt32) : EventBook where
  cover := some cover
  pages := pages
  nextSequence := nextSequence.getD (UInt32.ofNat pages.length)

/-- `make_command_page`. -/
def makeCommandPage (sequence : UInt32) (command : Any) : CommandPage where
  header := some { sequenceType := some (.sequence sequence) }
  payload := some (.command command)
  mergeStrategy := 0

/-- `make_command_book`. -/
def makeCommandBook (cover : Cover) (command : Any) (sequence : Option UInt32) :
    CommandBook where
  cover := some cover
  pages := [makeCommandPage (sequence.getD 0) command]

/-- The root of a default context. -/
def Uuid.zero : Uuid := ⟨List.replicate 16 0, List.length_replicate⟩

/-- `ScenarioContext`, without the boxes that only the test itself reads. -/
structure ScenarioContext where
  domain : String := ""
  root : Uuid := .zero
  events : List Any := []
  error : Option CommandRejectedError := none

namespace ScenarioContext

/-- `event_book`; `clock` gives the reading of the clock for each page. -/
def eventBook (clock : Nat → Timestamp) (context : ScenarioContext) : EventBook :=
  makeEventBook (makeCover context.domain context.root "")
    (context.events.zipIdx.map fun entry =>
      makeEventPage (clock entry.2) (UInt32.ofNat entry.2) entry.1) none

/-- `add_event`. -/
def addEvent (context : ScenarioContext) (codec : EventCodec Msg) (message : Msg) :
    ScenarioContext :=
  { context with events := context.events ++ [packEvent codec message] }

/-- `clear_events`. -/
def clearEvents (context : ScenarioContext) : ScenarioContext :=
  { context with events := [] }

/-- `clear_result`. -/
def clearResult (context : ScenarioContext) : ScenarioContext :=
  { context with error := none }

/-- `reset`. -/
def reset (_ : ScenarioContext) : ScenarioContext := {}

end ScenarioContext

/-- A step of a test on its context: a method call, or a write to a public field. -/
inductive ScenarioStep (Msg : Type)
  | setDomain (domain : String)
  | setRoot (root : Uuid)
  | setEvents (events : List Any)
  | pushEvent (event : Any)
  | setError (error : CommandRejectedError)
  | addEvent (codec : EventCodec Msg) (message : Msg)
  | clearEvents
  | clearResult
  | reset

/-- An event as a test states it: a message to be packed, or the packed event itself. -/
inductive GivenEvent (Msg : Type)
  | stated (codec : EventCodec Msg) (message : Msg)
  | packed (event : Any)

def GivenEvent.any : GivenEvent Msg → Any
  | .stated codec message => packEvent codec message
  | .packed event => event

namespace ScenarioStep

def apply (context : ScenarioContext) : ScenarioStep Msg → ScenarioContext
  | setDomain domain => { context with domain := domain }
  | setRoot root => { context with root := root }
  | setEvents events => { context with events := events }
  | pushEvent event => { context with events := context.events ++ [event] }
  | setError error => { context with error := some error }
  | addEvent codec message => context.addEvent codec message
  | clearEvents => context.clearEvents
  | clearResult => context.clearResult
  | reset => context.reset

/-- The step leaves nothing of the history there was. -/
def rewrites : ScenarioStep Msg → Bool
  | setEvents _ | clearEvents | reset => true
  | _ => false

/-- The events a step writes. -/
def written : ScenarioStep Msg → List (GivenEvent Msg)
  | setEvents events => events.map .packed
  | pushEvent event => [.packed event]
  | addEvent codec message => [.stated codec message]
  | _ => []

def root? : ScenarioStep Msg → Option Uuid
  | setRoot root => some root
  | reset => some .zero
  | _ => none

/-- The context after a test's steps, the first one first. -/
def run (steps : List (ScenarioStep Msg)) : ScenarioContext := steps.foldl apply {}

/-- The events written since the history was last emptied or assigned. -/
def given (steps : List (ScenarioStep Msg)) : List (GivenEvent Msg) :=
  (sinceRewritten rewrites steps).flatMap written

end ScenarioStep

open ScenarioStep

section Run

variable (steps : List (ScenarioStep Msg))

theorem keeps_events : Keeps (@apply Msg) ScenarioContext.events rewrites
    fun step => step.written.map GivenEvent.any where
  rewritten := by
    intro context step hrewrites
    cases step with
    | clearEvents | reset => rfl
    | setEvents events =>
        rw [written, List.map_map]
        change events = events.map id
        rw [List.map_id]
    | setDomain | setRoot | pushEvent | setError | addEvent | clearResult =>
        cases hrewrites
  appended := by
    intro context step hrewrites
    cases step with
    | setEvents | clearEvents | reset => cases hrewrites
    | pushEvent | addEvent => rfl
    | setDomain | setRoot | setError | clearResult => exact (List.append_nil _).symm

/-- The history is what was written since it was last emptied or assigned, in order. -/
theorem events_run : (run steps).events = (given steps).map GivenEvent.any := by
  rw [given, List.map_flatMap]
  exact keeps_events.foldl rfl steps

end Run

section Book

variable (clock : Nat → Timestamp) (context : ScenarioContext)

theorem payload_pages_eventBook :
    (context.eventBook clock).pages.map EventPage.payload =
      context.events.map fun event => some (.event event) := by
  change (context.events.zipIdx.map _).map EventPage.payload = _
  rw [List.map_map]
  change context.events.zipIdx.map
    ((fun event => some (EventPayload.event event)) ∘ Prod.fst) = _
  rw [← List.map_map, List.zipIdx_map_fst]

theorem nextSequence_eventBook :
    (context.eventBook clock).nextSequence = UInt32.ofNat context.events.length := by
  simp [ScenarioContext.eventBook, makeEventBook]

end Book

end AngzarrClient
