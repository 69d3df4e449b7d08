/-
The state rebuild that `angzarr-macros` emits into every command handler and
process manager: the initial state, the `#[applies]` arms and the replay loop.
The loop is then identified with an event fold over the pages.
-/
import AngzarrClient.Convert
import AngzarrClient.Error
import AngzarrClient.Lib.EventFold

namespace AngzarrClient

variable {S Msg : Type}

/-- An `#[applies(E)]` method. -/
structure AppliesArm (S Msg : Type) where
  method : String
  eventType : MessageType Msg
  apply : S → Msg → S

/-- The body of one arm: decode, then apply. -/
def AppliesArm.execute (arm : AppliesArm S Msg) (state : S) (evtAny : Any) :
    Except ClientError S :=
  match arm.eventType.decode evtAny.value with
  | .error cause => .error (.anyDecodeFailed evtAny.typeUrl cause)
  | .ok evtVal => .ok (arm.apply state evtVal)

/-- The `apply_arms` of one event: the first arm with the event's type URL
runs and continues with the next page; without one the event is skipped. -/
def applyArms (state : S) (evtAny : Any) :
    List (AppliesArm S Msg) → Except ClientError S
  | [] => .ok state
  | arm :: rest =>
      if evtAny.typeUrl = fullTypeUrl arm.eventType then arm.execute state evtAny
      else applyArms state evtAny rest

/-- The replay loop over event pages. -/
def replayPages (arms : List (AppliesArm S Msg)) (state : S) :
    List EventPage → Except ClientError S
  | [] => .ok state
  | page :: rest =>
      match page.payload with
      | some (.event evtAny) =>
          match applyArms state evtAny arms with
          | .error error => .error error
          | .ok state' => replayPages arms state' rest
      | _ => replayPages arms state rest

/-- The state type of a kind impl: its `Default`, the `#[state_factory]`
method with the state it returns, and the `#[applies]` methods in order. -/
structure StateModel (S Msg : Type) where
  default : S
  stateFactory : Option (String × S) := none
  applies : List (AppliesArm S Msg) := []

/-- `initial_state_expr`. -/
def StateModel.initial (model : StateModel S Msg) : S :=
  match model.stateFactory with
  | some (_, state) => state
  | none => model.default

/-- Rebuild a state from the pages of a history. -/
def StateModel.rebuild (model : StateModel S Msg) (pages : List EventPage) :
    Except ClientError S :=
  replayPages model.applies model.initial pages

/-- `prost::Message` for a state type, as the replay path uses it. -/
structure StateCodec (S : Type) extends MessageType S where
  encode : S → Except String Bytes

namespace StateModel

/-- The first declared applier for a type URL. -/
def applier (model : StateModel S Msg) (typeUrl : String) :
    Option (AppliesArm S Msg) :=
  model.applies.find? fun arm => typeUrl = fullTypeUrl arm.eventType

/-- What a page says to the state: nothing without an event payload or an
applier, else the first applier with the decoded event. -/
def readPage (model : StateModel S Msg) (page : EventPage) :
    Except ClientError (Option (AppliesArm S Msg × Msg)) :=
  match page.payload with
  | some (.event evtAny) =>
      match model.applier evtAny.typeUrl with
      | none => .ok none
      | some arm =>
          match arm.eventType.decode evtAny.value with
          | .error cause => .error (.anyDecodeFailed evtAny.typeUrl cause)
          | .ok evtVal => .ok (some (arm, evtVal))
  | _ => .ok none

/-- The pages as events that act on the state. -/
def pageFold (model : StateModel S Msg) :
    EventFold ClientError S EventPage (AppliesArm S Msg × Msg) where
  read := model.readPage
  act state action := action.1.apply state action.2

/-- The state after a history: the left fold of the page effects, in page
order, from the initial state. -/
def stateAfter (model : StateModel S Msg) (pages : List EventPage) : S :=
  pages.foldl model.pageFold.effect model.initial

/-- Some applier matches the page and its event does not decode. -/
def Undecodable (model : StateModel S Msg) (page : EventPage) : Prop :=
  ∃ evtAny arm cause, page.payload = some (.event evtAny) ∧
    model.applier evtAny.typeUrl = some arm ∧
    arm.eventType.decode evtAny.value = .error cause

theorem applyArms_eq (arms : List (AppliesArm S Msg)) (state : S) (evtAny : Any) :
    applyArms state evtAny arms =
      match arms.find? fun arm => evtAny.typeUrl = fullTypeUrl arm.eventType with
      | none => .ok state
      | some arm => arm.execute state evtAny := by
  induction arms with
  | nil => rfl
  | cons arm rest ih =>
      rw [applyArms]
      by_cases hurl : evtAny.typeUrl = fullTypeUrl arm.eventType
      · simp [hurl]
      · rw [if_neg hurl, ih, List.find?_cons_of_neg (by simpa using hurl)]

/-- What one page does in the replay loop. -/
theorem replayPages_cons (model : StateModel S Msg) (state : S)
    (page : EventPage) (rest : List EventPage) :
    replayPages model.applies state (page :: rest) =
      match model.readPage page with
      | .error error => .error error
      | .ok none => replayPages model.applies state rest
      | .ok (some (arm, evtVal)) =>
          replayPages model.applies (arm.apply state evtVal) rest := by
  cases hpayload : page.payload with
  | none => simp only [replayPages, readPage, hpayload]
  | some payload =>
      cases payload with
      | external reference => simp only [replayPages, readPage, hpayload]
      | event evtAny =>
          simp only [replayPages, readPage, hpayload, applyArms_eq]
          rw [← applier]
          cases model.applier evtAny.typeUrl with
          | none => rfl
          | some arm =>
              dsimp only [AppliesArm.execute]
              cases arm.eventType.decode evtAny.value with
              | error cause => rfl
              | ok evtVal => rfl

/-- The emitted loop is the replay of the page fold. -/
theorem replayPages_eq_replay (model : StateModel S Msg) (state : S)
    (pages : List EventPage) :
    replayPages model.applies state pages = model.pageFold.replay state pages := by
  induction pages generalizing state with
  | nil => rfl
  | cons page rest ih =>
      have hread : model.pageFold.read page = model.readPage page := rfl
      rw [replayPages_cons, EventFold.replay, hread]
      cases model.readPage page with
      | error error => rfl
      | ok reading =>
          cases reading with
          | none => exact ih state
          | some action => exact ih _

theorem rebuild_eq_replay (model : StateModel S Msg) (pages : List EventPage) :
    model.rebuild pages = model.pageFold.replay model.initial pages :=
  model.replayPages_eq_replay model.initial pages

theorem readable_iff (model : StateModel S Msg) (page : EventPage) :
    model.pageFold.Readable page ↔ ¬model.Undecodable page := by
  constructor
  · rintro ⟨reading, hreading⟩ ⟨evtAny, arm, cause, hpayload, harm, hdecode⟩
    simp [pageFold, readPage, hpayload, harm, hdecode] at hreading
  · intro hdecodable
    change ∃ reading, model.readPage page = .ok reading
    cases hpayload : page.payload with
    | none => exact ⟨none, by simp [readPage, hpayload]⟩
    | some payload =>
        cases payload with
        | external reference => exact ⟨none, by simp [readPage, hpayload]⟩
        | event evtAny =>
            cases harm : model.applier evtAny.typeUrl with
            | none => exact ⟨none, by simp [readPage, hpayload, harm]⟩
            | some arm =>
                cases hdecode : arm.eventType.decode evtAny.value with
                | error cause =>
                    exact absurd ⟨evtAny, arm, cause, hpayload, harm, hdecode⟩
                      hdecodable
                | ok evtVal =>
                    exact ⟨some (arm, evtVal), by
                      simp [readPage, hpayload, harm, hdecode]⟩

/-- A page is unreadable with `ANY_DECODE_FAILED` and nothing else. -/
theorem readPage_eq_error {model : StateModel S Msg} {page : EventPage}
    {error : ClientError} (hread : model.readPage page = .error error) :
    ∃ typeUrl cause, error = .anyDecodeFailed typeUrl cause := by
  rw [readPage] at hread
  split at hread
  · split at hread
    · cases hread
    · split at hread
      · cases hread
        exact ⟨_, _, rfl⟩
      · cases hread
  · cases hread

/-- A history whose matched pages all decode rebuilds to its state. -/
theorem rebuild_of_decodable {model : StateModel S Msg} {pages : List EventPage}
    (hdecodable : ∀ page ∈ pages, ¬model.Undecodable page) :
    model.rebuild pages = .ok (model.stateAfter pages) := by
  rw [rebuild_eq_replay]
  exact EventFold.replay_of_readable
    (fun page hpage => (model.readable_iff page).mpr (hdecodable page hpage)) _

/-- A history with an undecodable page fails with `ANY_DECODE_FAILED`. -/
theorem rebuild_of_undecodable {model : StateModel S Msg} {pages : List EventPage}
    (hundecodable : ∃ page ∈ pages, model.Undecodable page) :
    ∃ typeUrl cause, model.rebuild pages = .error (.anyDecodeFailed typeUrl cause) := by
  obtain ⟨page, hpage, hbad⟩ := hundecodable
  have hfails : ∃ error, model.rebuild pages = .error error := by
    rw [rebuild_eq_replay, EventFold.replay_fails_iff]
    exact ⟨page, hpage, fun hread => (model.readable_iff page).mp hread hbad⟩
  obtain ⟨error, herror⟩ := hfails
  have hfirst := herror
  rw [rebuild_eq_replay, EventFold.replay_eq_error_iff] at hfirst
  obtain ⟨_, _, _, -, -, hread⟩ := hfirst
  obtain ⟨typeUrl, cause, rfl⟩ := readPage_eq_error hread
  exact ⟨typeUrl, cause, herror⟩

theorem rebuild_eq_ok_iff {model : StateModel S Msg} {pages : List EventPage}
    {state : S} :
    model.rebuild pages = .ok state ↔
      (∀ page ∈ pages, ¬model.Undecodable page) ∧
        model.stateAfter pages = state := by
  rw [rebuild_eq_replay, EventFold.replay_eq_ok_iff]
  simp only [readable_iff]
  rfl

end StateModel

namespace Sample

/-- The codec of a state with the single field `bool flag = 1`: the state
`false` encodes to no bytes. -/
def flagCodec (fullName : String) : StateCodec Bool where
  toMessageType := flagType fullName
  encode state := .ok (if state then [8, 1] else [])

def toggled : MessageType Bool := flagType "order.Toggled"

/-- A flag that follows the last `Toggled` event. -/
def flagState : StateModel Bool Bool where
  default := false
  applies := [{
    method := "apply_toggled", eventType := toggled, apply := fun _ flag => flag }]

def toggledPage (value : Bytes) : EventPage := eventPage (fullTypeUrl toggled) value

end Sample

end AngzarrClient
