/-
The command builder (`builder.rs`).  Its setters can come in any order and more than
once; what counts for the command is the last call of each.
-/
import AngzarrClient.Client.Messages
import AngzarrClient.Decode
import AngzarrClient.Lib.LastWrite
import AngzarrClient.ProtoExt
import AngzarrClient.Router.Extract
import AngzarrClient.Uuid

namespace AngzarrClient

open LastWrite

variable {Strategy Msg : Type}

/-- `CommandBuilder`, without the client it will send with. -/
structure CommandBuilder (Strategy : Type) where
  domain : String
  root : Option Uuid
  correlationId : Option String := none
  sequence : Option UInt32 := none
  mergeStrategy : Strategy
  typeUrl : Option String := none
  payload : Option Bytes := none

namespace ClientError

def commandTypeUrlMissing : ClientError :=
  ofCode codes.commandTypeUrlMissing messages.commandTypeUrlMissing []

def commandPayloadMissing : ClientError :=
  ofCode codes.commandPayloadMissing messages.commandPayloadMissing []

def commandSequenceMissing : ClientError :=
  ofCode codes.commandSequenceMissing messages.commandSequenceMissing []

end ClientError

namespace CommandBuilder

/-- `CommandBuilder::new`, behind `command` and, with a fresh root, `command_new`. -/
def new [MergeStrategies Strategy] (domain : String) (root : Uuid) :
    CommandBuilder Strategy where
  domain := domain
  root := some root
  mergeStrategy := MergeStrategies.mergeCommutative

def withCorrelationId (builder : CommandBuilder Strategy) (id : String) :
    CommandBuilder Strategy :=
  { builder with correlationId := some id }

def withSequence (builder : CommandBuilder Strategy) (seq : UInt32) :
    CommandBuilder Strategy :=
  { builder with sequence := some seq }

def withMergeStrategy (builder : CommandBuilder Strategy) (strategy : Strategy) :
    CommandBuilder Strategy :=
  { builder with mergeStrategy := strategy }

/-- `with_command`; `encode` is `Message::encode_to_vec`. -/
def withCommand (encode : Msg → Bytes) (builder : CommandBuilder Strategy)
    (typeUrl : String) (message : Msg) : CommandBuilder Strategy :=
  { builder with typeUrl := some typeUrl, payload := some (encode message) }

/-- `build`; `fresh` is the text of the UUID it draws when no correlation id was set. -/
def build [ProtoEnum Strategy] (fresh : String) (builder : CommandBuilder Strategy) :
    Except ClientError CommandBook :=
  match builder.typeUrl with
  | none => .error .commandTypeUrlMissing
  | some typeUrl =>
      match builder.payload with
      | none => .error .commandPayloadMissing
      | some payload =>
          match builder.sequence with
          | none => .error .commandSequenceMissing
          | some sequence =>
              .ok {
                cover := some {
                  domain := builder.domain
                  root := builder.root.map uuidToProto
                  correlationId := builder.correlationId.getD fresh
                  edition := none }
                pages := [{
                  header := some { sequenceType := some (.sequence sequence) }
                  mergeStrategy := ProtoEnum.asI32 builder.mergeStrategy
                  payload := some (.command ⟨typeUrl, payload⟩) }] }

end CommandBuilder

/-- A call of one of the setters. -/
inductive CommandSetter (Strategy Msg : Type)
  | withCorrelationId (id : String)
  | withSequence (seq : UInt32)
  | withMergeStrategy (strategy : Strategy)
  | withCommand (typeUrl : String) (message : Msg)

namespace CommandSetter

/-- The builder after the call. -/
def apply (encode : Msg → Bytes) (builder : CommandBuilder Strategy) :
    CommandSetter Strategy Msg → CommandBuilder Strategy
  | withCorrelationId id => builder.withCorrelationId id
  | withSequence seq => builder.withSequence seq
  | withMergeStrategy strategy => builder.withMergeStrategy strategy
  | withCommand typeUrl message => builder.withCommand encode typeUrl message

def correlationId? : CommandSetter Strategy Msg → Option String
  | withCorrelationId id => some id
  | _ => none

def sequence? : CommandSetter Strategy Msg → Option UInt32
  | withSequence seq => some seq
  | _ => none

def mergeStrategy? : CommandSetter Strategy Msg → Option Strategy
  | withMergeStrategy strategy => some strategy
  | _ => none

def command? : CommandSetter Strategy Msg → Option (String × Msg)
  | withCommand typeUrl message => some (typeUrl, message)
  | _ => none

/-- The builder after the calls, the first one first. -/
def applyAll (encode : Msg → Bytes) (builder : CommandBuilder Strategy)
    (setters : List (CommandSetter Strategy Msg)) : CommandBuilder Strategy :=
  setters.foldl (apply encode) builder

section Fields

variable (encode : Msg → Bytes) (builder : CommandBuilder Strategy)
  (setters : List (CommandSetter Strategy Msg))

@[simp] theorem domain_applyAll :
    (applyAll encode builder setters).domain = builder.domain := by
  apply Writes.foldl_of_untouched
  intro builder setter
  cases setter <;> rfl

@[simp] theorem root_applyAll :
    (applyAll encode builder setters).root = builder.root := by
  apply Writes.foldl_of_untouched
  intro builder setter
  cases setter <;> rfl

@[simp] theorem correlationId_applyAll :
    (applyAll encode builder setters).correlationId =
      (last? correlationId? setters).or builder.correlationId := by
  apply Fills.foldl
  intro builder setter
  cases setter <;> rfl

@[simp] theorem sequence_applyAll :
    (applyAll encode builder setters).sequence =
      (last? sequence? setters).or builder.sequence := by
  apply Fills.foldl
  intro builder setter
  cases setter <;> rfl

@[simp] theorem mergeStrategy_applyAll :
    (applyAll encode builder setters).mergeStrategy =
      (last? mergeStrategy? setters).getD builder.mergeStrategy := by
  apply Writes.foldl
  intro builder setter
  cases setter <;> rfl

/-- The type URL and the payload are those of one call. -/
@[simp] theorem typeUrl_applyAll :
    (applyAll encode builder setters).typeUrl =
      ((last? command? setters).map Prod.fst).or builder.typeUrl := by
  rw [← last?_map]
  apply Fills.foldl
  intro builder setter
  cases setter <;> rfl

@[simp] theorem payload_applyAll :
    (applyAll encode builder setters).payload =
      ((last? command? setters).map fun command => encode command.2).or builder.payload := by
  rw [← last?_map]
  apply Fills.foldl
  intro builder setter
  cases setter <;> rfl

end Fields

end CommandSetter

open CommandSetter

/-- The book says what the calls said last. -/
structure CommandBook.SaysLast [MergeStrategies Strategy] (encode : Msg → Bytes)
    (fresh : String) (domain : String) (root : Uuid)
    (setters : List (CommandSetter Strategy Msg)) (book : CommandBook) : Prop where
  domain : book.cover.map Cover.domain = some domain
  root : (CoverExt.cover book).bind Cover.root = some root.toProtoUuid
  correlationId :
    CoverExt.correlationId book = (last? correlationId? setters).getD fresh
  mainTimeline : CoverExt.edition book = defaultEdition
  strategy : book.strategy Strategy =
    (last? mergeStrategy? setters).getD MergeStrategies.mergeCommutative
  onePage : book.pages.length = 1
  sequence : last? sequence? setters = some book.commandSequence
  explicit : ∀ page ∈ book.pages,
    page.header.bind PageHeader.explicitSequence = last? sequence? setters
  command : ∃ typeUrl message, last? command? setters = some (typeUrl, message) ∧
    ∀ events, commandPayload ⟨some book, events⟩ = .ok ⟨typeUrl, encode message⟩

namespace CommandBuilder

variable [MergeStrategies Strategy] {encode : Msg → Bytes} {fresh : String}
  {domain : String} {root : Uuid} {setters : List (CommandSetter Strategy Msg)}

/-- Without `with_command`, or without `with_sequence`, there is no book; the payload
alone is never missing. -/
theorem build_eq_error (error : ClientError) :
    (applyAll encode (new domain root) setters).build fresh = .error error ↔
      (last? command? setters = none ∧ error = .commandTypeUrlMissing) ∨
        last? command? setters ≠ none ∧ last? sequence? setters = none ∧
          error = .commandSequenceMissing := by
  cases hcommand : last? command? setters with
  | none => simp [build, new, hcommand, eq_comm]
  | some command =>
      cases hsequence : last? sequence? setters with
      | none => simp [build, new, hcommand, hsequence, eq_comm]
      | some seq => simp [build, new, hcommand, hsequence]

theorem saysLast_of_build {book : CommandBook}
    (hbuild : (applyAll encode (new domain root) setters).build fresh = .ok book) :
    book.SaysLast encode fresh domain root setters := by
  cases hcommand : last? command? setters with
  | none => simp [build, new, hcommand] at hbuild
  | some command =>
      cases hsequence : last? sequence? setters with
      | none => simp [build, new, hcommand, hsequence] at hbuild
      | some seq =>
          simp only [build, new, typeUrl_applyAll, payload_applyAll, sequence_applyAll,
            domain_applyAll, root_applyAll, correlationId_applyAll,
            mergeStrategy_applyAll, hcommand, hsequence, Option.map_some, Option.or_none,
            Except.ok.injEq] at hbuild
          subst hbuild
          refine ⟨rfl, rfl, rfl, rfl, ?_, rfl, ?_, ?_, command.1, command.2, hcommand,
            fun _ => rfl⟩
          · simp [CommandBook.strategy, CommandPage.strategy, ProtoEnum.tryFrom_asI32]
          · rw [hsequence]
            rfl
          · rw [hsequence]
            simp [PageHeader.explicitSequence]

end CommandBuilder

end AngzarrClient
