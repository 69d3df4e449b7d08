/-
Type URLs and message types (`convert.rs`, `proto_ext/constants.rs`), and the
prost decoders, which the client takes from outside.
-/
import AngzarrClient.Proto
import Mathlib.Data.List.DropRight

namespace AngzarrClient

/-- `TYPE_URL_PREFIX`. -/
def typeUrlPrefix : String := "type.googleapis.com/"

/-- A proto message type as the generated code uses it: `prost::Name` gives
the full name, `prost::Message::decode` a partial decoder whose error is kept
as its text.  `Msg` is the disjoint union of the program's message types. -/
structure MessageType (Msg : Type) where
  fullName : String
  decode : Bytes → Except String Msg

variable {Msg : Type}

/-- `full_type_url::<T>()`. -/
def fullTypeUrl (ty : MessageType Msg) : String := typeUrlPrefix ++ ty.fullName

/-- `NOTIFICATION_TYPE_NAME`, the full name of `Notification`. -/
def notificationTypeName : String := "angzarr_client.proto.angzarr.Notification"

/-- `full_type_url::<Notification>()`. -/
def notificationTypeUrl : String := typeUrlPrefix ++ notificationTypeName

/-- The prost decoders of the two framework messages the rejection path opens. -/
structure Prost where
  notification : Bytes → Except String Notification
  rejectionNotification : Bytes → Except String RejectionNotification

/-- `s.rsplit(c).next()`: what follows the last `c`, all of `s` without one. -/
def rsplitNext (c : Char) (s : String) : String :=
  String.ofList (s.toList.rtakeWhile (· != c))

/-- `s.rsplit(c)`: the pieces of `s` between the `c`, the last one first. -/
def rsplit (c : Char) (s : String) : List String :=
  (s.toList.reverse.splitOn c).map fun piece => String.ofList piece.reverse

/-- `type_name_from_url`. -/
def typeNameFromUrl (typeUrl : String) : String :=
  (rsplit '/' typeUrl).head?.getD typeUrl

/-- `type_url.starts_with(TYPE_URL_PREFIX)`. -/
def hasTypeUrlPrefix (typeUrl : String) : Bool :=
  typeUrlPrefix.toList.isPrefixOf typeUrl.toList

@[simp] theorem hasTypeUrlPrefix_fullTypeUrl (ty : MessageType Msg) :
    hasTypeUrlPrefix (fullTypeUrl ty) = true := by
  rw [hasTypeUrlPrefix, fullTypeUrl, String.toList_append,
    List.isPrefixOf_iff_prefix]
  exact List.prefix_append _ _

theorem ne_empty_of_hasTypeUrlPrefix {typeUrl : String}
    (hurl : hasTypeUrlPrefix typeUrl = true) : typeUrl ≠ "" := by
  rintro rfl
  exact absurd hurl (by decide)

theorem head?_splitOn (c : Char) (chars : List Char) :
    (chars.splitOn c).head? = some (chars.takeWhile (· != c)) := by
  rw [List.splitOn]
  induction chars with
  | nil => rfl
  | cons d rest ih =>
      rw [List.splitOnP_cons_eq_if_modifyHead]
      by_cases hd : d = c
      · simp [hd]
      · simp [hd, ih]

/-- The first piece is what follows the last `c`. -/
@[simp] theorem head?_rsplit (c : Char) (s : String) :
    (rsplit c s).head? = some (rsplitNext c s) := by
  rw [rsplit, List.head?_map, head?_splitOn]
  rfl

theorem typeNameFromUrl_eq (typeUrl : String) :
    typeNameFromUrl typeUrl = rsplitNext '/' typeUrl := by
  rw [typeNameFromUrl, head?_rsplit, Option.getD_some]

/-- A suffix cut at `c` holds no `c`. -/
theorem not_mem_rsplitNext (c : Char) (s : String) :
    c ∉ (rsplitNext c s).toList := by
  rw [rsplitNext, String.toList_ofList]
  intro hmem
  simpa using List.mem_rtakeWhile_imp hmem

/-- Cutting at `c` only drops characters. -/
theorem mem_of_mem_rsplitNext {c d : Char} {s : String}
    (hmem : d ∈ (rsplitNext c s).toList) : d ∈ s.toList := by
  rw [rsplitNext, String.toList_ofList] at hmem
  exact (List.rtakeWhile_suffix _ _).subset hmem

theorem rsplitNext_of_not_mem {c : Char} {s : String} (hs : c ∉ s.toList) :
    rsplitNext c s = s := by
  have hall : ∀ d ∈ s.toList, (d != c) = true := by
    intro d hd
    rw [bne_iff_ne]
    rintro rfl
    exact hs hd
  rw [rsplitNext, List.rtakeWhile_eq_self_iff.mpr hall, String.ofList_toList]

/-- Cutting at `c` forgets what stands before a `c`. -/
theorem rsplitNext_append {c : Char} {s t : String} (hlast : [c] <:+ s.toList)
    (ht : c ∉ t.toList) : rsplitNext c (s ++ t) = t := by
  obtain ⟨front, hfront⟩ := hlast
  have hall : ∀ d ∈ t.toList.reverse, (d != c) = true := by
    intro d hd
    rw [bne_iff_ne]
    rintro rfl
    exact ht (List.mem_reverse.mp hd)
  rw [rsplitNext, String.toList_append, ← hfront, List.rtakeWhile, List.reverse_append,
    List.takeWhile_append_of_pos hall]
  simp

example : rsplitNext '/' "type.googleapis.com/order.Create" = "order.Create" := by
  decide

/-! Small concrete message types for evaluated cases. -/
namespace Sample

/-- A message with the single field `bool flag = 1`, in its proto3 encoding:
`false` has no bytes. -/
def flagType (fullName : String) : MessageType Bool where
  fullName := fullName
  decode bytes :=
    if bytes = [] ∨ bytes = [8, 0] then .ok false
    else if bytes = [8, 1] then .ok true
    else .error "failed to decode Protobuf message"

/-- Decoders that know, besides the empty buffer, the encoding of one
rejection of `command` and of the notification that wraps it. -/
def prost (command : CommandBook) : Prost where
  notification bytes :=
    if bytes = [] then .ok {}
    else if bytes = [18, 1] then
      .ok { payload := some ⟨typeUrlPrefix ++ "RejectionNotification", [10, 1]⟩ }
    else .error "failed to decode Protobuf message"
  rejectionNotification bytes :=
    if bytes = [] then .ok {}
    else if bytes = [10, 1] then
      .ok { rejectedCommand := some command, rejectionReason := "declined" }
    else .error "failed to decode Protobuf message"

/-- A command book for `domain` with one command on its first page. -/
def commandBook (domain typeUrl : String) (value : Bytes) : CommandBook where
  cover := some { domain := domain }
  pages := [{ payload := some (.command ⟨typeUrl, value⟩) }]

/-- A page with one event. -/
def eventPage (typeUrl : String) (value : Bytes) : EventPage where
  payload := some (.event ⟨typeUrl, value⟩)

end Sample

end AngzarrClient
