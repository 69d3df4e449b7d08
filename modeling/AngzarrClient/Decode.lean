/-
The decode helpers (`convert.rs`, `builder.rs`, `proto_ext/pages.rs`).  Each compares
the type URL in its own way and hands its own copy of it to the shared decoder; a
payload falls into the same class for all of them.
-/
import AngzarrClient.Convert
import AngzarrClient.Error

namespace AngzarrClient

variable {Msg : Type}

/-- The error of `unpack` on a payload of another type. -/
def ClientError.anyTypeMismatch (expected actual : String) : ClientError :=
  ofCode codes.anyTypeMismatch messages.anyTypeMismatch
    [(keys.expected, expected), (keys.actual, actual)]

/-- The error of `decode_payload`.  The generated handlers raise the same code with
other details. -/
def ClientError.payloadDecodeFailed (typeUrl cause : String) : ClientError :=
  ofCode codes.anyDecodeFailed messages.anyDecodeFailed
    [(keys.expected, typeUrl), (keys.cause, cause)]

/-- `type_url_matches_exact`. -/
def typeUrlMatchesExact (typeUrl fullTypeName : String) : Bool :=
  typeUrl = typeUrlPrefix ++ fullTypeName

/-- `type_matches`. -/
def typeMatches (ty : MessageType Msg) (any : Any) : Bool :=
  any.typeUrl = fullTypeUrl ty

/-- `decode_payload`, with the decoder of its type. -/
def decodePayload (decode : Bytes → Except String Msg) (value : Bytes) (typeUrl : String) :
    Except ClientError Msg :=
  (decode value).mapError (.payloadDecodeFailed typeUrl)

/-- `try_unpack`. -/
def tryUnpack (ty : MessageType Msg) (any : Any) : Except ClientError (Option Msg) :=
  if !typeMatches ty any then .ok none
  else (decodePayload ty.decode any.value any.typeUrl).map some

/-- `unpack`. -/
def unpack (ty : MessageType Msg) (any : Any) : Except ClientError Msg :=
  let expected := fullTypeUrl ty
  if any.typeUrl ≠ expected then .error (.anyTypeMismatch expected any.typeUrl)
  else decodePayload ty.decode any.value expected

/-- `decode_event`: the name is an argument, and only the decoder is the type's. -/
def decodeEvent (decode : Bytes → Except String Msg) (event : EventPage)
    (fullTypeName : String) : Except ClientError (Option Msg) :=
  match event.payload with
  | some (.event any) =>
      if !typeUrlMatchesExact any.typeUrl fullTypeName then .ok none
      else (decodePayload decode any.value any.typeUrl).map some
  | _ => .ok none

/-- `decode_matching`. -/
def decodeMatching (ty : MessageType Msg) (any : Any) : Except ClientError (Option Msg) :=
  let expected := typeUrlPrefix ++ ty.fullName
  if any.typeUrl ≠ expected then .ok none
  else (decodePayload ty.decode any.value expected).map some

/-- `EventPageExt::decode_typed`. -/
def EventPage.decodeTyped (ty : MessageType Msg) (page : EventPage) :
    Except ClientError (Option Msg) :=
  match page.payload with
  | some (.event event) => decodeMatching ty event
  | _ => .ok none

/-- `CommandPageExt::decode_typed`. -/
def CommandPage.decodeTyped (ty : MessageType Msg) (page : CommandPage) :
    Except ClientError (Option Msg) :=
  match page.payload with
  | some (.command command) => decodeMatching ty command
  | _ => .ok none

/-- The class of a payload for the type: what a helper that demands a message reports
on it, and what one that may return nothing does. -/
inductive DecodeClass (ty : MessageType Msg) (any : Any) :
    Except ClientError Msg → Except ClientError (Option Msg) → Prop
  | decoded {message : Msg} (htype : any.typeUrl = fullTypeUrl ty)
      (hbytes : ty.decode any.value = .ok message) :
      DecodeClass ty any (.ok message) (.ok (some message))
  | mismatch (htype : any.typeUrl ≠ fullTypeUrl ty) :
      DecodeClass ty any (.error (.anyTypeMismatch (fullTypeUrl ty) any.typeUrl)) (.ok none)
  | undecodable {cause : String} (htype : any.typeUrl = fullTypeUrl ty)
      (hbytes : ty.decode any.value = .error cause) :
      DecodeClass ty any (.error (.payloadDecodeFailed (fullTypeUrl ty) cause))
        (.error (.payloadDecodeFailed (fullTypeUrl ty) cause))

section Classes

variable (ty : MessageType Msg) (any : Any)

/-- The URL that `decode_matching` spells out is the type's. -/
theorem decodeMatching_eq :
    decodeMatching ty any =
      if any.typeUrl ≠ fullTypeUrl ty then .ok none
      else (decodePayload ty.decode any.value (fullTypeUrl ty)).map some := rfl

/-- `unpack` demands what the matching decoder may do without. -/
theorem decodeClass_unpack : DecodeClass ty any (unpack ty any) (decodeMatching ty any) := by
  by_cases htype : any.typeUrl = fullTypeUrl ty
  · rw [unpack, decodeMatching_eq, if_neg (not_not_intro htype), if_neg (not_not_intro htype)]
    cases hbytes : ty.decode any.value with
    | ok message =>
        simp only [decodePayload, hbytes]
        exact .decoded htype hbytes
    | error cause =>
        simp only [decodePayload, hbytes]
        exact .undecodable htype hbytes
  · rw [unpack, decodeMatching_eq, if_pos htype, if_pos htype]
    exact .mismatch htype

/-- A helper that hands the payload's own type URL on does so only where it is the
type's. -/
theorem tryUnpack_eq_decodeMatching : tryUnpack ty any = decodeMatching ty any := by
  by_cases htype : any.typeUrl = fullTypeUrl ty
  · have hmatches : typeMatches ty any = true := by simpa [typeMatches] using htype
    rw [tryUnpack, decodeMatching_eq, if_neg (by simp [hmatches]), if_neg (not_not_intro htype),
      htype]
  · have hmatches : typeMatches ty any = false := by simpa [typeMatches] using htype
    rw [tryUnpack, decodeMatching_eq, if_pos (by simp [hmatches]), if_pos htype]

theorem decodeEvent_eq_tryUnpack (page : EventPage) :
    decodeEvent ty.decode { page with payload := some (.event any) } ty.fullName =
      tryUnpack ty any := rfl

end Classes

/-- All five helpers see a payload in one class: `unpack` reports the one side of it,
the other four the other. -/
theorem decoders_agree (ty : MessageType Msg) (any : Any) (event : EventPage)
    (command : CommandPage) :
    ∃ lenient, DecodeClass ty any (unpack ty any) lenient ∧
      tryUnpack ty any = lenient ∧
      decodeEvent ty.decode { event with payload := some (.event any) } ty.fullName =
        lenient ∧
      EventPage.decodeTyped ty { event with payload := some (.event any) } = lenient ∧
      CommandPage.decodeTyped ty { command with payload := some (.command any) } = lenient := by
  refine ⟨decodeMatching ty any, decodeClass_unpack ty any,
    tryUnpack_eq_decodeMatching ty any, ?_, rfl, rfl⟩
  rw [decodeEvent_eq_tryUnpack, tryUnpack_eq_decodeMatching]

end AngzarrClient
