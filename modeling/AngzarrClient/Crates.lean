/-
What the code takes from the `hex` and `uuid` crates: their functions, and the part of
their documentation that it relies on.
-/
import AngzarrClient.Lib.Text
import AngzarrClient.Proto

namespace AngzarrClient

/-- `uuid::Uuid`. -/
structure Uuid where
  bytes : Bytes
  length_eq : bytes.length = 16
deriving DecidableEq

@[ext] theorem Uuid.ext {left right : Uuid} (hbytes : left.bytes = right.bytes) :
    left = right := by
  cases left
  cases right
  cases hbytes
  rfl

/-- `hex::encode`. -/
class HexCrate where
  encode : Bytes → String

/-- The digits are written byte by byte, two lower-case ones each, and tell the byte. -/
class LawfulHexCrate [HexCrate] : Prop where
  encode_append (left right : Bytes) :
    HexCrate.encode (left ++ right) = HexCrate.encode left ++ HexCrate.encode right
  two_digits (byte : UInt8) : (HexCrate.encode [byte]).toList.length = 2
  byte_inj (byte other : UInt8) :
    HexCrate.encode [byte] = HexCrate.encode [other] → byte = other
  digits (bytes : Bytes) :
    ∀ c ∈ (HexCrate.encode bytes).toList, c ∈ "0123456789abcdef".toList

/-- `Uuid::from_slice`, with the text of its error, and `Uuid::to_string`. -/
class UuidCrate where
  fromSlice : Bytes → Except String Uuid
  text : Uuid → String

/-- The bytes in `n` hexadecimal digits each from position `start`. -/
def Uuid.group [HexCrate] (uuid : Uuid) (start n : Nat) : String :=
  HexCrate.encode ((uuid.bytes.drop start).take n)

/-- A slice is a UUID if it has sixteen bytes; the text form is hyphenated, in lower-case
groups of 4, 2, 2, 2 and 6 bytes. -/
class LawfulUuidCrate [HexCrate] [UuidCrate] : Prop where
  fromSlice_bytes (uuid : Uuid) : UuidCrate.fromSlice uuid.bytes = .ok uuid
  fromSlice_error (bytes : Bytes) : bytes.length ≠ 16 →
    ∃ cause, UuidCrate.fromSlice bytes = .error cause
  hyphenated (uuid : Uuid) : UuidCrate.text uuid =
    uuid.group 0 4 ++ "-" ++ uuid.group 4 2 ++ "-" ++ uuid.group 6 2 ++ "-" ++
      uuid.group 8 2 ++ "-" ++ uuid.group 10 6

namespace HexCrate

variable [HexCrate] [LawfulHexCrate]

theorem toList_encode_cons (byte : UInt8) (rest : Bytes) :
    (encode (byte :: rest)).toList = (encode [byte]).toList ++ (encode rest).toList := by
  rw [← String.toList_append, ← LawfulHexCrate.encode_append, List.singleton_append]

theorem encode_nil : encode [] = "" := by
  have hnil := congrArg String.toList (LawfulHexCrate.encode_append [] [])
  rw [List.append_nil, String.toList_append] at hnil
  exact String.toList_eq_nil_iff.mp (List.self_eq_append_left.mp hnil)

theorem length_toList_encode (bytes : Bytes) :
    (encode bytes).toList.length = 2 * bytes.length := by
  induction bytes with
  | nil => rw [encode_nil]; rfl
  | cons byte rest ih =>
      rw [toList_encode_cons, List.length_append, LawfulHexCrate.two_digits, ih,
        List.length_cons]
      omega

/-- The digits determine the bytes. -/
theorem encode_inj {left right : Bytes} : encode left = encode right ↔ left = right := by
  constructor
  · intro heq
    have hlength := congrArg (fun s => s.toList.length) heq
    simp only [length_toList_encode] at hlength
    induction left generalizing right with
    | nil =>
        rw [List.length_nil] at hlength
        exact (List.length_eq_zero_iff.mp (by omega)).symm
    | cons byte left ih =>
        cases right with
        | nil =>
            rw [List.length_cons, List.length_nil] at hlength
            omega
        | cons other right =>
            have hdigits := congrArg String.toList heq
            rw [toList_encode_cons byte left, toList_encode_cons other right] at hdigits
            obtain ⟨hbyte, hrest⟩ := List.append_inj hdigits (by
              rw [LawfulHexCrate.two_digits byte, LawfulHexCrate.two_digits other])
            rw [List.length_cons, List.length_cons] at hlength
            rw [LawfulHexCrate.byte_inj byte other (String.toList_inj.mp hbyte),
              ih (String.toList_inj.mp hrest) (by omega)]
  · rintro rfl
    rfl

/-- A character that is no digit occurs in no encoding. -/
theorem not_mem_encode {c : Char} (hc : c ∉ "0123456789abcdef".toList) (bytes : Bytes) :
    c ∉ (encode bytes).toList :=
  fun hmem => hc (LawfulHexCrate.digits bytes c hmem)

theorem colon_not_mem_encode (bytes : Bytes) : ':' ∉ (encode bytes).toList :=
  not_mem_encode (by decide) bytes

end HexCrate

namespace Uuid

variable [HexCrate] [UuidCrate] [LawfulUuidCrate]

end Uuid

namespace Sample

/-- Digits as the crate writes them. -/
scoped instance hexCrate : HexCrate where
  encode := Text.hexEncode

scoped instance lawfulHexCrate : LawfulHexCrate where
  encode_append left right := String.toList_inj.mp (by
    rw [String.toList_append]
    exact Text.hexEncode_append left right)
  two_digits _ := by simp [HexCrate.encode, Text.hexEncode, Text.hexByte]
  byte_inj _ _ heq := List.singleton_inj.mp (Text.hexEncode_inj.mp heq)
  digits := Text.mem_hexEncode

/-- UUIDs as the crate reads and writes them. -/
scoped instance uuidCrate : UuidCrate where
  fromSlice bytes :=
    if hlength : bytes.length = 16 then .ok ⟨bytes, hlength⟩
    else .error ("invalid length: expected 16 bytes, found " ++ toString bytes.length)
  text uuid :=
    uuid.group 0 4 ++ "-" ++ uuid.group 4 2 ++ "-" ++ uuid.group 6 2 ++ "-" ++
      uuid.group 8 2 ++ "-" ++ uuid.group 10 6

scoped instance lawfulUuidCrate : LawfulUuidCrate where
  fromSlice_bytes uuid := dif_pos uuid.length_eq
  fromSlice_error _ hlength := ⟨_, dif_neg hlength⟩
  hyphenated _ := rfl

end Sample

end AngzarrClient
