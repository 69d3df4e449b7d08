/-
UUIDs (`convert.rs`, `proto_ext/uuid.rs`, `CoverExt::root_uuid`).  A `uuid::Uuid` is
sixteen bytes; the proto message holds any number of them, and its text form has
dashes where it is a UUID.
-/
import AngzarrClient.Cover
import AngzarrClient.Error

namespace AngzarrClient

/-- `UuidExt::to_proto_uuid`. -/
def Uuid.toProtoUuid (uuid : Uuid) : ProtoUuid where
  value := uuid.bytes

/-- `uuid_to_proto`. -/
def uuidToProto (uuid : Uuid) : ProtoUuid where
  value := uuid.bytes

section Accessors

variable [HexCrate] [UuidCrate]

namespace ProtoUuid

end ProtoUuid

end Accessors

section Text

variable [HexCrate]

variable [UuidCrate] [LawfulUuidCrate]

variable [LawfulHexCrate]

end Text

end AngzarrClient
