import ProtoTypings.Schema.Descriptor

namespace ProtoTypings.Typing

open ProtoTypings.Schema

def bytesType : String := "Uint8Array | string"

/-- The script type of a scalar kind, or nothing for a reference kind. -/
def scalarType (kind : FieldKind) (showsString : Bool) : Option String :=
  match kind with
  | .double | .float | .int32 | .uint32 | .sint32 | .fixed32 | .sfixed32 => some "number"
  | .int64 | .uint64 | .sint64 | .fixed64 | .sfixed64 => some (if showsString then "string" else "number")
  | .bool => some "boolean"
  | .string => some "string"
  | .bytes => some bytesType
  | .message | .group | .enum => none

theorem scalarType_eq_none_iff (kind : FieldKind) (showsString : Bool) :
    scalarType kind showsString = none ↔ kind = .message ∨ kind = .group ∨ kind = .enum := by
  cases kind <;> simp [scalarType]

end ProtoTypings.Typing
