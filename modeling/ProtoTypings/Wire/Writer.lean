import ProtoTypings.Wire.Value

namespace ProtoTypings.Wire

def writeKey (number : Nat) (wt : WireType) : List UInt8 :=
  writeVarint (number * 8 + wt.code)

def littleEndianBytes : Nat → Nat → List UInt8
  | 0, _ => []
  | width + 1, n => (n % 256).toUInt8 :: littleEndianBytes width (n / 256)

def delimited (payload : List UInt8) : List UInt8 :=
  writeVarint payload.length ++ payload

mutual
/-- The encoding of a record. -/
def writeRecord : List (Nat × Value) → List UInt8
  | [] => []
  | (number, v) :: rest => writeField number v ++ writeRecord rest

def writeField (number : Nat) : Value → List UInt8
  | .varint n => writeKey number .varint ++ writeVarint n
  | .fixed64 n => writeKey number .fixed64 ++ littleEndianBytes 8 n
  | .fixed32 n => writeKey number .fixed32 ++ littleEndianBytes 4 n
  | .text s => writeKey number .delimited ++ delimited s.toUTF8.toList
  | .bytes b => writeKey number .delimited ++ delimited b
  | .record fields => writeKey number .delimited ++ delimited (writeRecord fields)
end

end ProtoTypings.Wire
