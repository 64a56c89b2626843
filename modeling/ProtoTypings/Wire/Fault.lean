namespace ProtoTypings.Wire

inductive WireType where
  | varint
  | fixed64
  | delimited
  | startGroup
  | endGroup
  | fixed32
deriving DecidableEq, Repr, Inhabited

def WireType.ofCode? : Nat → Option WireType
  | 0 => some .varint
  | 1 => some .fixed64
  | 2 => some .delimited
  | 3 => some .startGroup
  | 4 => some .endGroup
  | 5 => some .fixed32
  | _ => none

def WireType.code : WireType → Nat
  | .varint => 0
  | .fixed64 => 1
  | .delimited => 2
  | .startGroup => 3
  | .endGroup => 4
  | .fixed32 => 5

def WireType.label : WireType → String
  | .varint => "Varint"
  | .fixed64 => "SixtyFourBit"
  | .delimited => "LengthDelimited"
  | .startGroup => "StartGroup"
  | .endGroup => "EndGroup"
  | .fixed32 => "ThirtyTwoBit"

inductive Problem where
  | badVarint
  | underflow
  | badWireTypeCode (code : Nat)
  | wrongWireType (actual expected : WireType)
  | zeroTag
  | badKey (key : Nat)
  | strayEndGroup
  | overrun
  | badText
  | tooDeep
deriving DecidableEq, Repr

def Problem.description : Problem → String
  | .badVarint => "invalid varint"
  | .underflow => "buffer underflow"
  | .badWireTypeCode code => "invalid wire type value: " ++ toString code
  | .wrongWireType actual expected =>
    "invalid wire type: " ++ actual.label ++ " (expected " ++ expected.label ++ ")"
  | .zeroTag => "invalid tag value: 0"
  | .badKey key => "invalid key value: " ++ toString key
  | .strayEndGroup => "unexpected end group tag"
  | .overrun => "delimited length exceeded"
  | .badText => "invalid string value: data is not UTF-8 encoded"
  | .tooDeep => "recursion limit reached"

structure Fault where
  problem : Problem
  trail : List (String × String) := []
deriving DecidableEq, Repr

def Fault.within (f : Fault) (message field : String) : Fault :=
  { f with trail := f.trail ++ [(message, field)] }

/-- The text of a fault: the trail, innermost first, then the problem. -/
def Fault.message (f : Fault) : String :=
  "failed to decode Protobuf message: " ++
    String.join (f.trail.map fun (m, x) => m ++ "." ++ x ++ ": ") ++ f.problem.description

end ProtoTypings.Wire
