import ProtoTypings.Wire.Value
import ProtoTypings.Wire.Layout

namespace ProtoTypings.Wire

abbrev Rest (bs : List UInt8) := { r : List UInt8 // r.length ≤ bs.length }

def Problem.fault (p : Problem) : Fault := ⟨p, []⟩

def readKey (bs : List UInt8) :
    Except Problem (Nat × WireType × { r : List UInt8 // r.length < bs.length }) := do
  let (key, rest) ← readVarint bs
  if 0xFFFFFFFF < key then throw (.badKey key)
  let some wt := WireType.ofCode? (key % 8) | throw (.badWireTypeCode (key % 8))
  if key / 8 = 0 then throw .zeroTag
  pure (key / 8, wt, rest)

def takeBytes (n : Nat) (bs : List UInt8) : Except Problem (List UInt8 × Rest bs) :=
  if n ≤ bs.length then .ok (bs.take n, ⟨bs.drop n, by simp⟩) else .error .underflow

def readDelimited (bs : List UInt8) :
    Except Problem (List UInt8 × { r : List UInt8 // r.length < bs.length }) :=
  match readVarint bs with
  | .error p => .error p
  | .ok (len, ⟨rest, h⟩) =>
    if len ≤ rest.length then .ok (rest.take len, ⟨rest.drop len, by simp; omega⟩)
    else .error .underflow

def littleEndian : List UInt8 → Nat
  | [] => 0
  | b :: rest => b.toNat + 256 * littleEndian rest

mutual
def skipField (budget tag : Nat) (wt : WireType) (bs : List UInt8) : Except Problem (Rest bs) :=
  if budget = 0 then .error .tooDeep
  else
    match wt with
    | .varint =>
      match readVarint bs with
      | .error p => .error p
      | .ok (_, ⟨r, h⟩) => .ok ⟨r, by omega⟩
    | .fixed64 => (takeBytes 8 bs).map (·.2)
    | .fixed32 => (takeBytes 4 bs).map (·.2)
    | .delimited =>
      match readDelimited bs with
      | .error p => .error p
      | .ok (_, ⟨r, h⟩) => .ok ⟨r, by omega⟩
    | .startGroup => skipGroup budget tag bs
    | .endGroup => .error .strayEndGroup
termination_by (bs.length, 1)

def skipGroup (budget tag : Nat) (bs : List UInt8) : Except Problem (Rest bs) :=
  match readKey bs with
  | .error p => .error p
  | .ok (inner, wt, ⟨rest, h⟩) =>
    if wt = .endGroup then
      if inner = tag then .ok ⟨rest, by omega⟩ else .error .strayEndGroup
    else
      match skipField (budget - 1) inner wt rest with
      | .error p => .error p
      | .ok ⟨rest', h'⟩ =>
        match skipGroup budget tag rest' with
        | .error p => .error p
        | .ok ⟨rest'', h''⟩ => .ok ⟨rest'', by omega⟩
termination_by (bs.length, 0)
end

def readElement (enc : Encoding) (bs : List UInt8) :
    Except Problem (Value × { r : List UInt8 // r.length < bs.length }) :=
  match enc with
  | .fixed64 =>
    if h : 8 ≤ bs.length then .ok (.fixed64 (littleEndian (bs.take 8)), ⟨bs.drop 8, by simp; omega⟩)
    else .error .underflow
  | .fixed32 =>
    if h : 4 ≤ bs.length then .ok (.fixed32 (littleEndian (bs.take 4)), ⟨bs.drop 4, by simp; omega⟩)
    else .error .underflow
  | _ => (readVarint bs).map fun (v, r) => (.varint v, r)

def readPacked (enc : Encoding) (limit : Nat) (bs : List UInt8) :
    Except Problem (List Value × Rest bs) :=
  if limit < bs.length then
    match readElement enc bs with
    | .error p => .error p
    | .ok (v, ⟨rest, h⟩) =>
      match readPacked enc limit rest with
      | .error p => .error p
      | .ok (vs, ⟨rest', h'⟩) => .ok (v :: vs, ⟨rest', by omega⟩)
  else .ok ([], ⟨bs, Nat.le_refl _⟩)
termination_by bs.length

def Encoding.wireType : Encoding → WireType
  | .varint => .varint
  | .fixed64 => .fixed64
  | .fixed32 => .fixed32
  | _ => .delimited

def readScalar (enc : Encoding) (repeated : Bool) (wt : WireType) (bs : List UInt8) :
    Except Problem (List Value × Rest bs) :=
  match enc with
  | .text | .bytes | .message _ =>
    if wt ≠ .delimited then .error (.wrongWireType wt .delimited)
    else
      match readDelimited bs with
      | .error p => .error p
      | .ok (payload, ⟨rest, h⟩) =>
        match enc with
        | .text =>
          match String.fromUTF8? (ByteArray.mk payload.toArray) with
          | some s => .ok ([.text s], ⟨rest, by omega⟩)
          | none => .error .badText
        | _ => .ok ([.bytes payload], ⟨rest, by omega⟩)
  | _ =>
    if repeated ∧ wt = .delimited then
      match readVarint bs with
      | .error p => .error p
      | .ok (len, ⟨rest, h⟩) =>
        if len ≤ rest.length then
          match readPacked enc (rest.length - len) rest with
          | .error p => .error p
          | .ok (vs, ⟨rest', h'⟩) =>
            if rest'.length = rest.length - len then .ok (vs, ⟨rest', by omega⟩)
            else .error .overrun
        else .error .underflow
    else if wt ≠ enc.wireType then .error (.wrongWireType wt enc.wireType)
    else
      match readElement enc bs with
      | .error p => .error p
      | .ok (v, ⟨rest, h⟩) => .ok ([v], ⟨rest, by omega⟩)

mutual
/-- Reads the fields of a message until at most `limit` bytes are left. -/
def readFields (budget : Nat) (m : MessageName) (limit : Nat) (bs : List UInt8) :
    Except Fault (Record × Rest bs) :=
  if limit < bs.length then
    match readKey bs with
    | .error p => .error p.fault
    | .ok (tag, wt, ⟨rest, h⟩) =>
      match m.field? tag with
      | some spec =>
        match readField budget spec.encoding spec.repeated wt rest with
        | .error f => .error (f.within m.label spec.name)
        | .ok (values, ⟨rest', h'⟩) =>
          match readFields budget m limit rest' with
          | .error f => .error f
          | .ok (more, ⟨rest'', h''⟩) => .ok (values.map (tag, ·) ++ more, ⟨rest'', by omega⟩)
      | none =>
        match skipField budget tag wt rest with
        | .error p => .error p.fault
        | .ok ⟨rest', h'⟩ =>
          match readFields budget m limit rest' with
          | .error f => .error f
          | .ok (more, ⟨rest'', h''⟩) => .ok (more, ⟨rest'', by omega⟩)
  else .ok ([], ⟨bs, Nat.le_refl _⟩)
termination_by (budget, bs.length, 1)

def readField (budget : Nat) (enc : Encoding) (repeated : Bool) (wt : WireType)
    (bs : List UInt8) : Except Fault (List Value × Rest bs) :=
  match enc with
  | .message sub =>
    if wt ≠ .delimited then .error (Problem.wrongWireType wt .delimited).fault
    else if hb : budget = 0 then .error Problem.tooDeep.fault
    else
      match readVarint bs with
      | .error p => .error p.fault
      | .ok (len, ⟨rest, h⟩) =>
        if len ≤ rest.length then
          match readFields (budget - 1) sub (rest.length - len) rest with
          | .error f => .error f
          | .ok (fields, ⟨rest', h'⟩) =>
            if rest'.length = rest.length - len then .ok ([.record fields], ⟨rest', by omega⟩)
            else .error Problem.overrun.fault
        else .error Problem.underflow.fault
  | _ =>
    match readScalar enc repeated wt bs with
    | .error p => .error p.fault
    | .ok r => .ok r
termination_by (budget, bs.length, 0)
end

/-- The budget of nested messages a reader allows. -/
def nestingBudget : Nat := 100

/-- Reads a whole input as a message. -/
def readMessage (m : MessageName) (bs : List UInt8) : Except Fault Record :=
  (readFields nestingBudget m 0 bs).map (·.1)

end ProtoTypings.Wire
