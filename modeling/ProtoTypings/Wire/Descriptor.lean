import ProtoTypings.Wire.Reader
import ProtoTypings.Schema.Descriptor
import ProtoTypings.Failure

namespace ProtoTypings.Wire

open ProtoTypings.Schema

def textField (number : Nat) (s : String) : Record :=
  if s.isEmpty then [] else [(number, .text s)]

def int32Field (number : Nat) (i : Int) : Record :=
  if i = 0 then [] else [(number, .varint (ofInt32 i))]

def flagField (number : Nat) (b : Bool) : Record :=
  if b then [(number, .varint 1)] else []

def fieldOfRecord (r : Record) : FieldDescriptor :=
  { name := r.text 1, extendee := r.text 2, number := (r.int32? 3).getD 0,
    cardinality := Cardinality.ofCode ((r.int32? 4).getD 0),
    kind := FieldKind.ofCode ((r.int32? 5).getD 0),
    typeName := r.text 6, defaultValue := r.text 7,
    options := (r.record? 8).map fun o => { numberStyle := NumberStyle.ofCode ((o.int32? 6).getD 0) },
    oneofIndex := r.int32? 9, jsonName := r.text 10, proto3Optional := r.flag 17 }

def fieldRecord (f : FieldDescriptor) : Record :=
  textField 1 f.name ++ textField 2 f.extendee ++ int32Field 3 f.number ++
    [(4, .varint f.cardinality.code), (5, .varint f.kind.code)] ++
    textField 6 f.typeName ++ textField 7 f.defaultValue ++
    (match f.options with
      | some o => [(8, .record (int32Field 6 o.numberStyle.code))]
      | none => []) ++
    (match f.oneofIndex with
      | some i => [(9, .varint (ofInt32 i))]
      | none => []) ++
    textField 10 f.jsonName ++ flagField 17 f.proto3Optional

def enumOfRecord (r : Record) : EnumDescriptor :=
  { name := r.text 1,
    values := (r.records 2).map fun v => { name := v.text 1, number := (v.int32? 2).getD 0 } }

def enumRecord (e : EnumDescriptor) : Record :=
  textField 1 e.name ++
    e.values.map fun v => (2, .record (textField 1 v.name ++ int32Field 2 v.number))

def messageOfParts (r : Record) (nested : List MessageDescriptor) : MessageDescriptor :=
  { name := r.text 1, fields := (r.records 2).map fieldOfRecord, nested := nested,
    enums := (r.records 4).map enumOfRecord,
    extensionRanges := (r.records 5).map fun x =>
      { start := (x.int32? 1).getD 0, stop := (x.int32? 2).getD 0 },
    extensions := (r.records 6).map fieldOfRecord,
    options := (r.record? 7).map fun o => { mapEntry := o.flag 7 },
    oneofs := (r.records 8).map (·.text 1) }

mutual
/-- The messages held in field `n` of a record, each with its own nested messages (field 3). -/
def messagesAt (n : Nat) : List (Nat × Value) → List MessageDescriptor
  | [] => []
  | (k, v) :: rest => messageIn n k v ++ messagesAt n rest

def messageIn (n k : Nat) : Value → List MessageDescriptor
  | .record fs => if k = n then [messageOfParts fs (messagesAt 3 fs)] else []
  | _ => []
end

mutual
def messageRecord : MessageDescriptor → Record
  | ⟨name, fields, nested, enums, extensions, ranges, oneofs, options⟩ =>
    textField 1 name ++ fields.map (fun f => (2, .record (fieldRecord f))) ++
      nestedRecords nested ++ enums.map (fun e => (4, .record (enumRecord e))) ++
      ranges.map (fun x => (5, .record (int32Field 1 x.start ++ int32Field 2 x.stop))) ++
      extensions.map (fun f => (6, .record (fieldRecord f))) ++
      (match options with
        | some o => [(7, .record (flagField 7 o.mapEntry))]
        | none => []) ++
      oneofs.map (fun o => (8, .record (textField 1 o)))

def nestedRecords : List MessageDescriptor → Record
  | [] => []
  | m :: rest => (3, .record (messageRecord m)) :: nestedRecords rest
end

def serviceOfRecord (r : Record) : ServiceDescriptor :=
  { name := r.text 1,
    methods := (r.records 2).map fun m =>
      { name := m.text 1, inputType := m.text 2, outputType := m.text 3,
        clientStreaming := m.flag 5, serverStreaming := m.flag 6 } }

def serviceRecord (s : ServiceDescriptor) : Record :=
  textField 1 s.name ++ s.methods.map fun m =>
    (2, .record (textField 1 m.name ++ textField 2 m.inputType ++ textField 3 m.outputType ++
      flagField 5 m.clientStreaming ++ flagField 6 m.serverStreaming))

def fileOfRecord (r : Record) : FileDescriptor :=
  { name := r.text 1, package := r.text 2, dependencies := r.texts 3,
    messages := messagesAt 4 r, enums := (r.records 5).map enumOfRecord,
    services := (r.records 6).map serviceOfRecord,
    extensions := (r.records 7).map fieldOfRecord,
    publicDependencies := (r.varints 10).map toInt32,
    weakDependencies := (r.varints 11).map toInt32, dialectName := r.text 12 }

def fileRecord (f : FileDescriptor) : Record :=
  textField 1 f.name ++ textField 2 f.package ++ f.dependencies.map (fun d => (3, .text d)) ++
    f.messages.map (fun m => (4, .record (messageRecord m))) ++
    f.enums.map (fun e => (5, .record (enumRecord e))) ++
    f.services.map (fun s => (6, .record (serviceRecord s))) ++
    f.extensions.map (fun x => (7, .record (fieldRecord x))) ++
    f.publicDependencies.map (fun i => (10, .varint (ofInt32 i))) ++
    f.weakDependencies.map (fun i => (11, .varint (ofInt32 i))) ++ textField 12 f.dialectName

def setOfRecord (r : Record) : DescriptorSet :=
  ⟨(r.records 1).map fileOfRecord⟩

def setRecord (s : DescriptorSet) : Record :=
  s.files.map fun f => (1, .record (fileRecord f))

/-- Reads an encoded descriptor set. -/
def readDescriptorSet (bytes : List UInt8) : Except Failure DescriptorSet :=
  match readMessage .fileDescriptorSet bytes with
  | .ok r => .ok (setOfRecord r)
  | .error f => .error (.undecodable f)

end ProtoTypings.Wire
