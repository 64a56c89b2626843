import ProtoTypings.Wire.Reader
import ProtoTypings.Wire.Writer
import ProtoTypings.Wire.Descriptor
import ProtoTypings.Plugin.Exchange

namespace ProtoTypings.Plugin

open ProtoTypings.Wire

def requestOfRecord (r : Record) : Request :=
  { filesToGenerate := r.texts 1, parameter := r.text 2,
    protoFiles := (r.records 15).map fileOfRecord }

def requestRecord (req : Request) : Record :=
  req.filesToGenerate.map (fun f => (1, .text f)) ++
    (if req.parameter.isEmpty then [] else [(2, .text req.parameter)]) ++
    req.protoFiles.map (fun f => (15, .record (fileRecord f)))

def responseOfRecord (r : Record) : Response :=
  { error := (r.texts 1).getLast?, supportedFeatures := (r.varint? 2).getD 0,
    files := (r.records 15).map fun f => ⟨f.text 1, f.text 15⟩ }

def responseRecord (res : Response) : Record :=
  (match res.error with
    | some e => [(1, .text e)]
    | none => []) ++
    [(2, .varint res.supportedFeatures)] ++
    res.files.map fun f => (15, .record [(1, .text f.name), (15, .text f.content)])

/-- Requests and answers in the binary encoding of their messages. -/
def wireCodec : Codec where
  decodeRequest bytes := (readMessage .codeGeneratorRequest bytes).map requestOfRecord
  encodeResponse res := writeRecord (responseRecord res)
  decodeResponse bytes := (readMessage .codeGeneratorResponse bytes).map responseOfRecord

def run : List UInt8 → Except Failure (List UInt8) :=
  exchange wireCodec

end ProtoTypings.Plugin
