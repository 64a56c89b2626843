import ProtoTypings.Run.Generate
import ProtoTypings.Plugin.Parameter

namespace ProtoTypings.Plugin

open ProtoTypings.Schema

structure Request where
  filesToGenerate : List String := []
  parameter : String := ""
  protoFiles : List FileDescriptor := []
deriving Repr

structure ResponseFile where
  name : String
  content : String
deriving DecidableEq, Repr

structure Response where
  error : Option String := none
  supportedFeatures : Nat := 0
  files : List ResponseFile := []
deriving DecidableEq, Repr

def supportedFeatures : Nat := 1

def respond (req : Request) : Except Failure (List ResponseFile) := do
  let options ← parseParameter req.parameter
  let g ← Run.generate req.protoFiles req.filesToGenerate options
  pure (g.artifacts.map fun a => ⟨a.name, a.content⟩)

/-- The answer to a request: its files, or the failure text and no files. -/
def handle (req : Request) : Response :=
  match respond req with
  | .ok files => { supportedFeatures := supportedFeatures, files := files }
  | .error e => { error := some e.message, supportedFeatures := supportedFeatures }

/-- How requests are read from bytes and answers written to and read from bytes. -/
structure Codec where
  decodeRequest : List UInt8 → Except Wire.Fault Request
  encodeResponse : Response → List UInt8
  decodeResponse : List UInt8 → Except Wire.Fault Response

/-- Answers an encoded request with an encoded answer; only reading the request can fail. -/
def exchange (codec : Codec) (bytes : List UInt8) : Except Failure (List UInt8) :=
  match codec.decodeRequest bytes with
  | .ok req => .ok (codec.encodeResponse (handle req))
  | .error f => .error (.undecodable f)

end ProtoTypings.Plugin
