import Mathlib.Logic.Equiv.List
import ProtoTypings.Plugin.Encoding

namespace ProtoTypings.Plugin

theorem handle_outcome (req : Request) :
    (handle req).supportedFeatures = 1 ∧
    match parseParameter req.parameter >>= Run.generate req.protoFiles req.filesToGenerate with
    | .ok g => (handle req).error = none ∧
        (handle req).files = g.artifacts.map fun a => ⟨a.name, a.content⟩
    | .error e => (handle req).error = some e.message ∧ (handle req).files = [] := by
  unfold handle respond
  rcases parsed : parseParameter req.parameter with e | options
  · simp [Bind.bind, Except.bind, supportedFeatures]
  · rcases ran : Run.generate req.protoFiles req.filesToGenerate options with e | g <;>
      simp [ran, Bind.bind, Except.bind, Pure.pure, Except.pure, supportedFeatures]

theorem exchange_eq_error {codec : Codec} {bytes : List UInt8} {e : Failure} :
    exchange codec bytes = .error e ↔
      ∃ f, e = .undecodable f ∧ codec.decodeRequest bytes = .error f := by
  unfold exchange
  rcases codec.decodeRequest bytes with f | req <;> simp [eq_comm]

theorem exchange_of_decodeRequest {codec : Codec} {bytes : List UInt8} {req : Request}
    (read : codec.decodeRequest bytes = .ok req) :
    exchange codec bytes = .ok (codec.encodeResponse (handle req)) := by
  simp [exchange, read]

/-- Answering an encoded request, with any codec that reads back every answer it writes. The
exchange fails exactly when the request cannot be read, with the reading fault. Otherwise it gives
bytes that read back as an answer declaring support for proto3 optional fields, with either no
error and the generated files, names and texts in order, or the text of the first failure, of the
parameter before that of generation, and no files. -/
theorem run_answers (codec : Codec)
    (inverse : ∀ res, codec.decodeResponse (codec.encodeResponse res) = .ok res)
    (bytes : List UInt8) :
    (∀ f, exchange codec bytes = .error (.undecodable f) ↔ codec.decodeRequest bytes = .error f) ∧
    (∀ e, exchange codec bytes = .error e → ∃ f, e = .undecodable f) ∧
    ∀ req, codec.decodeRequest bytes = .ok req →
      ∃ out, exchange codec bytes = .ok out ∧
        ∃ res, codec.decodeResponse out = .ok res ∧ res.supportedFeatures = 1 ∧
          match parseParameter req.parameter >>= Run.generate req.protoFiles req.filesToGenerate with
          | .ok g => res.error = none ∧ res.files = g.artifacts.map fun a => ⟨a.name, a.content⟩
          | .error e => res.error = some e.message ∧ res.files = [] := by
  refine ⟨fun f => ?_, fun e failed => ?_, fun req read => ?_⟩
  · rw [exchange_eq_error]
    simp
  · obtain ⟨f, same, _⟩ := exchange_eq_error.mp failed
    exact ⟨f, same⟩
  · exact ⟨_, exchange_of_decodeRequest read, handle req, inverse (handle req), handle_outcome req⟩

def textCodes (s : String) : List ℕ :=
  s.toList.map Char.toNat

def ofTextCodes (codes : List ℕ) : String :=
  String.ofList (codes.map Char.ofNat)

theorem ofTextCodes_textCodes (s : String) : ofTextCodes (textCodes s) = s := by
  simp [ofTextCodes, textCodes, Function.comp_def, Char.ofNat_toNat]

def Response.codes (res : Response) : Option (List ℕ) × ℕ × List (List ℕ × List ℕ) :=
  (res.error.map textCodes, res.supportedFeatures,
    res.files.map fun f => (textCodes f.name, textCodes f.content))

def Response.ofCodes (codes : Option (List ℕ) × ℕ × List (List ℕ × List ℕ)) : Response :=
  { error := codes.1.map ofTextCodes, supportedFeatures := codes.2.1,
    files := codes.2.2.map fun f => ⟨ofTextCodes f.1, ofTextCodes f.2⟩ }

theorem Response.ofCodes_codes (res : Response) : Response.ofCodes res.codes = res := by
  rcases res with ⟨error, features, files⟩
  simp [Response.ofCodes, Response.codes, ofTextCodes_textCodes, Function.comp_def]

/-- A codec that reads requests in the binary encoding, and writes an answer as a run of zero
bytes as long as the number that encodes the answer's codes. -/
def unaryCodec : Codec where
  decodeRequest := wireCodec.decodeRequest
  encodeResponse res := List.replicate (Encodable.encode res.codes) 0
  decodeResponse bytes :=
    match Encodable.decode bytes.length with
    | some codes => .ok (Response.ofCodes codes)
    | none => .error ⟨.underflow, []⟩

theorem unaryCodec_inverse (res : Response) :
    unaryCodec.decodeResponse (unaryCodec.encodeResponse res) = .ok res := by
  simp only [unaryCodec, List.length_replicate, Encodable.encodek, Response.ofCodes_codes]

theorem empty_request_answered :
    (∀ res, unaryCodec.decodeResponse (unaryCodec.encodeResponse res) = .ok res) ∧
    unaryCodec.decodeRequest [] = .ok {} ∧
    ∃ out, exchange unaryCodec [] = .ok out ∧
      ∃ res, unaryCodec.decodeResponse out = .ok res ∧ res.supportedFeatures = 1 ∧
        match parseParameter ({} : Request).parameter >>=
            Run.generate ({} : Request).protoFiles ({} : Request).filesToGenerate with
        | .ok g => res.error = none ∧ res.files = g.artifacts.map fun a => ⟨a.name, a.content⟩
        | .error e => res.error = some e.message ∧ res.files = [] := by
  have read : unaryCodec.decodeRequest [] = .ok {} := by
    have empty : Wire.readMessage .codeGeneratorRequest [] = .ok [] := by
      rw [Wire.readMessage, Wire.readFields]
      simp [Except.map]
    simp only [unaryCodec, wireCodec, empty, Except.map]
    rfl
  exact ⟨unaryCodec_inverse, read,
    (run_answers unaryCodec unaryCodec_inverse []).2.2 {} read⟩

end ProtoTypings.Plugin
