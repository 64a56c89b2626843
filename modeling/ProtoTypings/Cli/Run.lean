import ProtoTypings.Cli.FileSystem
import ProtoTypings.Cli.Args
import ProtoTypings.Plugin.Encoding
import ProtoTypings.Run.Manifest
import ProtoTypings.Text.Blank

namespace ProtoTypings.Cli

open ProtoTypings.Schema

inductive CliError where
  | failed (f : Failure)
  | unreadable (path : String) (e : FileError)
  | unwritable (path : String) (e : FileError)
deriving DecidableEq, Repr

def CliError.lines : CliError → List String
  | .failed f =>
    ("error: " ++ f.message) :: match f with
      | .undecodable fault => ["  caused by: " ++ fault.message]
      | _ => []
  | .unreadable p e => ["error: failed to read " ++ p ++ ": " ++ e.message, "  caused by: " ++ e.message]
  | .unwritable p e => ["error: failed to write " ++ p ++ ": " ++ e.message, "  caused by: " ++ e.message]

structure Outcome where
  exitCode : Nat
  stdout : List UInt8 := []
  stderr : String := ""
deriving DecidableEq, Repr

def targetsOf (files : String) (set : DescriptorSet) : List String :=
  if files = "all" then set.files.map (·.name)
  else ((files.splitOn ",").map Text.trimBlank).filter (fun s => !s.isEmpty)

variable {m : Type → Type} [Monad m] [FileSystem m]

abbrev Steps (m : Type → Type) := ExceptT CliError (StateT (List String) m)

def progress (quiet : Bool) (line : String) : Steps m Unit :=
  if quiet then pure () else modify (· ++ [line])

def orFail {α : Type} (r : Except FileError α) (err : FileError → CliError) : Steps m α :=
  match r with
  | .ok a => pure a
  | .error e => throw (err e)

def writeArtifact (outputDir : String) (a : Run.Artifact) : Steps m Unit := do
  let path := joinPath outputDir a.name
  if let some parent := parentPath path then
    orFail (← (createDirAll parent : m _)) (.unwritable parent)
  orFail (← (writeAt path a.content.toUTF8.toList : m _)) (.unwritable path)

def generateSteps (a : GenerateArgs) (setPath : String) : Steps m Unit := do
  progress a.quiet ("Loading descriptors from " ++ setPath)
  let bytes ← orFail (← (readAt setPath : m _)) (.unreadable setPath)
  let set ← match Wire.readDescriptorSet bytes with
    | .ok s => pure s
    | .error f => throw (.failed f)
  let targets := targetsOf a.files set
  progress a.quiet ("Generating declarations for " ++ toString targets.length ++ " of " ++
    toString set.files.length ++ " files")
  let g ← match Run.generate set.files targets { services := !a.noServices } with
    | .ok g => pure g
    | .error f => throw (.failed f)
  for artifact in g.artifacts do
    writeArtifact a.outputDir artifact
  if a.manifest then
    let path := joinPath a.outputDir "manifest.json"
    orFail (← (writeAt path (Run.manifest g).toUTF8.toList : m _)) (.unwritable path)
  let s := g.stats
  progress a.quiet ("Generated " ++ toString s.messages ++ " messages, " ++ toString s.enums ++
    " enums, " ++ toString s.extensions ++ " extensions, " ++ toString s.services ++
    " services (" ++ toString s.methods ++ " methods)")
  progress a.quiet ("Wrote " ++ toString s.artifactsWritten ++ " files to " ++ a.outputDir)
  progress a.quiet "Done."

def streamText (lines : List String) : String :=
  String.join (lines.map (· ++ "\n"))

/-- Runs a command line with the bytes of standard input. -/
def runCommand (args : List String) (stdin : List UInt8) : m Outcome := do
  match parseArgs args with
  | .error e => pure { exitCode := 2, stderr := "error: " ++ e ++ "\n" }
  | .ok .plugin =>
    match Plugin.run stdin with
    | .ok out => pure { exitCode := 0, stdout := out }
    | .error f => pure { exitCode := 1, stderr := streamText (CliError.failed f).lines }
  | .ok (.generate a) =>
    match a.descriptorSet with
    | none =>
      pure { exitCode := 2,
             stderr := "error: the following required arguments were not provided:\n" ++
               "  --descriptor-set <DESCRIPTOR_SET>\n" }
    | some setPath =>
      let (r, log) ← ((generateSteps a setPath : Steps m Unit).run).run []
      match r with
      | .ok () => pure { exitCode := 0, stderr := streamText log }
      | .error e => pure { exitCode := 1, stderr := streamText (log ++ e.lines) }

end ProtoTypings.Cli
