import ProtoTypings.Cli.Run

namespace ProtoTypings.Cli

def osCodeOf : IO.Error → Nat
  | .alreadyExists _ code _ | .otherError code _ | .resourceBusy code _
  | .resourceVanished code _ | .unsupportedOperation code _ | .hardwareFault code _
  | .unsatisfiedConstraints code _ | .illegalOperation code _ | .protocolError code _
  | .timeExpired code _ | .interrupted _ code _ | .noFileOrDirectory _ code _
  | .invalidArgument _ code _ | .permissionDenied _ code _ | .resourceExhausted _ code _
  | .inappropriateType _ code _ | .noSuchThing _ code _ => code.toNat
  | .unexpectedEof | .userError _ => 5

def attempt {α : Type} (act : IO α) : IO (Except FileError α) := do
  try pure (.ok (← act))
  catch e => pure (.error (.system (osCodeOf e)))

instance : FileSystem IO where
  readFile p := attempt do pure (← IO.FS.readBinFile p).toList
  makeDir p := attempt (IO.FS.createDir p)
  isDir p := do
    match ← attempt (IO.FS.readBinFile p) with
    | .error e => pure (e == FileError.isDirectory)
    | .ok _ => pure false
  writeFile p content := attempt (IO.FS.writeBinFile p (ByteArray.mk content.toArray))

partial def readAll (stream : IO.FS.Stream) (acc : ByteArray) : IO ByteArray := do
  let chunk ← stream.read 65536
  if chunk.isEmpty then pure acc else readAll stream (acc ++ chunk)

end ProtoTypings.Cli

/-- Runs the command line on the program's arguments and standard streams. -/
def main (args : List String) : IO UInt32 := do
  let input ← ProtoTypings.Cli.readAll (← IO.getStdin) ByteArray.empty
  let outcome ← (ProtoTypings.Cli.runCommand args input.toList : IO ProtoTypings.Cli.Outcome)
  let stdout ← IO.getStdout
  stdout.write (ByteArray.mk outcome.stdout.toArray)
  stdout.flush
  let stderr ← IO.getStderr
  stderr.putStr outcome.stderr
  stderr.flush
  pure outcome.exitCode.toUInt32
