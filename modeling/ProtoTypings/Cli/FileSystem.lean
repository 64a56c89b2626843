namespace ProtoTypings.Cli

inductive FileError where
  | system (code : Nat)
  | nulInPath
deriving DecidableEq, Repr

def FileError.notFound : FileError := .system 2

def FileError.alreadyExists : FileError := .system 17

def FileError.notDirectory : FileError := .system 20

def FileError.isDirectory : FileError := .system 21

def FileError.nameTooLong : FileError := .system 36

def errorDescription : Nat → String
  | 1 => "Operation not permitted"
  | 2 => "No such file or directory"
  | 5 => "Input/output error"
  | 13 => "Permission denied"
  | 17 => "File exists"
  | 20 => "Not a directory"
  | 21 => "Is a directory"
  | 22 => "Invalid argument"
  | 28 => "No space left on device"
  | 30 => "Read-only file system"
  | 36 => "File name too long"
  | 39 => "Directory not empty"
  | n => "Unknown error " ++ toString n

def FileError.message : FileError → String
  | .system code => errorDescription code ++ " (os error " ++ toString code ++ ")"
  | .nulInPath => "file name contained an unexpected NUL byte"

/-- The file system calls the command line makes. -/
class FileSystem (m : Type → Type) where
  readFile : String → m (Except FileError (List UInt8))
  makeDir : String → m (Except FileError Unit)
  isDir : String → m Bool
  writeFile : String → List UInt8 → m (Except FileError Unit)

def joinPath (dir name : String) : String :=
  if name.startsWith "/" then name
  else if dir.isEmpty || dir.endsWith "/" then dir ++ name
  else dir ++ "/" ++ name

def dropTrailing (parts : List String) : List String :=
  (parts.reverse.dropWhile (fun p => p.isEmpty || p = ".")).reverse

def parentPath (p : String) : Option String :=
  match p.splitOn "/" with
  | [] => none
  | head :: tail =>
    if p.isEmpty then none
    else
      match dropTrailing tail with
      | [] => if head.isEmpty then none else some ""
      | body =>
        match head :: dropTrailing body.dropLast with
        | [""] => some "/"
        | rest => some ("/".intercalate rest)

variable {m : Type → Type} [Monad m] [FileSystem m]

def reachable (p : String) : Bool :=
  !p.contains (Char.ofNat 0)

def readAt (p : String) : m (Except FileError (List UInt8)) :=
  if reachable p then FileSystem.readFile p else pure (.error .nulInPath)

def makeDirAt (p : String) : m (Except FileError Unit) :=
  if reachable p then FileSystem.makeDir p else pure (.error .nulInPath)

def isDirAt (p : String) : m Bool :=
  if reachable p then FileSystem.isDir p else pure false

def writeAt (p : String) (content : List UInt8) : m (Except FileError Unit) :=
  if reachable p then FileSystem.writeFile p content else pure (.error .nulInPath)

/-- Makes a directory and the missing directories above it; fuel bounds the climb. -/
def createDirAllWithin : Nat → String → m (Except FileError Unit)
  | 0, _ => pure (.ok ())
  | fuel + 1, p => do
    if p.isEmpty then return .ok ()
    match ← makeDirAt p with
    | .ok () => return .ok ()
    | .error e =>
      if e ≠ FileError.notFound then
        return (if ← isDirAt p then .ok () else .error e)
      match parentPath p with
      | none => return .error e
      | some q =>
        match ← createDirAllWithin fuel q with
        | .error e => return .error e
        | .ok () =>
          match ← makeDirAt p with
          | .ok () => return .ok ()
          | .error e => return (if ← isDirAt p then .ok () else .error e)

def createDirAll (p : String) : m (Except FileError Unit) :=
  createDirAllWithin (p.length + 1) p

end ProtoTypings.Cli
