import ProtoTypings.Cli.FileSystem

namespace ProtoTypings.Cli

/-- Directories and files below the working directory, by their component lists. -/
structure Workspace where
  dirs : List (List String) := []
  files : List (List String × List UInt8) := []
deriving Repr

inductive Spot where
  | outside
  | dir (path : List String)
  | file (path : List String)
  | free (path : List String)
deriving DecidableEq, Repr

def Workspace.hasDir (w : Workspace) (path : List String) : Bool :=
  path.isEmpty || w.dirs.contains path

def Workspace.hasFile (w : Workspace) (path : List String) : Bool :=
  w.files.any (·.1 == path)

def nameLimit : Nat := 255

def pathLimit : Nat := 4096

def tooLong (c : String) : Bool :=
  c.utf8ByteSize > nameLimit

def beyond (rest : List String) : Except FileError Spot :=
  if rest.any tooLong then .error .nameTooLong else .ok .outside

/-- Walks components from a directory. -/
def Workspace.walk (w : Workspace) (cur : List String) : List String → Except FileError Spot
  | [] => .ok (.dir cur)
  | [c] =>
    if c = "." then .ok (.dir cur)
    else if c = ".." then if cur.isEmpty then beyond [] else .ok (.dir cur.dropLast)
    else if tooLong c then .error .nameTooLong
    else
      let next := cur ++ [c]
      if w.hasDir next then .ok (.dir next)
      else if w.hasFile next then .ok (.file next)
      else .ok (.free next)
  | c :: rest =>
    if c = "." then w.walk cur rest
    else if c = ".." then
      if cur.isEmpty then beyond rest else w.walk cur.dropLast rest
    else if tooLong c then .error .nameTooLong
    else
      let next := cur ++ [c]
      if w.hasDir next then w.walk next rest
      else if w.hasFile next then .error .notDirectory
      else .error .notFound

def Workspace.locate (w : Workspace) (p : String) : Except FileError Spot :=
  let parts := (p.splitOn "/").filter (fun c => !c.isEmpty)
  if p.isEmpty then .error .notFound
  else if p.utf8ByteSize ≥ pathLimit then .error .nameTooLong
  else if p.startsWith "/" then beyond parts
  else w.walk [] parts

def namesDir (p : String) : Bool :=
  p.endsWith "/"

def Workspace.read (w : Workspace) (p : String) : Except FileError (List UInt8) := do
  match ← w.locate p with
  | .file path =>
    if namesDir p then throw .notDirectory
    else pure ((w.files.find? (·.1 == path)).map (·.2) |>.getD [])
  | .dir _ => throw .isDirectory
  | _ => throw .notFound

def Workspace.makeDir (w : Workspace) (p : String) : Except FileError Workspace := do
  match ← w.locate p with
  | .free path => pure { w with dirs := w.dirs ++ [path] }
  | .outside => pure w
  | _ => throw .alreadyExists

def Workspace.write (w : Workspace) (p : String) (content : List UInt8) :
    Except FileError Workspace := do
  match ← w.locate p with
  | .outside => pure w
  | .dir _ => throw .isDirectory
  | .free path =>
    if namesDir p then throw .isDirectory
    else pure { w with files := w.files ++ [(path, content)] }
  | .file path =>
    if namesDir p then throw .isDirectory
    else
      pure { w with files := w.files.map fun (q, c) => if q = path then (q, content) else (q, c) }

def Workspace.isDir (w : Workspace) (p : String) : Bool :=
  match w.locate p with
  | .ok (.dir _) => true
  | .ok .outside => true
  | .ok (.file _) | .ok (.free _) | .error _ => false

instance : FileSystem (StateM Workspace) where
  readFile p := do pure ((← get).read p)
  makeDir p := do
    match (← get).makeDir p with
    | .ok w => set w; pure (.ok ())
    | .error e => pure (.error e)
  isDir p := do pure ((← get).isDir p)
  writeFile p content := do
    match (← get).write p content with
    | .ok w => set w; pure (.ok ())
    | .error e => pure (.error e)

def Workspace.listing (w : Workspace) : List (String × List UInt8) :=
  (w.files.map fun (path, c) => ("/".intercalate path, c)).mergeSort fun a b => decide (a.1 ≤ b.1)

end ProtoTypings.Cli
