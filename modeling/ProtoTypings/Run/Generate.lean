import ProtoTypings.Emit.Artifact
import ProtoTypings.Run.Options

namespace ProtoTypings.Run

open ProtoTypings.Schema
open ProtoTypings.Emit

structure Artifact where
  name : String
  content : String
deriving DecidableEq, Repr

structure Stats where
  filesSynthesized : Nat := 0
  messages : Nat := 0
  enums : Nat := 0
  extensions : Nat := 0
  services : Nat := 0
  methods : Nat := 0
  artifactsWritten : Nat := 0
deriving DecidableEq, Repr

structure Tally where
  messages : Nat := 0
  enums : Nat := 0
  extensions : Nat := 0
deriving DecidableEq, Repr

def Tally.add (a b : Tally) : Tally :=
  ⟨a.messages + b.messages, a.enums + b.enums, a.extensions + b.extensions⟩

mutual
def messageTally : MessageDescriptor → Tally
  | m@⟨_, _, nested, enums, extensions, _, _, _⟩ =>
    if m.isMapEntry then {}
    else Tally.add ⟨1, enums.length, extensions.length⟩ (nestedTally nested)

def nestedTally : List MessageDescriptor → Tally
  | [] => {}
  | m :: rest => Tally.add (messageTally m) (nestedTally rest)
end

def Stats.count (s : Stats) (file : FileDescriptor) : Stats :=
  let t := nestedTally file.messages
  { s with
    filesSynthesized := s.filesSynthesized + 1
    messages := s.messages + t.messages
    enums := s.enums + t.enums + file.enums.length
    extensions := s.extensions + t.extensions + file.extensions.length
    services := s.services + file.services.length
    methods := file.services.foldl (fun n svc => n + svc.methods.length) s.methods }

structure Generated where
  stats : Stats := {}
  artifacts : List Artifact := []
deriving Repr

def fileArtifacts (options : Options) (file : FileDescriptor) (declarations services : String) :
    List Artifact :=
  ⟨Module.declarationsName file.name, declarations⟩ ::
    (if options.services && !services.isEmpty then [⟨Module.servicesName file.name, services⟩]
    else [])

/-- Generates one requested file and adds it to the result. -/
def step (catalog : Catalog) (files : List FileDescriptor) (options : Options) (acc : Generated)
    (target : String) : Except Failure Generated := do
  let some file := files.find? (·.name == target) | throw (.missingFile target)
  let declarations ← catalog.declarations file
  let services ← if options.services then catalog.services file else pure ""
  pure { stats := acc.stats.count file,
         artifacts := acc.artifacts ++ fileArtifacts options file declarations services }

/-- Generates the requested files of a descriptor set. -/
def generate (files : List FileDescriptor) (targets : List String) (options : Options) :
    Except Failure Generated := do
  let catalog ← Catalog.build files
  let g ← targets.foldlM (step catalog files options) {}
  pure { g with stats := { g.stats with artifactsWritten := g.artifacts.length } }

end ProtoTypings.Run
