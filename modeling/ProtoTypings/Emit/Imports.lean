import ProtoTypings.Module.WellKnown
import ProtoTypings.Module.Alias
import ProtoTypings.Schema.Descriptor

namespace ProtoTypings.Emit

open ProtoTypings.Schema

def importLine (moduleAlias target : String) : String :=
  "import * as " ++ moduleAlias ++ " from \"" ++ target ++ "\";"

def runtimeImport : String :=
  importLine Module.runtimeAlias Module.runtimeModule

/-- Keeps the first mention of each file, leaving out those already seen. -/
def firstMentions (seen : List String) : List String → List String
  | [] => []
  | x :: rest => if x ∈ seen then firstMentions seen rest else x :: firstMentions (x :: seen) rest

def importedFiles (file : FileDescriptor) (referenced : List String) : List String :=
  firstMentions [file.name]
    (file.dependencies ++ referenced.filter (fun r => r ∉ file.dependencies))

def importAs (moduleAlias fromPath dep : String) : String :=
  importLine moduleAlias
    (Module.importTarget dep (Module.rootPrefix fromPath ++ Module.modulePath dep))

def fileImport (fromPath dep : String) : String :=
  importAs (Module.aliasOf dep) fromPath dep

/-- The import lines for the files an artifact imports, each under the alias the table gives. -/
def dependencyImports (aliases : Module.AliasTable) (file : FileDescriptor)
    (referenced : List String) : List String :=
  (importedFiles file referenced).map fun dep => importAs (aliases.aliasFor dep) file.name dep

end ProtoTypings.Emit
