import ProtoTypings.Emit.Message
import ProtoTypings.Emit.Service
import ProtoTypings.Emit.Imports

namespace ProtoTypings.Emit

open ProtoTypings.Schema
open ProtoTypings.Layout
open ProtoTypings.Typing

def headerBlocks (file : FileDescriptor) : List Step :=
  [.line ("// package: " ++ file.package), .line ("// file: " ++ file.name), .blank]

structure Catalog where
  symbols : ExportMap
  aliases : Module.AliasTable

def Catalog.build (files : List FileDescriptor) : Except Failure Catalog := do
  let aliases ← Module.AliasTable.build (files.map (·.name))
  pure ⟨ExportMap.build files, aliases⟩

def Catalog.scope (c : Catalog) (file : FileDescriptor) (inline : Bool) : Scope :=
  { symbols := c.symbols, aliases := c.aliases, file := file.name, inline := inline }

def declarationBody (scope : Scope) (file : FileDescriptor) : Typed (List Step) := do
  let messages ← nestedBlocks scope file.dialect file.messages
  let extensions ← file.extensions.mapM (extensionBlocks scope)
  pure ((messages ++ extensions ++ file.enums.map enumBlock).flatMap (· ++ [.blank]))

def runTyping {α : Type} (t : Typed α) : Except Failure α × ImportSet :=
  (t.run).run {}

/-- The declarations artifact of a file. -/
def Catalog.declarations (c : Catalog) (file : FileDescriptor) : Except Failure String :=
  match runTyping (declarationBody (c.scope file true) file) with
  | (.error e, _) => .error e
  | (.ok body, imports) =>
    .ok (render (headerBlocks file ++ .line runtimeImport ::
      (dependencyImports c.aliases file imports.files).map Step.line ++ [.blank]) ++ render body)

/-- The services artifact of a file, empty when the file has no services. -/
def Catalog.services (c : Catalog) (file : FileDescriptor) : Except Failure String :=
  if file.services.isEmpty then .ok ""
  else
    match runTyping (file.services.mapM (serviceBlocks (c.scope file false) file.package)) with
    | (.error e, _) => .error e
    | (.ok bodies, imports) =>
      .ok (render (headerBlocks file ++ .line runtimeImport ::
        .line (importLine (c.aliases.aliasFor file.name) (Module.relativeModule file.name)) ::
        (dependencyImports c.aliases file imports.files).map Step.line ++ [.blank]) ++
        render bodies.flatten)

def Catalog.synthesize (c : Catalog) (file : FileDescriptor) : Except Failure (String × String) := do
  let declarations ← c.declarations file
  let services ← c.services file
  pure (declarations, services)

end ProtoTypings.Emit
