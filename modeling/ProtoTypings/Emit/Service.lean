import ProtoTypings.Layout.Printer
import ProtoTypings.Typing.Scope

namespace ProtoTypings.Emit

open ProtoTypings.Schema
open ProtoTypings.Layout
open ProtoTypings.Typing

def flagText (b : Bool) : String :=
  if b then "true" else "false"

def methodBlock (scope : Scope) (service : String) (m : MethodDescriptor) :
    Typed (List Step) := do
  let request ← scope.typeRef m.inputType
  let response ← scope.typeRef m.outputType
  pure <| .opening ("export class " ++ m.name) ::
    ([.line ("static readonly methodName = \"" ++ m.name ++ "\";"),
      .line ("static readonly service = " ++ service ++ ";"),
      .line ("static readonly requestStream = " ++ flagText m.clientStreaming ++ ";"),
      .line ("static readonly responseStream = " ++ flagText m.serverStreaming ++ ";"),
      .line ("static readonly requestType = " ++ request ++ ";"),
      .line ("static readonly responseType = " ++ response ++ ";")] ++ [.closing])

/-- The declaration of a service of a package: a class with its qualified name, then a namespace
with the class of each method. -/
def serviceBlocks (scope : Scope) (package : String) (s : ServiceDescriptor) :
    Typed (List Step) := do
  let qualified := if package.isEmpty then s.name else package ++ "." ++ s.name
  let methods ← s.methods.mapM (methodBlock scope s.name)
  pure <|
    .opening ("export class " ++ s.name) ::
      ([.line ("static serviceName = \"" ++ qualified ++ "\";")] ++ [.closing]) ++
    .opening ("export namespace " ++ s.name) :: (methods.flatten ++ [.closing])

end ProtoTypings.Emit
