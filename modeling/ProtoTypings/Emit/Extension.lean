import ProtoTypings.Layout.Printer
import ProtoTypings.Typing.Scope
import ProtoTypings.Text.Case

namespace ProtoTypings.Emit

open ProtoTypings.Schema
open ProtoTypings.Layout
open ProtoTypings.Typing

/-- The lines of an extension. -/
def extensionBlocks (scope : Scope) (ext : FieldDescriptor) : Typed (List Step) := do
  let extendee ← scope.typeRef ext.extendee
  let value := (← scope.fieldType ext).accessorExpr
  pure [.line ("/** Extends \x7b@link " ++ extendee ++ "\x7d. */"),
    .line ("export const " ++ Text.camelCase ext.name ++ ": " ++ Module.runtimeAlias ++
      ".ExtensionFieldInfo<" ++ value ++ ">;")]

end ProtoTypings.Emit
