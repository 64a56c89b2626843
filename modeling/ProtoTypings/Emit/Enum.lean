import ProtoTypings.Layout.Printer
import ProtoTypings.Schema.Descriptor

namespace ProtoTypings.Emit

open ProtoTypings.Schema
open ProtoTypings.Layout

def enumValueLine (v : EnumValue) : Step :=
  .line (v.name ++ " = " ++ toString v.number ++ ",")

/-- The declaration of an enum: its block opened, one line per value, and closed. -/
def enumBlock (e : EnumDescriptor) : List Step :=
  .opening ("export enum " ++ e.name) :: (e.values.map enumValueLine ++ [.closing])

end ProtoTypings.Emit
