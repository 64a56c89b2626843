import ProtoTypings.Emit.Enum
import ProtoTypings.Emit.Extension

namespace ProtoTypings.Emit

open ProtoTypings.Schema
open ProtoTypings.Layout
open ProtoTypings.Typing

structure Oneof where
  name : String
  fields : List FieldDescriptor

/-- The oneofs of a message that have at least one field, in declaration order. -/
def realOneofs (m : MessageDescriptor) : List Oneof :=
  (m.oneofs.zipIdx.map fun (name, i) =>
    ⟨name, m.fields.filter fun f => f.oneofIndex == some (i : Int) && !f.proto3Optional⟩).filter
      (·.fields ≠ [])

/-- Whether a singular field has `has` and `clear` accessors: message fields, fields marked
optional or in a oneof, and every field outside proto3. -/
def hasPresence (dialect : Dialect) (f : FieldDescriptor) (t : FieldType) : Bool :=
  f.cardinality != .repeated &&
    (t.isMessage || f.proto3Optional || f.oneofIndex.isSome || dialect != .proto3)

def accessorLines (dialect : Dialect) (f : FieldDescriptor) (t : FieldType) : List String :=
  let accessor := Text.upperCamelCase f.name ++ t.suffix
  let element := t.element.expr
  let full := t.accessorExpr
  match t.shape with
  | .map _ =>
    ["get" ++ accessor ++ "(): " ++ full ++ ";", "clear" ++ accessor ++ "(): void;"]
  | .repeated =>
    let single := Text.upperCamelCase f.name
    ["clear" ++ accessor ++ "(): void;", "get" ++ accessor ++ "(): " ++ full ++ ";"] ++
    (if t.element.kind = .bytes then
      ["get" ++ accessor ++ "_asU8(): Array<Uint8Array>;",
        "get" ++ accessor ++ "_asB64(): Array<string>;"]
    else []) ++
    ["set" ++ accessor ++ "(value: " ++ full ++ "): void;",
      "add" ++ single ++ (if t.isMessage then "(value?: " else "(value: ") ++ element ++
        ", index?: number): " ++ element ++ ";"]
  | .singular =>
    (if hasPresence dialect f t then
      ["has" ++ accessor ++ "(): boolean;", "clear" ++ accessor ++ "(): void;"]
    else []) ++
    (if t.isMessage then
      ["get" ++ accessor ++ "(): " ++ element ++ " | undefined;",
        "set" ++ accessor ++ "(value?: " ++ element ++ "): void;"]
    else
      ["get" ++ accessor ++ "(): " ++ element ++ ";"] ++
      (if t.element.kind = .bytes then
        ["get" ++ accessor ++ "_asU8(): Uint8Array;", "get" ++ accessor ++ "_asB64(): string;"]
      else []) ++
      ["set" ++ accessor ++ "(value: " ++ element ++ "): void;"])

def staticLines (m : MessageDescriptor) : List String :=
  let name := m.name
  let rt := Module.runtimeAlias
  ["serializeBinary(): Uint8Array;",
    "toObject(includeInstance?: boolean): " ++ name ++ ".AsObject;",
    "static toObject(includeInstance: boolean, msg: " ++ name ++ "): " ++ name ++ ".AsObject;"] ++
  (if m.extensionRanges.isEmpty then []
  else
    ["static extensions: \x7b[key: number]: " ++ rt ++ ".ExtensionFieldInfo<" ++ rt ++
        ".Message>\x7d;",
      "static extensionsBinary: \x7b[key: number]: " ++ rt ++ ".ExtensionFieldBinaryInfo<" ++
        rt ++ ".Message>\x7d;"]) ++
  ["static serializeBinaryToWriter(message: " ++ name ++ ", writer: " ++ rt ++
      ".BinaryWriter): void;",
    "static deserializeBinary(bytes: Uint8Array): " ++ name ++ ";",
    "static deserializeBinaryFromReader(message: " ++ name ++ ", reader: " ++ rt ++
      ".BinaryReader): " ++ name ++ ";"]

def propertyLine (f : FieldDescriptor) (t : FieldType) : String :=
  let optional := if t.isMessage && t.shape = .singular then "?" else ""
  Text.camelCase f.name ++ t.suffix ++ optional ++ ": " ++ t.objectExpr ++ ","

def oneofCaseBlock (o : Oneof) : List Step :=
  .opening ("export enum " ++ Text.upperCamelCase o.name ++ "Case") ::
    ((.line (Text.screamingCase o.name ++ "_NOT_SET = 0,") :: o.fields.map fun f =>
        .line (Text.screamingCase f.name ++ " = " ++ toString f.number ++ ",")) ++ [.closing])

def classBlock (dialect : Dialect) (m : MessageDescriptor) (typed : List (FieldDescriptor × FieldType))
    (oneofs : List Oneof) : List Step :=
  .opening ("export class " ++ m.name ++ " extends " ++ Module.runtimeAlias ++ ".Message") ::
    ((typed.flatMap fun (f, t) => (accessorLines dialect f t).map Step.line ++ [.blank]) ++
      (oneofs.map fun o =>
        let case := Text.upperCamelCase o.name
        .line ("get" ++ case ++ "Case(): " ++ m.name ++ "." ++ case ++ "Case;")) ++
      (staticLines m).map Step.line ++ [.closing])

def asObjectBlock (typed : List (FieldDescriptor × FieldType)) : List Step :=
  .opening "export type AsObject =" ::
    (typed.map (fun (f, t) => .line (propertyLine f t)) ++ [.closing])

def typeFields (scope : Scope) (fields : List FieldDescriptor) :
    Typed (List (FieldDescriptor × FieldType)) :=
  fields.mapM fun f => do pure (f, ← scope.fieldType f)

def spaced (groups : List (List Step)) : List Step :=
  groups.flatMap (Step.blank :: ·)

mutual
/-- The declaration of a message: its class, a blank line, and its namespace holding its
plain-object type and, each after a blank line, its nested messages, enums, extensions and oneof
case enums. -/
def messageBlocks (scope : Scope) (dialect : Dialect) : MessageDescriptor → Typed (List Step)
  | m@⟨name, fields, nested, enums, extensions, _, _, _⟩ => do
    let typed ← typeFields scope fields
    let oneofs := realOneofs m
    let inner ← nestedBlocks scope dialect nested
    let exts ← extensions.mapM (extensionBlocks scope)
    pure (classBlock dialect m typed oneofs ++ .blank ::
      .opening ("export namespace " ++ name) ::
        ((asObjectBlock typed ++ spaced inner ++ spaced (enums.map enumBlock) ++ spaced exts ++
          spaced (oneofs.map oneofCaseBlock)) ++ [.closing]))

/-- The declarations of nested messages in order, one group each, map entries left out. -/
def nestedBlocks (scope : Scope) (dialect : Dialect) :
    List MessageDescriptor → Typed (List (List Step))
  | [] => pure []
  | m :: rest => do
    if m.isMapEntry then nestedBlocks scope dialect rest
    else
      let here ← messageBlocks scope dialect m
      let later ← nestedBlocks scope dialect rest
      pure (here :: later)
end

end ProtoTypings.Emit
