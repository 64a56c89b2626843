import ProtoTypings.Schema.Descriptor
import ProtoTypings.Failure

namespace ProtoTypings

open ProtoTypings.Schema

structure ValueRef where
  kind : FieldKind
  typeName : String
  showsString : Bool
deriving DecidableEq, Repr

def ValueRef.ofField (f : FieldDescriptor) : ValueRef :=
  { kind := f.kind, typeName := f.typeName, showsString := f.showsString }

structure MapEntry where
  key : ValueRef
  value : ValueRef
deriving DecidableEq, Repr

inductive SymbolKind where
  | message (entry : Option MapEntry)
  | enum
deriving DecidableEq, Repr

structure Symbol where
  fullName : String
  file : String
  package : String
  localPath : String
  kind : SymbolKind
deriving DecidableEq, Repr

/-- Joins a dotted prefix and a name; an empty prefix adds nothing. -/
def qualify (pfx name : String) : String :=
  if pfx.isEmpty then name else pfx ++ "." ++ name

/-- The key and value of a message marked as a map entry: its first fields numbered 1 and 2,
when it has both. -/
def mapEntryOf (m : MessageDescriptor) : Option MapEntry :=
  if m.isMapEntry then do
    let key ← m.fields.find? (·.number == 1)
    let value ← m.fields.find? (·.number == 2)
    pure ⟨.ofField key, .ofField value⟩
  else none

structure Origin where
  file : String
  package : String

def Origin.symbol (o : Origin) (localPath : String) (kind : SymbolKind) : Symbol :=
  { fullName := qualify o.package localPath, file := o.file, package := o.package,
    localPath := localPath, kind := kind }

def enumSymbols (o : Origin) (parent : String) (enums : List EnumDescriptor) : List Symbol :=
  enums.map fun e => o.symbol (qualify parent e.name) .enum

mutual
def messageSymbols (o : Origin) (parent : String) : MessageDescriptor → List Symbol
  | m@⟨name, _, nested, enums, _, _, _, _⟩ =>
    o.symbol (qualify parent name) (.message (mapEntryOf m)) ::
      (nestedSymbols o (qualify parent name) nested ++ enumSymbols o (qualify parent name) enums)

def nestedSymbols (o : Origin) (parent : String) : List MessageDescriptor → List Symbol
  | [] => []
  | m :: rest => messageSymbols o parent m ++ nestedSymbols o parent rest
end

def fileSymbols (f : FileDescriptor) : List Symbol :=
  let o : Origin := ⟨f.name, f.package⟩
  nestedSymbols o "" f.messages ++ enumSymbols o "" f.enums

structure SymbolTable where
  symbols : List Symbol
deriving Repr

def SymbolTable.build (files : List FileDescriptor) : SymbolTable :=
  ⟨files.flatMap fileSymbols⟩

/-- A type reference less one leading dot. -/
def stripDot (name : String) : String :=
  match name.toList with
  | '.' :: rest => String.ofList rest
  | _ => name

def SymbolTable.get? (t : SymbolTable) (name : String) : Option Symbol :=
  t.symbols.find? (·.fullName == stripDot name)

end ProtoTypings
