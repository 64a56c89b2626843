import ProtoTypings.Symbol.ExportMap
import ProtoTypings.Module.Alias
import ProtoTypings.Typing.TypeExpr
import ProtoTypings.Typing.Scalar

namespace ProtoTypings.Typing

open ProtoTypings.Schema

structure ImportSet where
  files : List String := []
deriving DecidableEq, Repr

def insertOrdered (x : String) : List String → List String
  | [] => [x]
  | y :: rest => if x < y then x :: y :: rest else if x = y then y :: rest else y :: insertOrdered x rest

def ImportSet.insert (s : ImportSet) (file : String) : ImportSet :=
  ⟨insertOrdered file s.files⟩

theorem mem_insertOrdered {x y : String} {files : List String} :
    x ∈ insertOrdered y files ↔ x = y ∨ x ∈ files := by
  induction files with
  | nil => simp [insertOrdered]
  | cons z rest ih =>
    simp only [insertOrdered]
    split
    · simp
    · split
      · rename_i same
        subst same
        simp
      · simp only [List.mem_cons, ih]
        exact or_left_comm

theorem mem_insert {s : ImportSet} {x file : String} :
    x ∈ (s.insert file).files ↔ x = file ∨ x ∈ s.files :=
  mem_insertOrdered

abbrev Typed := ExceptT Failure (StateM ImportSet)

structure Scope where
  symbols : ExportMap
  aliases : Module.AliasTable
  file : String
  inline : Bool

def Scope.resolve (scope : Scope) (name : String) : Typed Symbol :=
  match scope.symbols.resolve name scope.file with
  | .ok s => pure s
  | .error e => throw e

/-- The expression of a message or enum reference. -/
def Scope.typeRef (scope : Scope) (name : String) : Typed String := do
  let sym ← scope.resolve name
  if scope.inline && sym.file == scope.file then
    pure sym.localPath
  else
    modify (·.insert sym.file)
    pure (scope.aliases.aliasFor sym.file ++ "." ++ sym.localPath)

def Scope.element (scope : Scope) (v : ValueRef) : Typed Element :=
  match v.kind with
  | .message | .group => do pure ⟨← scope.typeRef v.typeName, .message⟩
  | .enum => do pure ⟨← scope.typeRef v.typeName, .enum⟩
  | .bytes => pure ⟨bytesType, .bytes⟩
  | k => pure ⟨(scalarType k v.showsString).getD "number", .scalar⟩

def plainShape (f : FieldDescriptor) : Shape :=
  if f.cardinality = .repeated then .repeated else .singular

/-- The type of a field. A repeated message field whose type is a map entry is a map from the
entry's key to its value. -/
def Scope.fieldType (scope : Scope) (f : FieldDescriptor) : Typed FieldType := do
  if f.cardinality = .repeated ∧ f.kind = .message then
    let sym ← scope.resolve f.typeName
    if let .message (some entry) := sym.kind then
      let key ← scope.element entry.key
      let value ← scope.element entry.value
      return ⟨value, .map key⟩
  let element ← scope.element (.ofField f)
  pure ⟨element, plainShape f⟩

end ProtoTypings.Typing
