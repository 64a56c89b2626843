import ProtoTypings.Module.Alias

namespace ProtoTypings.Typing

inductive ElementKind where
  | scalar | bytes | message | enum
deriving DecidableEq, Repr

structure Element where
  expr : String
  kind : ElementKind
deriving DecidableEq, Repr

def Element.objectExpr (e : Element) : String :=
  if e.kind = .message then e.expr ++ ".AsObject" else e.expr

inductive Shape where
  | singular
  | repeated
  | map (key : Element)
deriving DecidableEq, Repr

structure FieldType where
  element : Element
  shape : Shape
deriving DecidableEq, Repr

def FieldType.accessorExpr (t : FieldType) : String :=
  match t.shape with
  | .singular => t.element.expr
  | .repeated => "Array<" ++ t.element.expr ++ ">"
  | .map key => Module.runtimeAlias ++ ".Map<" ++ key.expr ++ ", " ++ t.element.expr ++ ">"

def FieldType.objectExpr (t : FieldType) : String :=
  match t.shape with
  | .singular => t.element.objectExpr
  | .repeated => "Array<" ++ t.element.objectExpr ++ ">"
  | .map key => "Array<[" ++ key.expr ++ ", " ++ t.element.objectExpr ++ "]>"

def FieldType.isMessage (t : FieldType) : Bool :=
  t.element.kind == .message

/-- The suffix of the field's accessor and property names. -/
def FieldType.suffix (t : FieldType) : String :=
  match t.shape with
  | .singular => ""
  | .repeated => "List"
  | .map _ => "Map"

end ProtoTypings.Typing
