namespace ProtoTypings.Schema

inductive FieldKind where
  | double | float | int64 | uint64 | int32 | fixed64 | fixed32 | bool | string | group
  | message | bytes | uint32 | enum | sfixed32 | sfixed64 | sint32 | sint64
deriving DecidableEq, Repr, Inhabited

def FieldKind.all : List FieldKind :=
  [.double, .float, .int64, .uint64, .int32, .fixed64, .fixed32, .bool, .string, .group,
    .message, .bytes, .uint32, .enum, .sfixed32, .sfixed64, .sint32, .sint64]

def FieldKind.code : FieldKind → Nat
  | .double => 1 | .float => 2 | .int64 => 3 | .uint64 => 4 | .int32 => 5 | .fixed64 => 6
  | .fixed32 => 7 | .bool => 8 | .string => 9 | .group => 10 | .message => 11 | .bytes => 12
  | .uint32 => 13 | .enum => 14 | .sfixed32 => 15 | .sfixed64 => 16 | .sint32 => 17
  | .sint64 => 18

def FieldKind.ofCode (n : Int) : FieldKind :=
  (FieldKind.all.find? (fun k => (k.code : Int) == n)).getD .double

def FieldKind.enumName : FieldKind → String
  | .double => "TYPE_DOUBLE" | .float => "TYPE_FLOAT" | .int64 => "TYPE_INT64"
  | .uint64 => "TYPE_UINT64" | .int32 => "TYPE_INT32" | .fixed64 => "TYPE_FIXED64"
  | .fixed32 => "TYPE_FIXED32" | .bool => "TYPE_BOOL" | .string => "TYPE_STRING"
  | .group => "TYPE_GROUP" | .message => "TYPE_MESSAGE" | .bytes => "TYPE_BYTES"
  | .uint32 => "TYPE_UINT32" | .enum => "TYPE_ENUM" | .sfixed32 => "TYPE_SFIXED32"
  | .sfixed64 => "TYPE_SFIXED64" | .sint32 => "TYPE_SINT32" | .sint64 => "TYPE_SINT64"

inductive Cardinality where
  | optional | required | repeated
deriving DecidableEq, Repr, Inhabited

def Cardinality.code : Cardinality → Nat
  | .optional => 1 | .required => 2 | .repeated => 3

def Cardinality.ofCode (n : Int) : Cardinality :=
  if n = 2 then .required else if n = 3 then .repeated else .optional

inductive NumberStyle where
  | normal | string | number
deriving DecidableEq, Repr, Inhabited

def NumberStyle.code : NumberStyle → Nat
  | .normal => 0 | .string => 1 | .number => 2

def NumberStyle.ofCode (n : Int) : NumberStyle :=
  if n = 1 then .string else if n = 2 then .number else .normal

structure FieldOptions where
  numberStyle : NumberStyle := .normal
deriving DecidableEq, Repr, Inhabited

structure FieldDescriptor where
  name : String := ""
  number : Int := 0
  cardinality : Cardinality := .optional
  kind : FieldKind := .double
  typeName : String := ""
  extendee : String := ""
  defaultValue : String := ""
  oneofIndex : Option Int := none
  jsonName : String := ""
  proto3Optional : Bool := false
  options : Option FieldOptions := none
deriving DecidableEq, Repr, Inhabited

/-- Whether a 64-bit integer field is shown as a string: only when its options say so. -/
def FieldDescriptor.showsString (f : FieldDescriptor) : Bool :=
  match f.options with
  | some o => o.numberStyle == .string
  | none => false

structure EnumValue where
  name : String := ""
  number : Int := 0
deriving DecidableEq, Repr, Inhabited

structure EnumDescriptor where
  name : String := ""
  values : List EnumValue := []
deriving DecidableEq, Repr, Inhabited

structure NumberRange where
  start : Int := 0
  stop : Int := 0
deriving DecidableEq, Repr, Inhabited

structure MessageOptions where
  mapEntry : Bool := false
deriving DecidableEq, Repr, Inhabited

structure MessageDescriptor where
  name : String := ""
  fields : List FieldDescriptor := []
  nested : List MessageDescriptor := []
  enums : List EnumDescriptor := []
  extensions : List FieldDescriptor := []
  extensionRanges : List NumberRange := []
  oneofs : List String := []
  options : Option MessageOptions := none
deriving Repr, Inhabited

/-- Whether a message is the synthetic entry type of a map field: only when its options say so. -/
def MessageDescriptor.isMapEntry (m : MessageDescriptor) : Bool :=
  match m.options with
  | some o => o.mapEntry
  | none => false

structure MethodDescriptor where
  name : String := ""
  inputType : String := ""
  outputType : String := ""
  clientStreaming : Bool := false
  serverStreaming : Bool := false
deriving DecidableEq, Repr, Inhabited

structure ServiceDescriptor where
  name : String := ""
  methods : List MethodDescriptor := []
deriving DecidableEq, Repr, Inhabited

structure FileDescriptor where
  name : String := ""
  package : String := ""
  dependencies : List String := []
  publicDependencies : List Int := []
  weakDependencies : List Int := []
  messages : List MessageDescriptor := []
  enums : List EnumDescriptor := []
  services : List ServiceDescriptor := []
  extensions : List FieldDescriptor := []
  dialectName : String := ""
deriving Repr, Inhabited

inductive Dialect where
  | proto2 | proto3 | editions
deriving DecidableEq, Repr

/-- The dialect of a file: `proto3` and `editions` by name, all else `proto2`. -/
def FileDescriptor.dialect (f : FileDescriptor) : Dialect :=
  if f.dialectName = "proto3" then .proto3
  else if f.dialectName = "editions" then .editions
  else .proto2

structure DescriptorSet where
  files : List FileDescriptor := []
deriving Repr, Inhabited

end ProtoTypings.Schema
