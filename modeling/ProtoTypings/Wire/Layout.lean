namespace ProtoTypings.Wire

inductive MessageName where
  | fileDescriptorSet | fileDescriptorProto | descriptorProto | extensionRange | reservedRange
  | extensionRangeOptions | fieldDescriptorProto | oneofDescriptorProto
  | enumDescriptorProto | enumReservedRange | enumValueDescriptorProto | serviceDescriptorProto
  | methodDescriptorProto | fileOptions | messageOptions | fieldOptions
  | oneofOptions | enumOptions | enumValueOptions | serviceOptions
  | methodOptions | uninterpretedOption | namePart | sourceCodeInfo | location
  | generatedCodeInfo | generatedSpan | version | codeGeneratorRequest | codeGeneratorResponse
  | responseFile
deriving DecidableEq, Repr, Inhabited

inductive Encoding where
  | varint
  | fixed64
  | fixed32
  | text
  | bytes
  | message (m : MessageName)
deriving DecidableEq, Repr

structure FieldSpec where
  number : Nat
  name : String
  encoding : Encoding
  repeated : Bool := false
deriving DecidableEq, Repr

def one (number : Nat) (name : String) (encoding : Encoding) : FieldSpec :=
  ⟨number, name, encoding, false⟩

def many (number : Nat) (name : String) (encoding : Encoding) : FieldSpec :=
  ⟨number, name, encoding, true⟩

def MessageName.label : MessageName → String
  | .fileDescriptorSet => "FileDescriptorSet"
  | .fileDescriptorProto => "FileDescriptorProto"
  | .descriptorProto => "DescriptorProto"
  | .extensionRange => "ExtensionRange"
  | .reservedRange => "ReservedRange"
  | .extensionRangeOptions => "ExtensionRangeOptions"
  | .fieldDescriptorProto => "FieldDescriptorProto"
  | .oneofDescriptorProto => "OneofDescriptorProto"
  | .enumDescriptorProto => "EnumDescriptorProto"
  | .enumReservedRange => "EnumReservedRange"
  | .enumValueDescriptorProto => "EnumValueDescriptorProto"
  | .serviceDescriptorProto => "ServiceDescriptorProto"
  | .methodDescriptorProto => "MethodDescriptorProto"
  | .fileOptions => "FileOptions"
  | .messageOptions => "MessageOptions"
  | .fieldOptions => "FieldOptions"
  | .oneofOptions => "OneofOptions"
  | .enumOptions => "EnumOptions"
  | .enumValueOptions => "EnumValueOptions"
  | .serviceOptions => "ServiceOptions"
  | .methodOptions => "MethodOptions"
  | .uninterpretedOption => "UninterpretedOption"
  | .namePart => "NamePart"
  | .sourceCodeInfo => "SourceCodeInfo"
  | .location => "Location"
  | .generatedCodeInfo => "GeneratedCodeInfo"
  | .generatedSpan => "Annotation"
  | .version => "Version"
  | .codeGeneratorRequest => "CodeGeneratorRequest"
  | .codeGeneratorResponse => "CodeGeneratorResponse"
  | .responseFile => "File"

def uninterpreted : FieldSpec :=
  many 999 "uninterpreted_option" (.message .uninterpretedOption)

/-- The fields of a message. -/
def MessageName.fields : MessageName → List FieldSpec
  | .fileDescriptorSet => [many 1 "file" (.message .fileDescriptorProto)]
  | .fileDescriptorProto =>
    [one 1 "name" .text, one 2 "package" .text, many 3 "dependency" .text,
      many 10 "public_dependency" .varint, many 11 "weak_dependency" .varint,
      many 4 "message_type" (.message .descriptorProto),
      many 5 "enum_type" (.message .enumDescriptorProto),
      many 6 "service" (.message .serviceDescriptorProto),
      many 7 "extension" (.message .fieldDescriptorProto),
      one 8 "options" (.message .fileOptions), one 9 "source_code_info" (.message .sourceCodeInfo),
      one 12 "syntax" .text]
  | .descriptorProto =>
    [one 1 "name" .text, many 2 "field" (.message .fieldDescriptorProto),
      many 6 "extension" (.message .fieldDescriptorProto),
      many 3 "nested_type" (.message .descriptorProto),
      many 4 "enum_type" (.message .enumDescriptorProto),
      many 5 "extension_range" (.message .extensionRange),
      many 8 "oneof_decl" (.message .oneofDescriptorProto),
      one 7 "options" (.message .messageOptions),
      many 9 "reserved_range" (.message .reservedRange), many 10 "reserved_name" .text]
  | .extensionRange =>
    [one 1 "start" .varint, one 2 "end" .varint, one 3 "options" (.message .extensionRangeOptions)]
  | .reservedRange => [one 1 "start" .varint, one 2 "end" .varint]
  | .extensionRangeOptions => [uninterpreted]
  | .fieldDescriptorProto =>
    [one 1 "name" .text, one 3 "number" .varint, one 4 "label" .varint, one 5 "r#type" .varint,
      one 6 "type_name" .text, one 2 "extendee" .text, one 7 "default_value" .text,
      one 9 "oneof_index" .varint, one 10 "json_name" .text,
      one 8 "options" (.message .fieldOptions), one 17 "proto3_optional" .varint]
  | .oneofDescriptorProto => [one 1 "name" .text, one 2 "options" (.message .oneofOptions)]
  | .enumDescriptorProto =>
    [one 1 "name" .text, many 2 "value" (.message .enumValueDescriptorProto),
      one 3 "options" (.message .enumOptions),
      many 4 "reserved_range" (.message .enumReservedRange), many 5 "reserved_name" .text]
  | .enumReservedRange => [one 1 "start" .varint, one 2 "end" .varint]
  | .enumValueDescriptorProto =>
    [one 1 "name" .text, one 2 "number" .varint, one 3 "options" (.message .enumValueOptions)]
  | .serviceDescriptorProto =>
    [one 1 "name" .text, many 2 "method" (.message .methodDescriptorProto),
      one 3 "options" (.message .serviceOptions)]
  | .methodDescriptorProto =>
    [one 1 "name" .text, one 2 "input_type" .text, one 3 "output_type" .text,
      one 4 "options" (.message .methodOptions), one 5 "client_streaming" .varint,
      one 6 "server_streaming" .varint]
  | .fileOptions =>
    [one 1 "java_package" .text, one 8 "java_outer_classname" .text,
      one 10 "java_multiple_files" .varint, one 20 "java_generate_equals_and_hash" .varint,
      one 27 "java_string_check_utf8" .varint, one 9 "optimize_for" .varint,
      one 11 "go_package" .text, one 16 "cc_generic_services" .varint,
      one 17 "java_generic_services" .varint, one 18 "py_generic_services" .varint,
      one 42 "php_generic_services" .varint, one 23 "deprecated" .varint,
      one 31 "cc_enable_arenas" .varint, one 36 "objc_class_prefix" .text,
      one 37 "csharp_namespace" .text, one 39 "swift_prefix" .text,
      one 40 "php_class_prefix" .text, one 41 "php_namespace" .text,
      one 44 "php_metadata_namespace" .text, one 45 "ruby_package" .text, uninterpreted]
  | .messageOptions =>
    [one 1 "message_set_wire_format" .varint, one 2 "no_standard_descriptor_accessor" .varint,
      one 3 "deprecated" .varint, one 7 "map_entry" .varint, uninterpreted]
  | .fieldOptions =>
    [one 1 "ctype" .varint, one 2 "packed" .varint, one 6 "jstype" .varint, one 5 "lazy" .varint,
      one 3 "deprecated" .varint, one 10 "weak" .varint, uninterpreted]
  | .oneofOptions => [uninterpreted]
  | .enumOptions => [one 2 "allow_alias" .varint, one 3 "deprecated" .varint, uninterpreted]
  | .enumValueOptions => [one 1 "deprecated" .varint, uninterpreted]
  | .serviceOptions => [one 33 "deprecated" .varint, uninterpreted]
  | .methodOptions =>
    [one 33 "deprecated" .varint, one 34 "idempotency_level" .varint, uninterpreted]
  | .uninterpretedOption =>
    [many 2 "name" (.message .namePart), one 3 "identifier_value" .text,
      one 4 "positive_int_value" .varint, one 5 "negative_int_value" .varint,
      one 6 "double_value" .fixed64, one 7 "string_value" .bytes, one 8 "aggregate_value" .text]
  | .namePart => [one 1 "name_part" .text, one 2 "is_extension" .varint]
  | .sourceCodeInfo => [many 1 "location" (.message .location)]
  | .location =>
    [many 1 "path" .varint, many 2 "span" .varint, one 3 "leading_comments" .text,
      one 4 "trailing_comments" .text, many 6 "leading_detached_comments" .text]
  | .generatedCodeInfo => [many 1 "annotation" (.message .generatedSpan)]
  | .generatedSpan =>
    [many 1 "path" .varint, one 2 "source_file" .text, one 3 "begin" .varint, one 4 "end" .varint]
  | .version =>
    [one 1 "major" .varint, one 2 "minor" .varint, one 3 "patch" .varint, one 4 "suffix" .text]
  | .codeGeneratorRequest =>
    [many 1 "file_to_generate" .text, one 2 "parameter" .text,
      many 15 "proto_file" (.message .fileDescriptorProto),
      one 3 "compiler_version" (.message .version)]
  | .codeGeneratorResponse =>
    [one 1 "error" .text, one 2 "supported_features" .varint,
      many 15 "file" (.message .responseFile)]
  | .responseFile =>
    [one 1 "name" .text, one 2 "insertion_point" .text, one 15 "content" .text,
      one 16 "generated_code_info" (.message .generatedCodeInfo)]

def MessageName.field? (m : MessageName) (number : Nat) : Option FieldSpec :=
  m.fields.find? (·.number == number)

end ProtoTypings.Wire
