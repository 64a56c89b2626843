import ProtoTypings.Module.Path

namespace ProtoTypings.Module

def runtimeModule : String := "google-protobuf"

def wellKnownFiles : List String :=
  ["google/protobuf/any.proto", "google/protobuf/api.proto",
    "google/protobuf/compiler/plugin.proto", "google/protobuf/descriptor.proto",
    "google/protobuf/duration.proto", "google/protobuf/empty.proto",
    "google/protobuf/field_mask.proto", "google/protobuf/source_context.proto",
    "google/protobuf/struct.proto", "google/protobuf/timestamp.proto",
    "google/protobuf/type.proto", "google/protobuf/wrappers.proto"]

def wellKnownTarget? (path : String) : Option String :=
  if path ∈ wellKnownFiles then some (runtimeModule ++ "/" ++ modulePath path) else none

/-- Where an import of a schema file points: the runtime package for a well-known file,
otherwise the computed target. -/
def importTarget (path computed : String) : String :=
  (wellKnownTarget? path).getD computed

theorem importTarget_of_not_mem {path : String} (h : path ∉ wellKnownFiles) (computed : String) :
    importTarget path computed = computed := by
  simp [importTarget, wellKnownTarget?, h]

end ProtoTypings.Module
