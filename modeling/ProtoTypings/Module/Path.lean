namespace ProtoTypings.Module

def schemaExtension : List Char := ".proto".toList

/-- The characters of a schema path less one trailing `.proto`. -/
def stemChars (cs : List Char) : List Char :=
  if schemaExtension.isSuffixOf cs then cs.take (cs.length - schemaExtension.length) else cs

def stem (path : String) : String :=
  String.ofList (stemChars path.toList)

def depth (path : String) : Nat :=
  path.toList.count '/'

/-- The relative prefix from a generated file back up to the output root. -/
def rootPrefix (path : String) : String :=
  if depth path = 0 then "./" else String.join (List.replicate (depth path) "../")

def modulePath (path : String) : String :=
  stem path ++ "_pb"

def declarationsName (path : String) : String :=
  modulePath path ++ ".d.ts"

def servicesName (path : String) : String :=
  modulePath path ++ "_service.d.ts"

/-- The module path as seen from a generated file: up to the root, then down. -/
def relativeModule (path : String) : String :=
  rootPrefix path ++ modulePath path

theorem stemChars_append (cs : List Char) :
    stemChars (cs ++ schemaExtension) = cs := by
  simp [stemChars, List.take_left']

theorem rootPrefix_of_depth_zero {path : String} (h : depth path = 0) : rootPrefix path = "./" := by
  simp [rootPrefix, h]

end ProtoTypings.Module
