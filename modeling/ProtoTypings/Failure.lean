import ProtoTypings.Wire.Fault

namespace ProtoTypings

inductive Failure where
  | unresolved (typeName file : String)
  | aliasClash (shared first second : String)
  | missingFile (name : String)
  | undecodable (fault : Wire.Fault)
  | badParameter (detail : String)
deriving DecidableEq, Repr

/-- The text of a failure. -/
def Failure.message : Failure → String
  | .unresolved typeName file => "cannot resolve type '" ++ typeName ++ "' referenced from " ++ file
  | .aliasClash shared first second =>
    "files '" ++ first ++ "' and '" ++ second ++ "' both alias to '" ++ shared ++ "'"
  | .missingFile name => "file '" ++ name ++ "' not found in descriptor set"
  | .undecodable fault => "failed to decode descriptors: " ++ fault.message
  | .badParameter detail => "invalid parameter: " ++ detail

end ProtoTypings
