import ProtoTypings.Run.Generate

namespace ProtoTypings.Run

def hex4 (n : Nat) : String :=
  let digit (d : Nat) : Char := "0123456789abcdef".toList.getD d '0'
  String.ofList [digit (n / 4096 % 16), digit (n / 256 % 16), digit (n / 16 % 16), digit (n % 16)]

def jsonChar (c : Char) : String :=
  if c = '"' then "\\\""
  else if c = '\\' then "\\\\"
  else if c = '\n' then "\\n"
  else if c = '\r' then "\\r"
  else if c = '\t' then "\\t"
  else if c.toNat = 8 then "\\b"
  else if c.toNat = 12 then "\\f"
  else if c.toNat < 32 then "\\u" ++ hex4 c.toNat
  else c.toString

def jsonString (s : String) : String :=
  "\"" ++ String.join (s.toList.map jsonChar) ++ "\""

/-- The manifest text of a run. -/
def manifest (g : Generated) : String :=
  let s := g.stats
  let stat (key : String) (n : Nat) : String := "    " ++ jsonString key ++ ": " ++ toString n
  let files :=
    if g.artifacts.isEmpty then "[]"
    else
      "[\n" ++ ",\n".intercalate (g.artifacts.map fun a =>
        "    \x7b\n      \"name\": " ++ jsonString a.name ++ "\n    \x7d") ++ "\n  ]"
  "\x7b\n  \"stats\": \x7b\n" ++
    ",\n".intercalate [stat "files_synthesized" s.filesSynthesized,
      stat "messages_generated" s.messages, stat "enums_generated" s.enums,
      stat "extensions_generated" s.extensions, stat "services_generated" s.services,
      stat "methods_generated" s.methods, stat "artifacts_written" s.artifactsWritten] ++
    "\n  \x7d,\n  \"files\": " ++ files ++ "\n\x7d"

end ProtoTypings.Run
