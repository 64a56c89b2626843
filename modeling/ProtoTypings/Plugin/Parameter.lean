import ProtoTypings.Text.Blank
import ProtoTypings.Run.Options
import ProtoTypings.Failure

namespace ProtoTypings.Plugin

open ProtoTypings.Text

def splitSetting (part : List Char) : List Char × List Char :=
  match part.span (· ≠ '=') with
  | (key, _ :: value) => (key, value)
  | (key, []) => (key, "true".toList)

def applySetting (options : Run.Options) (part : List Char) : Except Failure Run.Options :=
  let (key, value) := splitSetting part
  let key := String.ofList (trimBlankChars key)
  let value := String.ofList (trimBlankChars value)
  if key = "service" then
    if value = "true" then .ok { options with services := true }
    else if value = "false" then .ok { options with services := false }
    else .error (.badParameter ("service expects true or false, got '" ++ value ++ "'"))
  else .error (.badParameter ("unknown option '" ++ key ++ "'"))

def settings (text : String) : List (List Char) :=
  ((text.toList.splitOn ',').map trimBlankChars).filter (· ≠ [])

/-- Reads the options of a parameter text. -/
def parseParameter (text : String) : Except Failure Run.Options :=
  (settings text).foldlM applySetting {}

end ProtoTypings.Plugin
