import ProtoTypings.Text.Capitals

namespace ProtoTypings.Text

/-- The camel form of a character list. `started` records that output exists, `raise` that the
next character is to be written in capitals. -/
def camelChars (started raise : Bool) : List Char → List Char
  | [] => []
  | c :: rest =>
    if c = '_' then camelChars started started rest
    else (if raise then capitalsOf c else [c]) ++ camelChars true false rest

def raiseHead : List Char → List Char
  | [] => []
  | c :: rest => capitalsOf c ++ rest

def camelCase (s : String) : String :=
  String.ofList (camelChars false false s.toList)

def upperCamelCase (s : String) : String :=
  String.ofList (raiseHead (camelChars false false s.toList))

/-- Screaming snake case: the whole name in capitals. -/
def screamingCase (s : String) : String :=
  capitalize s

theorem camelChars_nil (started raise : Bool) : camelChars started raise [] = [] := rfl

theorem camelChars_underscore (started raise : Bool) (rest : List Char) :
    camelChars started raise ('_' :: rest) = camelChars started started rest := by
  simp [camelChars]

end ProtoTypings.Text
