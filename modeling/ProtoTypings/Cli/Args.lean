namespace ProtoTypings.Cli

structure GenerateArgs where
  descriptorSet : Option String := none
  files : String := "all"
  outputDir : String := "."
  noServices : Bool := false
  manifest : Bool := false
  quiet : Bool := false
deriving DecidableEq, Repr

inductive Command where
  | plugin
  | generate (args : GenerateArgs)
deriving DecidableEq, Repr

def valueOptions : List String := ["--descriptor-set", "--files", "--output-dir"]

def GenerateArgs.setValue (a : GenerateArgs) (name value : String) : GenerateArgs :=
  if name = "--descriptor-set" then { a with descriptorSet := some value }
  else if name = "--files" then { a with files := value }
  else { a with outputDir := value }

def GenerateArgs.setSwitch (a : GenerateArgs) (name : String) : Except String GenerateArgs :=
  if name = "--no-services" then .ok { a with noServices := true }
  else if name = "--manifest" then .ok { a with manifest := true }
  else if name = "--quiet" then .ok { a with quiet := true }
  else if name = "--verbose" then .ok a
  else .error ("unexpected argument '" ++ name ++ "' found")

def GenerateArgs.setShort (a : GenerateArgs) : List Char → Except String GenerateArgs
  | [] => .ok a
  | 'q' :: rest => GenerateArgs.setShort { a with quiet := true } rest
  | 'v' :: rest => GenerateArgs.setShort a rest
  | c :: _ => .error ("unexpected argument '-" ++ c.toString ++ "' found")

def parseGenerate (a : GenerateArgs) : List String → Except String GenerateArgs
  | [] => .ok a
  | arg :: rest =>
    match arg.splitOn "=" with
    | name :: value :: more =>
      if name ∈ valueOptions then parseGenerate (a.setValue name ("=".intercalate (value :: more))) rest
      else .error ("unexpected argument '" ++ arg ++ "' found")
    | _ =>
      if arg ∈ valueOptions then
        match rest with
        | value :: rest' => parseGenerate (a.setValue arg value) rest'
        | [] => .error ("a value is required for '" ++ arg ++ "' but none was supplied")
      else if arg.startsWith "--" then
        match a.setSwitch arg with
        | .ok a' => parseGenerate a' rest
        | .error e => .error e
      else if arg.startsWith "-" then
        match a.setShort (arg.toList.drop 1) with
        | .ok a' => parseGenerate a' rest
        | .error e => .error e
      else .error ("unexpected argument '" ++ arg ++ "' found")

/-- Reads the command line. -/
def parseArgs : List String → Except String Command
  | [] => .ok .plugin
  | arg :: rest =>
    if arg = "generate" then .generate <$> parseGenerate {} rest
    else if arg = "--verbose" || arg = "-v" then parseArgs rest
    else .error ("unrecognized subcommand '" ++ arg ++ "'")

end ProtoTypings.Cli
