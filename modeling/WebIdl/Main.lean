import WebIdl.CommandLine

set_option autoImplicit false

open WebIdl

def fileErrorOf : IO.Error → FileError
  | .noFileOrDirectory _ _ _ => .notFound
  | .inappropriateType _ code _ => if code = 20 then .notDirectory else .isDirectory
  | .invalidArgument _ 36 _ => .nameTooLong
  | error => .system (toString error)

def readContent (path : String) : IO (String × Except FileError (List UInt8)) := do
  try
    let bytes ← IO.FS.readBinFile path
    return (path, .ok bytes.toList)
  catch error =>
    return (path, .error (fileErrorOf error))

def logLine (format : LogFormat) (event : Event) : String :=
  match format with
  | .text => event.level.name ++ " " ++ event.target ++ ": " ++ event.message
  | .json =>
      (Json.object [("level", .string event.level.name),
        ("fields", .object [("message", .string event.message)]),
        ("target", .string event.target)]).compact

def writeProduct (options : Options) (product : String) : IO UInt32 := do
  match options.output with
  | none =>
      IO.println product
      return 0
  | some path =>
      try
        IO.FS.writeFile path product
        IO.eprintln ("idl-ir: wrote " ++ path)
        return 0
      catch error =>
        IO.eprint (Report.text ⟨.writing path, .file (fileErrorOf error)⟩)
        return 1

def usage : String :=
  "usage: idl-ir [--merge] [--inherit] [--skip-filename-check] [--compact] [-o OUTPUT] INPUT..."

def main (arguments : List String) : IO UInt32 := do
  match Options.ofArguments arguments with
  | none =>
      IO.eprintln usage
      return 2
  | some options =>
      let names := ["IDL_IR_LOG", "RUST_LOG", "IDL_IR_LOG_FORMAT"]
      let values ← names.mapM fun name => do return (name, ← IO.getEnv name)
      let lookup := fun name => (values.lookup name).join
      let contents ← options.inputs.mapM readContent
      let format := LogFormat.ofEnvironment lookup
      for event in CommandLine.wanted lookup (CommandLine.events options contents) do
        IO.eprintln (logLine format event)
      match CommandLine.produce options contents with
      | .ok product => writeProduct options product
      | .error report =>
          IO.eprint report.text
          return 1
