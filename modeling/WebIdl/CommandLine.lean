import WebIdl.LogFilter
import WebIdl.Projection

set_option autoImplicit false

namespace WebIdl

structure Options where
  inputs : List String
  output : Option String
  merge : Bool
  inherit : Bool
  skipFileNameCheck : Bool
  compact : Bool
deriving DecidableEq

namespace Options

def start : Options := ⟨[], none, false, false, false, false⟩

def addInput (options : Options) (path : String) : Option Options :=
  if path.isEmpty then none else some { options with inputs := options.inputs ++ [path] }

def setOutput (options : Options) (path : String) : Option Options :=
  if path.isEmpty || options.output.isSome then none
  else some { options with output := some path }

def addInputs (options : Options) : List String → Option Options
  | [] => some options
  | path :: rest => (options.addInput path).bind fun options => options.addInputs rest

def isValue (argument : String) : Bool := argument = "-" || !argument.startsWith "-"

def after : List Char → List Char → Option (List Char)
  | [], text => some text
  | _ :: _, [] => none
  | mark :: marks, c :: rest => if c = mark then after marks rest else none

def attachedOutput (argument : String) : Option String :=
  let text := argument.toList
  match after "--output=".toList text with
  | some value => some (String.ofList value)
  | none =>
      match after "-o".toList text with
      | some ('=' :: value) => some (String.ofList value)
      | some (first :: value) => some (String.ofList (first :: value))
      | _ => none

def setSwitch (options : Options) (argument : String) : Option Options :=
  match argument with
  | "--merge" => if options.merge then none else some { options with merge := true }
  | "--inherit" => if options.inherit then none else some { options with inherit := true }
  | "--skip-filename-check" =>
      if options.skipFileNameCheck then none else some { options with skipFileNameCheck := true }
  | "--compact" => if options.compact then none else some { options with compact := true }
  | _ => none

def readFrom (options : Options) : List String → Option Options
  | [] => some options
  | "--" :: rest => options.addInputs rest
  | argument :: rest =>
      if argument = "--output" ∨ argument = "-o" then
        match rest with
        | [] => none
        | value :: rest =>
            if isValue value then
              (options.setOutput value).bind fun options => options.readFrom rest
            else none
      else if isValue argument then
        (options.addInput argument).bind fun options => options.readFrom rest
      else
        match attachedOutput argument with
        | some value => (options.setOutput value).bind fun options => options.readFrom rest
        | none => (options.setSwitch argument).bind fun options => options.readFrom rest

def ofArguments (arguments : List String) : Option Options :=
  (start.readFrom arguments).filter fun options => !options.inputs.isEmpty

end Options

namespace CommandLine

abbrev Contents := List (String × Except FileError (List UInt8))

def readUnits (checkName : Bool) : Contents → Except Report (List Definitions)
  | [] => .ok []
  | (path, content) :: rest => do
      let unit ← Definitions.ofFile path checkName content
      let units ← readUnits checkName rest
      return unit :: units

def resolveAll : List Definitions → Except Report (List Definitions)
  | [] => .ok []
  | group :: rest => do
      let group ← Report.during .resolving .idl group.resolveInheritance.result
      let groups ← resolveAll rest
      return group :: groups

def groups (options : Options) (contents : Contents) : Except Report (List Definitions) := do
  let units ← readUnits (!options.skipFileNameCheck) contents
  let groups ←
    if options.merge then
      (Report.during .merging .idl (Definitions.merge units)).map fun merged => [merged]
    else .ok units
  if options.inherit then resolveAll groups else .ok groups

def records (options : Options) (groups : List Definitions) : Json :=
  let projections := groups.map fun group => (Projection.ofDefinitions group).toJson
  match options.merge, projections with
  | true, [projection] => projection
  | _, projections => .array projections

def produce (options : Options) (contents : Contents) : Except Report String :=
  (groups options contents).map fun groups =>
    let value := records options groups
    if options.compact then value.compact else value.pretty

def readEvents (checkName : Bool) : Contents → List Event
  | [] => [.builtUnits]
  | (path, content) :: rest =>
      Definitions.fileEvents path checkName content ++
        match Definitions.ofFile path checkName content with
        | .ok _ => readEvents checkName rest
        | .error _ => []

def resolveAllEvents : List Definitions → List Event
  | [] => []
  | group :: rest =>
      group.resolveEvents ++
        match group.resolveInheritance.failure with
        | some _ => []
        | none => resolveAllEvents rest

def events (options : Options) (contents : Contents) : List Event :=
  let checkName := !options.skipFileNameCheck
  readEvents checkName contents ++
    match readUnits checkName contents with
    | .error _ => []
    | .ok units =>
        let resolve := fun groups => if options.inherit then resolveAllEvents groups else []
        if options.merge then
          Definitions.mergeEvents units ++
            match Definitions.merge units with
            | .ok merged => resolve [merged]
            | .error _ => []
        else resolve units

structure Outcome where
  exitCode : Nat
  output : String
  notice : Option String
  log : List Event
  files : FileSet

def wanted (lookup : String → Option String) (events : List Event) : List Event :=
  match LogFilter.ofEnvironment lookup with
  | some filter => events.filter filter.passes
  | none => []

def deliver (options : Options) (log : List Event) (files : FileSet) (product : String) : Outcome :=
  match options.output with
  | none => ⟨0, product ++ "\n", none, log, files⟩
  | some path =>
      match files.write path product.toUTF8.toList with
      | .ok files => ⟨0, "", some ("idl-ir: wrote " ++ path ++ "\n"), log, files⟩
      | .error error => ⟨1, "", some (Report.text ⟨.writing path, .file error⟩), log, files⟩

def run (arguments : List String) (lookup : String → Option String) (files : FileSet) : Outcome :=
  match Options.ofArguments arguments with
  | none => ⟨2, "", none, [], files⟩
  | some options =>
      let contents := options.inputs.map fun path => (path, files.read path)
      let log := wanted lookup (events options contents)
      match produce options contents with
      | .ok product => deliver options log files product
      | .error report => ⟨1, "", some report.text, log, files⟩

end CommandLine

end WebIdl
