import WebIdl.Error
import WebIdl.FileSet
import WebIdl.Json.Fault

set_option autoImplicit false

namespace WebIdl

inductive Cause where
  | file (error : FileError)
  | tree (failure : Json.Failure)
  | idl (error : IdlError)
deriving DecidableEq

inductive Doing where
  | reading (path : String)
  | decoding (path : Option String)
  | building (path : Option String)
  | checkingName (path : String)
  | merging
  | resolving
  | writing (path : String)
deriving DecidableEq

structure Report where
  doing : Doing
  cause : Cause
deriving DecidableEq

def Cause.message : Cause → String
  | .file error => error.message
  | .tree failure =>
      "at JSON path " ++ Json.showPath failure.path ++ ": " ++ failure.fault.message
  | .idl error => error.message

def Doing.message : Doing → String
  | .reading path => "failed to read " ++ path
  | .decoding none => "failed to decode syntax tree"
  | .decoding (some path) => "failed to decode syntax tree in " ++ path
  | .building none => "failed to build definitions"
  | .building (some path) => "failed to build definitions from " ++ path
  | .checkingName path => "filename convention violated by " ++ path
  | .merging => "failed to merge definitions"
  | .resolving => "failed to resolve inheritance"
  | .writing path => "failed to write " ++ path

namespace Report

def chain (report : Report) : List String := [report.doing.message, report.cause.message]

def indented (text : String) : String :=
  Text.joined "\n    " ((Text.splitAt '\n' text.toList).map String.ofList)

def text (report : Report) : String :=
  "Error: " ++ report.doing.message ++ "\n\nCaused by:\n    " ++ indented report.cause.message ++
    "\n"

def during {ε α : Type} (doing : Doing) (cause : ε → Cause) : Except ε α → Except Report α
  | .ok value => .ok value
  | .error error => .error ⟨doing, cause error⟩

end Report

end WebIdl
