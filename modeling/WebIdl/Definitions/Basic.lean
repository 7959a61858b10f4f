import WebIdl.Interface.Basic
import WebIdl.Seed

set_option autoImplicit false

namespace WebIdl

structure Include where
  interface : String
  mixin : String
deriving DecidableEq, BEq

structure Callback where
  name : String
  type : IdlType
  arguments : List Argument
  attrs : ExtAttrs
deriving BEq

structure DictionaryMember where
  name : String
  type : IdlType
  attrs : ExtAttrs
  isRequired : Bool
  default : Option Literal
  valueOnly : Option Bool
  excludeId : String
  numeric : NumericConstraints
deriving BEq

structure Dictionary where
  name : String
  isPartial : Bool
  parent : Option String
  members : List DictionaryMember
  attrs : ExtAttrs
deriving BEq

def distinct (texts : List String) : List String :=
  texts.foldl (fun known text => if known.contains text then known else known ++ [text]) []

structure Enumeration where
  name : String
  values : List String
deriving DecidableEq, BEq

namespace Enumeration

def pick (enumeration : Enumeration) (seed : Seed) : Option String × Seed :=
  if enumeration.values.isEmpty then (none, seed)
  else
    let (index, seed) := seed.nextIndex enumeration.values.length
    (enumeration.values[index]?, seed)

def merge (enumeration other : Enumeration) : Enumeration :=
  { enumeration with values := distinct (enumeration.values ++ other.values) }

end Enumeration

-- A name for a type. The type is always a union, so that later declarations can add to it.
structure Typedef where
  name : String
  type : IdlType
deriving BEq

namespace Typedef

def ofType (name : String) (type : IdlType) : Typedef :=
  match type with
  | .union members => ⟨name, .union members⟩
  | other => ⟨name, .union [other]⟩

def members (typedef : Typedef) : List IdlType :=
  match typedef.type with
  | .union members => members
  | _ => []

def merge (typedef other : Typedef) : Typedef :=
  match typedef.type with
  | .union members => { typedef with type := .union (members ++ other.members) }
  | _ => typedef

end Typedef

structure Definitions where
  interfaces : Table Interface
  dictionaries : Table Dictionary
  enumerations : Table Enumeration
  typedefs : Table Typedef
  callbacks : Table Callback
  includes : List Include
  firstName : Option String
  filePath : Option String
deriving BEq

namespace Definitions

def empty : Definitions := ⟨.empty, .empty, .empty, .empty, .empty, [], none, none⟩

def isEmpty (definitions : Definitions) : Bool :=
  definitions.interfaces.isEmpty && definitions.dictionaries.isEmpty &&
    definitions.enumerations.isEmpty && definitions.typedefs.isEmpty &&
    definitions.callbacks.isEmpty && definitions.includes.isEmpty

end Definitions

end WebIdl
