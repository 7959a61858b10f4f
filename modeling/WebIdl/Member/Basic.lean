import WebIdl.IdlType.Name
import WebIdl.IdlType.Text

set_option autoImplicit false

namespace WebIdl

structure Attribute where
  name : String
  type : IdlType
  attrs : ExtAttrs
  isReadOnly : Bool
  isStatic : Bool
  isEventHandler : Bool
  eventType : String
  numeric : NumericConstraints
  definedIn : Option String
deriving BEq

structure Constant where
  name : String
  type : IdlType
  value : String
  attrs : ExtAttrs
  numeric : NumericConstraints
  definedIn : Option String
deriving BEq

inductive Special where
  | getter
  | setter
  | deleter
deriving DecidableEq, BEq

def Special.keyword : Special → String
  | .getter => "getter"
  | .setter => "setter"
  | .deleter => "deleter"

structure Operation where
  name : Option String
  type : Option IdlType
  arguments : List Argument
  attrs : ExtAttrs
  specials : List Special
  isStatic : Bool
  isConstructor : Bool
  isGetter : Bool
  isSetter : Bool
  weight : Nat
  callAfter : List String
  isPending : Bool
  definedIn : Option String
deriving BEq

namespace Operation

def defaultWeight : Nat := 10

def ofConstructor (name : String) (arguments : List Argument) : Operation where
  name := some name
  type := none
  arguments := arguments
  attrs := .empty
  specials := []
  isStatic := false
  isConstructor := true
  isGetter := false
  isSetter := false
  weight := defaultWeight
  callAfter := []
  isPending := false
  definedIn := none

def isSpecial (operation : Operation) (special : Special) : Bool :=
  operation.specials.contains special

def firstArgument? (operation : Operation) : Option String :=
  operation.arguments.head?.map fun argument => argument.type.text

def hasArgumentType (operation : Operation) (target : String) : Bool :=
  operation.arguments.any fun argument => argument.type.mentions target

def hasReturnType (operation : Operation) (target : String) : Bool :=
  match operation.type with
  | some type => type.mentions target
  | none => false

end Operation

end WebIdl
