import WebIdl.IdlType.Basic

set_option autoImplicit false

namespace WebIdl.IdlType

def primitiveName (name : String) : String :=
  match name with
  | "boolean" => "Boolean"
  | "byte" => "Byte"
  | "octet" => "Octet"
  | "short" => "Short"
  | "unsigned short" => "UnsignedShort"
  | "long" => "Long"
  | "unsigned long" => "UnsignedLong"
  | "long long" => "LongLong"
  | "unsigned long long" => "UnsignedLongLong"
  | "float" => "Float"
  | "double" => "Double"
  | "object" => "Object"
  | "void" => "Void"
  | "undefined" => "Undefined"
  | "bigint" => "BigInt"
  | other => other

def stringName (name : String) : String := if name = "DOMString" then "String" else name

mutual
def name : IdlType → String
  | .primitive name unrestricted =>
      if unrestricted then "Unrestricted" ++ primitiveName name else primitiveName name
  | .stringLike name => stringName name
  | .any => "Any"
  | .typeref name => name
  | .nullable inner => name inner ++ "OrNull"
  | .sequence element => name element ++ "Sequence"
  | .frozenArray element => name element ++ "Array"
  | .union members => Text.joined "Or" (names members)
  | .record key value => stringName key ++ name value ++ "Record"
  | .promise members => Text.joined "" (names members) ++ "Promise"
  | .annotated inner _ => name inner
termination_by structural type => type
def names : List IdlType → List String
  | [] => []
  | type :: rest => name type :: names rest
termination_by structural types => types
end

def base? : IdlType → Option String
  | .primitive name unrestricted => some (if unrestricted then "unrestricted " ++ name else name)
  | .stringLike name => some name
  | .typeref name => some name
  | .any => some "any"
  | _ => none

def goesBy (type : IdlType) (target : String) : Bool :=
  type.name == target || type.base? == some target

mutual
-- Whether a type, or one inside it, goes by a name. The key of a record is not looked at.
def mentions (target : String) : IdlType → Bool
  | .primitive name unrestricted => goesBy (.primitive name unrestricted) target
  | .stringLike name => goesBy (.stringLike name) target
  | .any => goesBy .any target
  | .typeref name => goesBy (.typeref name) target
  | .nullable inner => goesBy (.nullable inner) target || mentions target inner
  | .sequence element => goesBy (.sequence element) target || mentions target element
  | .frozenArray element => goesBy (.frozenArray element) target || mentions target element
  | .union members => goesBy (.union members) target || mentionsAny target members
  | .record key value => goesBy (.record key value) target || mentions target value
  | .promise members => goesBy (.promise members) target || mentionsAny target members
  | .annotated inner attrs => goesBy (.annotated inner attrs) target || mentions target inner
termination_by structural type => type
def mentionsAny (target : String) : List IdlType → Bool
  | [] => false
  | type :: rest => mentions target type || mentionsAny target rest
termination_by structural types => types
end

end WebIdl.IdlType
