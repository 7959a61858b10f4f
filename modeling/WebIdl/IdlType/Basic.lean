import WebIdl.Literal
import WebIdl.NumericConstraints
import WebIdl.Table

set_option autoImplicit false

/-!
Types, the extended attributes that annotate them, and the arguments that occur in extended
attributes. The three depend on each other: a type may be annotated with `[NamedConstructor=C(…)]`,
whose arguments have types.

Types are kept as they are written: unions are not flattened, and a name is not looked up.
-/

namespace WebIdl

structure Exposure where
  exposed : String
  flag : Option String
deriving DecidableEq, BEq, Inhabited

inductive ArgumentOrigin where
  | anywhere
  | this
  | other
deriving DecidableEq, BEq

mutual
inductive IdlType where
  -- `long`, `boolean`, `object`, …; only `float` and `double` are ever unrestricted in
  -- earnest.
  | primitive (name : String) (unrestricted : Bool)
  | stringLike (name : String)
  | any
  | typeref (name : String)
  | nullable (inner : IdlType)
  | sequence (element : IdlType)
  | frozenArray (element : IdlType)
  | union (members : List IdlType)
  | record (key : String) (value : IdlType)
  | promise (members : List IdlType)
  | annotated (inner : IdlType) (attrs : Table ExtAttrValue)
inductive ExtAttrValue where
  | valueless
  | text (value : String)
  | list (items : List String)
  | exposures (items : List Exposure)
  | call (name : String) (arguments : List Argument)
structure Argument where
  name : String
  type : IdlType
  attrs : Table ExtAttrValue
  isOptional : Bool
  isVariadic : Bool
  default : Option Literal
  origin : ArgumentOrigin
  numeric : NumericConstraints
end

abbrev ExtAttrs := Table ExtAttrValue

mutual
def IdlType.same : IdlType → IdlType → Bool
  | .primitive name unrestricted, .primitive name' unrestricted' =>
      name == name' && unrestricted == unrestricted'
  | .stringLike name, .stringLike name' => name == name'
  | .any, .any => true
  | .typeref name, .typeref name' => name == name'
  | .nullable inner, .nullable inner' => IdlType.same inner inner'
  | .sequence element, .sequence element' => IdlType.same element element'
  | .frozenArray element, .frozenArray element' => IdlType.same element element'
  | .union members, .union members' => IdlType.sameAll members members'
  | .record key value, .record key' value' => key == key' && IdlType.same value value'
  | .promise members, .promise members' => IdlType.sameAll members members'
  | .annotated inner attrs, .annotated inner' attrs' =>
      IdlType.same inner inner' && ExtAttrValue.sameTable attrs attrs'
  | _, _ => false
termination_by structural type => type
def IdlType.sameAll : List IdlType → List IdlType → Bool
  | [], [] => true
  | type :: rest, type' :: rest' => IdlType.same type type' && IdlType.sameAll rest rest'
  | _, _ => false
termination_by structural types => types
def ExtAttrValue.same : ExtAttrValue → ExtAttrValue → Bool
  | .valueless, .valueless => true
  | .text value, .text value' => value == value'
  | .list items, .list items' => items == items'
  | .exposures items, .exposures items' => items == items'
  | .call name arguments, .call name' arguments' =>
      name == name' && Argument.sameAll arguments arguments'
  | _, _ => false
termination_by structural value => value
def ExtAttrValue.sameTable : Table ExtAttrValue → Table ExtAttrValue → Bool
  | ⟨names, column, _⟩, table =>
      names.length == table.size && ExtAttrValue.sameColumn column table
termination_by structural table => table
def ExtAttrValue.sameColumn {names : List String} :
    Column ExtAttrValue names → Table ExtAttrValue → Bool
  | .nil, _ => true
  | .cons name value rest, table =>
      (match table.get? name with
        | some found => ExtAttrValue.same value found
        | none => false) && ExtAttrValue.sameColumn rest table
termination_by structural column => column
def Argument.same : Argument → Argument → Bool
  | ⟨name, type, attrs, isOptional, isVariadic, default, origin, numeric⟩, other =>
      name == other.name && IdlType.same type other.type &&
        ExtAttrValue.sameTable attrs other.attrs && isOptional == other.isOptional &&
        isVariadic == other.isVariadic && default == other.default && origin == other.origin &&
        numeric == other.numeric
termination_by structural argument => argument
def Argument.sameAll : List Argument → List Argument → Bool
  | [], [] => true
  | argument :: rest, argument' :: rest' =>
      Argument.same argument argument' && Argument.sameAll rest rest'
  | _, _ => false
termination_by structural arguments => arguments
end

instance : BEq IdlType := ⟨IdlType.same⟩
instance : BEq ExtAttrValue := ⟨ExtAttrValue.same⟩
instance : BEq Argument := ⟨Argument.same⟩

namespace IdlType

def inner : IdlType → IdlType
  | .nullable type => type.inner
  | .annotated type _ => type.inner
  | type => type

def isNullable : IdlType → Bool
  | .nullable _ => true
  | .annotated type _ => type.isNullable
  | _ => false

def isUnion (type : IdlType) : Bool :=
  match type.inner with
  | .union _ => true
  | _ => false

def isSequence (type : IdlType) : Bool :=
  match type.inner with
  | .sequence _ => true
  | _ => false

def isFrozenArray (type : IdlType) : Bool :=
  match type.inner with
  | .frozenArray _ => true
  | _ => false

def isRecord (type : IdlType) : Bool :=
  match type.inner with
  | .record _ _ => true
  | _ => false

def isPromise (type : IdlType) : Bool :=
  match type.inner with
  | .promise _ => true
  | _ => false

def isString (type : IdlType) : Bool :=
  match type.inner with
  | .stringLike _ => true
  | _ => false

def integerNames : List String :=
  ["byte", "octet", "short", "unsigned short", "long", "unsigned long", "long long",
    "unsigned long long"]

def floatingNames : List String := ["float", "double"]

def isInteger (type : IdlType) : Bool :=
  match type.inner with
  | .primitive name _ => integerNames.contains name
  | _ => false

def isFloating (type : IdlType) : Bool :=
  match type.inner with
  | .primitive name _ => floatingNames.contains name
  | _ => false

def isNumeric (type : IdlType) : Bool := type.isInteger || type.isFloating

end IdlType

end WebIdl
