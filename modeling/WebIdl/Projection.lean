import WebIdl.Definitions.Basic

set_option autoImplicit false

namespace WebIdl.Projection

structure TypeRecord where
  name : String
  raw : String
deriving DecidableEq

def TypeRecord.ofType (type : IdlType) : TypeRecord := ⟨type.name, type.text⟩

structure ArgumentRecord where
  type : TypeRecord
  default : Json
  isOptional : Bool
  position : Nat

structure CallbackRecord where
  name : String
  result : TypeRecord
  arguments : List ArgumentRecord

structure TypedefRecord where
  name : String
  type : TypeRecord

structure EnumerationRecord where
  name : String
  values : List String

structure MemberRecord where
  name : String
  type : TypeRecord
  isRequired : Bool
  default : Json

structure DictionaryRecord where
  name : String
  members : List MemberRecord

structure IncludeRecord where
  name : String
  mixins : List String

structure ConstructorRecord where
  name : String
  arguments : List ArgumentRecord

structure AttributeRecord where
  name : String
  type : TypeRecord
  isReadOnly : Bool
  isStatic : Bool

structure MethodRecord where
  name : Option String
  isGetter : Bool
  isSetter : Bool
  result : Option TypeRecord
  arguments : List ArgumentRecord

structure InterfaceRecord where
  name : String
  exposed : List Exposure
  parent : String
  constructors : List ConstructorRecord
  attributes : List AttributeRecord
  methods : List MethodRecord
  isMixin : Bool
  implementedAs : Option String
  hasNoInterfaceObject : Bool
  legacyAlias : String

def defaultOf : Option Literal → Json
  | some literal => literal.toJson
  | none => .null

def argumentsFrom (position : Nat) : List Argument → List ArgumentRecord
  | [] => []
  | argument :: rest =>
      ⟨TypeRecord.ofType argument.type, defaultOf argument.default, argument.isOptional,
        position⟩ :: argumentsFrom (position + 1) rest

def argumentsOf (arguments : List Argument) : List ArgumentRecord := argumentsFrom 1 arguments

def includeOf (inclusion : Include) : IncludeRecord := ⟨inclusion.interface, [inclusion.mixin]⟩

def callbackOf (callback : Callback) : CallbackRecord :=
  ⟨callback.name, TypeRecord.ofType callback.type, argumentsOf callback.arguments⟩

def typedefOf (typedef : Typedef) : TypedefRecord :=
  ⟨typedef.name, TypeRecord.ofType typedef.type⟩

def enumerationOf (enumeration : Enumeration) : EnumerationRecord :=
  ⟨enumeration.name, enumeration.values⟩

def memberOf (member : DictionaryMember) : MemberRecord :=
  ⟨member.name, TypeRecord.ofType member.type, member.isRequired, defaultOf member.default⟩

def dictionaryOf (entry : String × Dictionary) : DictionaryRecord :=
  ⟨entry.1, entry.2.members.map memberOf⟩

def attributeOf (item : Attribute) : AttributeRecord :=
  ⟨item.name, TypeRecord.ofType item.type, item.isReadOnly, item.isStatic⟩

def methodOf (operation : Operation) : MethodRecord :=
  ⟨operation.name, operation.isGetter, operation.isSetter,
    operation.type.map TypeRecord.ofType, argumentsOf operation.arguments⟩

def legacyAliasOf (interface : Interface) : String :=
  if ExtAttrs.isSet interface.attrs "LegacyWindowAlias" then
    ExtAttrs.shownAt interface.attrs "LegacyWindowAlias"
  else ""

-- What a constructor is called: the name of the named constructor; else the alias, if only
-- the alias is visible; else the name of the interface.
def constructorName (interface : Interface) (constructor : Operation) : String :=
  if constructor.name = some "NamedConstructor" then
    ExtAttrs.shownAt interface.attrs "NamedConstructor"
  else if interface.attrs.contains "NoInterfaceObject" && legacyAliasOf interface != "" then
    legacyAliasOf interface
  else interface.name

def constructorOf (interface : Interface) (constructor : Operation) : ConstructorRecord :=
  ⟨constructorName interface constructor, argumentsOf constructor.arguments⟩

def interfaceOf (entry : String × Interface) : InterfaceRecord :=
  let (name, interface) := entry
  { name
    exposed := ExtAttrs.exposures interface.attrs
    parent := interface.parent.getD ""
    constructors := interface.constructors.map (constructorOf interface)
    attributes := interface.attributes.list.map attributeOf
    methods := interface.operations.map methodOf
    isMixin := interface.isMixin
    implementedAs := ExtAttrs.text? interface.attrs "ImplementedAs"
    hasNoInterfaceObject := interface.attrs.contains "NoInterfaceObject"
    legacyAlias := legacyAliasOf interface }

end Projection

structure Projection where
  includes : List Projection.IncludeRecord
  callbacks : List Projection.CallbackRecord
  typedefs : List Projection.TypedefRecord
  enumerations : List Projection.EnumerationRecord
  dictionaries : List Projection.DictionaryRecord
  interfaces : List Projection.InterfaceRecord

namespace Projection

def ofDefinitions (definitions : Definitions) : Projection where
  includes := definitions.includes.map includeOf
  callbacks := definitions.callbacks.values.map callbackOf
  typedefs := definitions.typedefs.values.map typedefOf
  enumerations := definitions.enumerations.values.map enumerationOf
  dictionaries := definitions.dictionaries.entries.map dictionaryOf
  interfaces := definitions.interfaces.entries.map interfaceOf

def optional : Option String → Json
  | some text => .string text
  | none => .null

def strings (texts : List String) : Json := .array (texts.map .string)

def TypeRecord.members (type : TypeRecord) : List (String × Json) :=
  [("Type", .string type.name), ("RawType", .string type.raw)]

def TypeRecord.toJson (type : TypeRecord) : Json := .object type.members

def ArgumentRecord.toJson (argument : ArgumentRecord) : Json :=
  .object (argument.type.members ++
    [("Default", argument.default), ("Optional", .bool argument.isOptional),
      ("Pos", .int argument.position)])

def arguments (records : List ArgumentRecord) : Json := .array (records.map (·.toJson))

def IncludeRecord.toJson (inclusion : IncludeRecord) : Json :=
  .object [("Name", .string inclusion.name), ("Mixin", strings inclusion.mixins)]

def CallbackRecord.toJson (callback : CallbackRecord) : Json :=
  .object [("Name", .string callback.name), ("Return", callback.result.toJson),
    ("Arguments", Projection.arguments callback.arguments)]

def TypedefRecord.toJson (typedef : TypedefRecord) : Json :=
  .object (("Name", .string typedef.name) :: typedef.type.members)

def EnumerationRecord.toJson (enumeration : EnumerationRecord) : Json :=
  .object [("Name", .string enumeration.name), ("Values", strings enumeration.values)]

def MemberRecord.toJson (member : MemberRecord) : Json :=
  .object (("Name", .string member.name) :: member.type.members ++
    [("Required", .bool member.isRequired), ("Default", member.default)])

def DictionaryRecord.toJson (dictionary : DictionaryRecord) : Json :=
  .object [("Name", .string dictionary.name),
    ("Members", .array (dictionary.members.map (·.toJson)))]

def exposureToJson (exposure : Exposure) : Json :=
  .object [("Name", .string exposure.exposed), ("RuntimeEnabled", optional exposure.flag)]

def ConstructorRecord.toJson (constructor : ConstructorRecord) : Json :=
  .object [("Name", .string constructor.name),
    ("Arguments", Projection.arguments constructor.arguments)]

def AttributeRecord.toJson (item : AttributeRecord) : Json :=
  .object (("Name", .string item.name) :: item.type.members ++
    [("Readonly", .bool item.isReadOnly), ("Static", .bool item.isStatic)])

def resultToJson : Option TypeRecord → Json
  | some type => type.toJson
  | none => .null

def MethodRecord.toJson (method : MethodRecord) : Json :=
  .object [("Name", optional method.name), ("Getter", .bool method.isGetter),
    ("Setter", .bool method.isSetter), ("Return", resultToJson method.result),
    ("Arguments", Projection.arguments method.arguments)]

-- The list `Includes` is always empty, as inclusions have records of their own.
def InterfaceRecord.toJson (interface : InterfaceRecord) : Json :=
  .object [("Name", .string interface.name),
    ("Exposed", .array (interface.exposed.map exposureToJson)),
    ("Parent", .string interface.parent),
    ("Includes", .array []),
    ("Constructors", .array (interface.constructors.map (·.toJson))),
    ("Attributes", .array (interface.attributes.map (·.toJson))),
    ("Methods", .array (interface.methods.map (·.toJson))),
    ("IsMixin", .bool interface.isMixin),
    ("ImplementedAs", optional interface.implementedAs),
    ("NoInterfaceObject", .bool interface.hasNoInterfaceObject),
    ("LegacyAlias", .string interface.legacyAlias)]

def toJson (projection : Projection) : Json :=
  .object [("Includes", .array (projection.includes.map (·.toJson))),
    ("Callbacks", .array (projection.callbacks.map (·.toJson))),
    ("Typedefs", .array (projection.typedefs.map (·.toJson))),
    ("Enumerations", .array (projection.enumerations.map (·.toJson))),
    ("Dictionaries", .array (projection.dictionaries.map (·.toJson))),
    ("Interfaces", .array (projection.interfaces.map (·.toJson)))]

end Projection

end WebIdl
