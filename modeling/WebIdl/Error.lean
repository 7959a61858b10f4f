import WebIdl.Text.Quoted

set_option autoImplicit false

namespace WebIdl

inductive Place where
  | unitRoot
  | file
  | interface (name : String)
  | dictionary (name : String)
  | dictionaryMember (name : String)
  | typedef (name : String)
  | typedefBody
  | callback (name : String)
  | callbackArguments
  | constant (name : String)
  | constantValue
  | argument (name : String)
  | attributeMember (name : String)
  | operation (name : Option String)
  | constructorOperation
  | stringifier
  | iteration (keyword : String)
  | iterationTypes (keyword : String)
  | type
  | typeNode
  | listType (kind : String)
  | listElement (kind : String)
  | annotatedType
  | record
  | recordKey
  | recordValue
  | extendedAttribute (name : String)
  | namedConstructor
  | namedConstructorCall
  | exposed
deriving DecidableEq

inductive Expected where
  | atMostOne
  | exactlyOne
  | exactlyTwo
  | oneOrTwo
  | twoOrThree
  | oneType
  | twoTypes
  | oneOrTwoTypes
  | oneArguments
  | oneCall
deriving DecidableEq

inductive Datum where
  | interfaceName
  | dictionaryName
  | enumName
  | typedefName
  | callbackName
  | includesTarget
  | includesMixin
  | typeName
  | extendedAttributeName
  | namedConstructorName
  | exposedValue
  | variadicMarker
  | defaultType
  | integerLiteral
  | floatLiteral
  | booleanLiteral
  | numberRange
  | numberEnum
  | operationWeight
deriving DecidableEq

inductive StaticMember where
  | attributes
  | operations
  | stringifiers
deriving DecidableEq

inductive IdlError where
  | unexpectedNode (place : Place) (found : String)
  | childCount (place : Place) (expected : Expected) (found : Nat)
  | malformedValue (datum : Datum) (value : String)
  | duplicateAttribute (name interface : String)
  | duplicateHandleEvent (interface : String)
  | severalIterations
  | unenumerableWithoutNamedGetter
  | valueIteratorWithoutIndexedGetter
  | unforgeableInterface
  | unforgeableStatic (member : StaticMember)
  | attributeType (text : String)
  | mixedConstructors
  | onInterfaceAndConstructors (key interface : String)
  | differingConstructors (key : String)
  | customWithValue
  | raisesExceptionWithValue
  | booleanOnlyValue (member : String)
  | noInterfaceToMerge (name : String)
  | noDictionaryToMerge (name : String)
  | inheritanceCycle (name : String)
  | stringLiteral (value : String)
  | constructorAttribute
  | customConstructorAttribute
  | onConstructorOperation (key : String)
  | noDefinition (path : String)
  | severalDefinitions (path : String) (count : Nat)
  | misnamedDefinition (name stem : String)
deriving DecidableEq

inductive ErrorKind where
  | structural
  | semantic
  | unsupported
deriving DecidableEq

def Place.text : Place → String
  | .unitRoot => "translation unit root"
  | .file => "file"
  | .interface name => "interface " ++ name
  | .dictionary name => "dictionary " ++ name
  | .dictionaryMember name => "dictionary member " ++ name
  | .typedef name => "typedef " ++ name
  | .typedefBody => "typedef"
  | .callback name => "callback " ++ name
  | .callbackArguments => "callback arguments"
  | .constant name => "const " ++ name
  | .constantValue => "const value"
  | .argument name => "argument " ++ name
  | .attributeMember name => "attribute " ++ name
  | .operation name => "operation " ++ name.getD "<anonymous>"
  | .constructorOperation => "constructor operation"
  | .stringifier => "stringifier"
  | .iteration keyword => keyword
  | .iterationTypes keyword => keyword ++ "<>"
  | .type => "type"
  | .typeNode => "Type"
  | .listType kind => kind ++ " type"
  | .listElement kind => kind
  | .annotatedType => "annotated type"
  | .record => "record<K, V>"
  | .recordKey => "record<K, V> key"
  | .recordValue => "record<K, V> value"
  | .extendedAttribute name => "extended attribute [" ++ name ++ "]"
  | .namedConstructor => "[NamedConstructor]"
  | .namedConstructorCall => "[NamedConstructor] call"
  | .exposed => "[Exposed]"

def Expected.text : Expected → String
  | .atMostOne => "at most 1"
  | .exactlyOne => "exactly 1"
  | .exactlyTwo => "exactly 2"
  | .oneOrTwo => "1 or 2"
  | .twoOrThree => "2 or 3"
  | .oneType => "1 Type"
  | .twoTypes => "2 Type"
  | .oneOrTwoTypes => "1 or 2 Type"
  | .oneArguments => "1 Arguments"
  | .oneCall => "1 Call"

def Datum.text : Datum → String
  | .interfaceName => "interface name"
  | .dictionaryName => "dictionary name"
  | .enumName => "enum name"
  | .typedefName => "typedef name"
  | .callbackName => "callback name"
  | .includesTarget => "includes target"
  | .includesMixin => "includes mixin"
  | .typeName => "type name"
  | .extendedAttributeName => "extended attribute name"
  | .namedConstructorName => "named constructor name"
  | .exposedValue => "[Exposed] value"
  | .variadicMarker => "variadic marker"
  | .defaultType => "default value type"
  | .integerLiteral => "integer literal"
  | .floatLiteral => "float literal"
  | .booleanLiteral => "boolean literal"
  | .numberRange => "NumberRange"
  | .numberEnum => "NumberEnum"
  | .operationWeight => "operation weight"

def StaticMember.text : StaticMember → String
  | .attributes => "attributes"
  | .operations => "operations"
  | .stringifiers => "stringifiers"

namespace IdlError

def message : IdlError → String
  | .unexpectedNode place found => "unrecognized node class `" ++ found ++ "` in " ++ place.text
  | .childCount place expected found =>
      place.text ++ " expects " ++ expected.text ++ " child(ren), got " ++ toString found
  | .malformedValue datum value => "malformed " ++ datum.text ++ ": " ++ Text.quoted value
  | .duplicateAttribute name interface =>
      "Duplicate attribute " ++ name ++ " in interface " ++ interface
  | .duplicateHandleEvent interface => "Duplicate handleEvent for " ++ interface
  | .severalIterations => "Interface can only have one of iterable<>, maplike<> and setlike<>."
  | .unenumerableWithoutNamedGetter =>
      "[LegacyUnenumerableNamedProperties] can be used only in interfaces that support named " ++
        "properties."
  | .valueIteratorWithoutIndexedGetter =>
      "Value iterators (iterable<V>) must be accompanied by an indexed property getter and an " ++
        "integer-typed length attribute."
  | .unforgeableInterface => "[Unforgeable] cannot appear on interfaces."
  | .unforgeableStatic member => "[Unforgeable] cannot appear on static " ++ member.text ++ "."
  | .attributeType text => "Type \"" ++ text ++ "\" cannot be used as an attribute."
  | .mixedConstructors =>
      "Detected mixed [NamedConstructor] and constructor operations. Do not use both in a " ++
        "single interface."
  | .onInterfaceAndConstructors key interface =>
      "Detected [" ++ key ++ "] on both interface " ++ interface ++
        " and its constructor operations. Do not use both."
  | .differingConstructors key =>
      "[" ++ key ++ "] should have the same value on all constructor operations"
  | .customWithValue => "[Custom] should not have a value on constructor operations"
  | .raisesExceptionWithValue =>
      "[RaisesException] should not have a value on constructor operations"
  | .booleanOnlyValue member => "Unsupported [BooleanOnly] value in " ++ member ++ "."
  | .noInterfaceToMerge name =>
      "Tried to merge partial interface for " ++ name ++
        ", but no existing interface by that name"
  | .noDictionaryToMerge name =>
      "Tried to merge partial dictionary for " ++ name ++
        ", but no existing dictionary by that name"
  | .inheritanceCycle name => "Inheritance cycle through interface " ++ name
  | .stringLiteral value => "unsupported string value: " ++ Text.quoted value
  | .constructorAttribute => "[Constructor] is deprecated. Use constructor operations"
  | .customConstructorAttribute =>
      "[CustomConstructor] is deprecated. Use constructor operations with [Custom]"
  | .onConstructorOperation key =>
      "[" ++ key ++ "] is not supported on constructor operations"
  | .noDefinition path => "No definition found in " ++ path ++ ". (Missing semicolon?)"
  | .severalDefinitions path count =>
      "Expected exactly 1 definition in file " ++ path ++ ", but found " ++ toString count
  | .misnamedDefinition name stem =>
      "Definition name \"" ++ name ++ "\" disagrees with IDL file basename \"" ++ stem ++ "\"."

def kind : IdlError → ErrorKind
  | .unexpectedNode _ _ => .structural
  | .childCount _ _ _ => .structural
  | .malformedValue _ _ => .structural
  | .stringLiteral _ => .unsupported
  | .constructorAttribute => .unsupported
  | .customConstructorAttribute => .unsupported
  | .onConstructorOperation _ => .unsupported
  | _ => .semantic

end IdlError

end WebIdl
