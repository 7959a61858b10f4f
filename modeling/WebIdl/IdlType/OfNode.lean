import WebIdl.IdlType.Text
import WebIdl.Literal.OfNode
import WebIdl.Node.Expect
import WebIdl.NumericConstraints.OfAttrs

set_option autoImplicit false

namespace WebIdl

def flagIn (properties : Table PropertyValue) (key : String) : Bool :=
  match properties.get? key with
  | some value => value.isSet
  | none => false

def IdlType.nullableIf (flag : Bool) (type : IdlType) : IdlType :=
  if flag then .nullable type else type

def ExtAttrValue.ofProperty : Option PropertyValue → ExtAttrValue
  | none => .valueless
  | some (.text value) => .text value
  | some (.list items) => .list items
  | some (.flag value) => .text (if value then "true" else "false")

def exposuresOfProperty : Option PropertyValue → Except IdlError (List Exposure)
  | some (.text value) => .ok [⟨value, none⟩]
  | some (.list items) => .ok (items.map fun item => ⟨item, none⟩)
  | some value => .error (.malformedValue .exposedValue value.shown)
  | none => .error (.malformedValue .exposedValue "")

def Exposure.ofArgument (argument : Argument) : Exposure :=
  ⟨argument.type.text, some argument.name⟩

structure ArgumentParts where
  type : Option IdlType
  attrs : ExtAttrs
  isVariadic : Bool
  default : Option Literal

def ArgumentParts.empty : ArgumentParts := ⟨none, .empty, false, none⟩

def ArgumentOrigin.ofAttrs (attrs : ExtAttrs) : ArgumentOrigin :=
  if attrs.contains "FromThis" then .this
  else if attrs.contains "FromOther" then .other
  else .anywhere

def Argument.ofParts (name : String) (properties : Table PropertyValue) (parts : ArgumentParts) :
    Except IdlError Argument := do
  let type ← Node.requiredType (.argument name) parts.type
  let numeric ← NumericConstraints.ofAttrs type parts.attrs
  return {
    name
    type
    attrs := parts.attrs
    isOptional := flagIn properties "OPTIONAL"
    isVariadic := parts.isVariadic
    default := parts.default
    origin := ArgumentOrigin.ofAttrs parts.attrs
    numeric }

def variadicMark (node : Node) : Except IdlError Bool :=
  if node.label = "..." then .ok (node.flag "ELLIPSIS")
  else .error (.malformedValue .variadicMarker node.label)

mutual
def IdlType.ofNode : Node → Except IdlError IdlType
  | ⟨_, _, properties, children⟩ =>
      (IdlType.ofParts children).map (IdlType.nullableIf (flagIn properties "NULLABLE"))
termination_by structural node => node
def IdlType.ofParts : List Node → Except IdlError IdlType
  | [inner] => IdlType.ofInner inner
  | [inner, attrs] => do
      let type ← IdlType.ofInner inner
      Node.expectKind "ExtAttributes" .annotatedType attrs.kind
      let attrs ← ExtAttrs.ofNode attrs
      return .annotated type attrs
  | children => .error (.childCount .typeNode .oneOrTwo children.length)
termination_by structural children => children
def IdlType.ofInner : Node → Except IdlError IdlType
  | ⟨kind, name, properties, children⟩ =>
      match kind with
      | "PrimitiveType" => do
          let name ← Node.requiredName .typeName name
          return .primitive name (flagIn properties "UNRESTRICTED")
      | "StringType" => (Node.requiredName .typeName name).map .stringLike
      | "Typeref" => (Node.requiredName .typeName name).map .typeref
      | "Any" => .ok .any
      | "Sequence" => do
          let element ← IdlType.ofElement kind children
          return IdlType.nullableIf (flagIn properties "NULLABLE") (.sequence element)
      | "FrozenArray" => do
          let element ← IdlType.ofElement kind children
          return IdlType.nullableIf (flagIn properties "NULLABLE") (.frozenArray element)
      | "UnionType" => (IdlType.ofNodes children).map .union
      | "Promise" => (IdlType.ofNodes children).map .promise
      | "Record" => IdlType.ofRecord children
      | other => .error (.unexpectedNode .type other)
termination_by structural node => node
def IdlType.ofNodes : List Node → Except IdlError (List IdlType)
  | [] => .ok []
  | node :: rest => do
      let type ← IdlType.ofNode node
      let types ← IdlType.ofNodes rest
      return type :: types
termination_by structural nodes => nodes
def IdlType.ofElement (kind : String) : List Node → Except IdlError IdlType
  | [element] => do
      Node.expectKind "Type" (.listElement kind) element.kind
      IdlType.ofNode element
  | children => .error (.childCount (.listType kind) .exactlyOne children.length)
termination_by structural children => children
def IdlType.ofRecord : List Node → Except IdlError IdlType
  | [key, value] => do
      Node.expectKind "StringType" .recordKey key.kind
      Node.expectKind "Type" .recordValue value.kind
      let name ← Node.requiredName .typeName key.name
      let type ← IdlType.ofNode value
      return .record name type
  | children => .error (.childCount .record .exactlyTwo children.length)
termination_by structural children => children
def ExtAttrs.ofNode : Node → Except IdlError ExtAttrs
  | ⟨_, _, _, children⟩ => ExtAttrs.ofNodes .empty children
termination_by structural node => node
def ExtAttrs.ofNodes (attrs : ExtAttrs) : List Node → Except IdlError ExtAttrs
  | [] => .ok attrs
  | node :: rest => do
      let (name, value) ← ExtAttrs.entryOf node
      ExtAttrs.ofNodes (attrs.insert name value) rest
termination_by structural nodes => nodes
def ExtAttrs.entryOf : Node → Except IdlError (String × ExtAttrValue)
  | ⟨_, name, properties, children⟩ => do
      let name ← Node.requiredName .extendedAttributeName name
      let value ← ExtAttrs.valueOf name (properties.get? "VALUE") children
      return (name, value)
termination_by structural node => node
def ExtAttrs.valueOf (name : String) (value : Option PropertyValue) :
    List Node → Except IdlError ExtAttrValue
  | [] =>
      match name with
      | "Constructor" => .error .constructorAttribute
      | "CustomConstructor" => .error .customConstructorAttribute
      | "Exposed" => (exposuresOfProperty value).map .exposures
      | _ => .ok (ExtAttrValue.ofProperty value)
  | [child] =>
      match name with
      | "Constructor" => .error .constructorAttribute
      | "CustomConstructor" => .error .customConstructorAttribute
      | "NamedConstructor" => ExtAttrs.callOf child
      | "Exposed" => do
          Node.expectKind "Arguments" .exposed child.kind
          let arguments ← Argument.ofParent child
          return .exposures (arguments.map Exposure.ofArgument)
      | _ => .error (.unexpectedNode (.extendedAttribute name) child.kind)
  | children => .error (.childCount (.extendedAttribute name) .atMostOne children.length)
termination_by structural children => children
def ExtAttrs.callOf : Node → Except IdlError ExtAttrValue
  | ⟨kind, name, _, children⟩ => do
      Node.expectKind "Call" .namedConstructor kind
      let arguments ← ExtAttrs.callArguments children
      let name ← Node.requiredName .namedConstructorName name
      return .call name arguments
termination_by structural node => node
def ExtAttrs.callArguments : List Node → Except IdlError (List Argument)
  | [arguments] => do
      Node.expectKind "Arguments" .namedConstructorCall arguments.kind
      Argument.ofParent arguments
  | children => .error (.childCount .namedConstructorCall .exactlyOne children.length)
termination_by structural children => children
def Argument.ofParent : Node → Except IdlError (List Argument)
  | ⟨_, _, _, children⟩ => Argument.ofNodes children
termination_by structural node => node
def Argument.ofNodes : List Node → Except IdlError (List Argument)
  | [] => .ok []
  | node :: rest => do
      let argument ← Argument.ofNode node
      let arguments ← Argument.ofNodes rest
      return argument :: arguments
termination_by structural nodes => nodes
def Argument.ofNode : Node → Except IdlError Argument
  | ⟨_, name, properties, children⟩ => do
      let parts ← Argument.gather (name.getD "") .empty children
      Argument.ofParts (name.getD "") properties parts
termination_by structural node => node
def Argument.gather (name : String) (parts : ArgumentParts) :
    List Node → Except IdlError ArgumentParts
  | [] => .ok parts
  | child :: rest =>
      match child.kind with
      | "Type" => do
          let type ← IdlType.ofNode child
          Argument.gather name { parts with type := some type } rest
      | "ExtAttributes" => do
          let attrs ← ExtAttrs.ofNode child
          Argument.gather name { parts with attrs := attrs } rest
      | "Argument" => do
          let isVariadic ← variadicMark child
          Argument.gather name { parts with isVariadic := isVariadic } rest
      | "Default" => do
          let default ← Literal.ofNode child
          Argument.gather name { parts with default := some default } rest
      | other => .error (.unexpectedNode (.argument name) other)
termination_by structural nodes => nodes
end

end WebIdl
