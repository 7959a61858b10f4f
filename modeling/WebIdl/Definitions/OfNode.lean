import WebIdl.Definitions.Basic
import WebIdl.Interface.OfNode

set_option autoImplicit false

namespace WebIdl

namespace DictionaryMember

structure Parts where
  type : Option IdlType
  default : Option Literal
  attrs : ExtAttrs

def Parts.empty : Parts := ⟨none, none, .empty⟩

def gather (name : String) (parts : Parts) : List Node → Except IdlError Parts
  | [] => .ok parts
  | child :: rest =>
      match child.kind with
      | "Type" => do
          let type ← IdlType.ofNode child
          gather name { parts with type := some type } rest
      | "Default" => do
          let default ← Literal.ofNode child
          gather name { parts with default := some default } rest
      | "ExtAttributes" => do
          let attrs ← ExtAttrs.ofNode child
          gather name { parts with attrs := attrs } rest
      | other => .error (.unexpectedNode (.dictionaryMember name) other)

def valueOnlyOf (name : String) (attrs : ExtAttrs) : Except IdlError (Option Bool) :=
  match attrs.get? "BooleanOnly" with
  | none => .ok none
  | some value =>
      if value.isSet then
        match value with
        | .text "true" => .ok (some true)
        | .text "false" => .ok (some false)
        | _ => .error (.booleanOnlyValue name)
      else .ok none

def ofNode (node : Node) : Except IdlError DictionaryMember := do
  let name := node.label
  let parts ← gather name .empty node.children
  let type ← Node.requiredType (.dictionaryMember name) parts.type
  let valueOnly ← valueOnlyOf name parts.attrs
  let numeric ← NumericConstraints.ofAttrs type parts.attrs
  return {
    name
    type
    attrs := parts.attrs
    isRequired := node.flag "REQUIRED"
    default := parts.default
    valueOnly
    excludeId := parts.attrs.shownAt "Exclude"
    numeric }

end DictionaryMember

namespace Dictionary

def gather (dictionary : Dictionary) : List Node → Except IdlError Dictionary
  | [] => .ok dictionary
  | child :: rest =>
      match child.kind with
      | "Inherit" => gather { dictionary with parent := child.name } rest
      | "Key" => do
          let member ← DictionaryMember.ofNode child
          gather { dictionary with members := dictionary.members ++ [member] } rest
      | "ExtAttributes" => do
          let attrs ← ExtAttrs.ofNode child
          gather { dictionary with attrs := attrs } rest
      | other => .error (.unexpectedNode (.dictionary dictionary.name) other)

def ofNode (node : Node) : Except IdlError Dictionary := do
  let name ← Node.requiredName .dictionaryName node.name
  gather ⟨name, node.flag "PARTIAL", none, [], .empty⟩ node.children

end Dictionary

def Enumeration.ofNode (node : Node) : Except IdlError Enumeration := do
  let name ← Node.requiredName .enumName node.name
  return ⟨name, distinct (node.children.map (·.label))⟩

def Typedef.ofNode (node : Node) : Except IdlError Typedef := do
  let name ← Node.requiredName .typedefName node.name
  match node.children with
  | [child] =>
      Node.expectKind "Type" .typedefBody child.kind
      let type ← IdlType.ofNode child
      return Typedef.ofType name type
  | children => .error (.childCount (.typedef name) .exactlyOne children.length)

def Callback.ofParts (name : String) (type arguments : Node) (attrs : Option Node) :
    Except IdlError Callback := do
  Node.expectKind "Arguments" .callbackArguments arguments.kind
  let type ← IdlType.ofNode type
  let arguments ← Argument.ofParent arguments
  let attrs ←
    match attrs with
    | some attrs => ExtAttrs.ofNode attrs
    | none => .ok .empty
  return ⟨name, type, arguments, attrs⟩

def Callback.ofNode (node : Node) : Except IdlError Callback := do
  let name ← Node.requiredName .callbackName node.name
  match node.children with
  | [type, arguments] => Callback.ofParts name type arguments none
  | [type, arguments, attrs] => Callback.ofParts name type arguments (some attrs)
  | children => .error (.childCount (.callback name) .twoOrThree children.length)

def Include.ofNode (node : Node) : Except IdlError Include := do
  let interface ← Node.requiredName .includesTarget node.name
  let mixin ← Node.requiredName .includesMixin (node.text? "REFERENCE")
  return ⟨interface, mixin⟩

namespace Definitions

def noteFirst (definitions : Definitions) (name : String) : Definitions :=
  { definitions with firstName := some (definitions.firstName.getD name) }

def addInterface (definitions : Definitions) (interface : Interface) : Definitions :=
  { definitions.noteFirst interface.name with
    interfaces := definitions.interfaces.insert interface.name interface }

def addDictionary (definitions : Definitions) (dictionary : Dictionary) : Definitions :=
  { definitions.noteFirst dictionary.name with
    dictionaries := definitions.dictionaries.insert dictionary.name dictionary }

def take (definitions : Definitions) (child : Node) : Except IdlError Definitions :=
  match child.kind with
  | "Interface" => (Interface.ofNode child).map definitions.addInterface
  | "Typedef" =>
      (Typedef.ofNode child).map fun typedef =>
        { definitions with typedefs := definitions.typedefs.insert typedef.name typedef }
  | "Enum" =>
      (Enumeration.ofNode child).map fun enumeration =>
        { definitions with
          enumerations := definitions.enumerations.insert enumeration.name enumeration }
  | "Callback" =>
      (Callback.ofNode child).map fun callback =>
        { definitions with callbacks := definitions.callbacks.insert callback.name callback }
  | "Includes" =>
      (Include.ofNode child).map fun inclusion =>
        { definitions with includes := definitions.includes ++ [inclusion] }
  | "Dictionary" => (Dictionary.ofNode child).map definitions.addDictionary
  | other => .error (.unexpectedNode .file other)

def takeAll (definitions : Definitions) : List Node → Except IdlError Definitions
  | [] => .ok definitions
  | child :: rest => do
      let definitions ← definitions.take child
      definitions.takeAll rest

def ofNode (root : Node) : Except IdlError Definitions :=
  if root.kind = "File" then
    takeAll { empty with filePath := root.text? "FILENAME" } root.children
  else .error (.unexpectedNode .unitRoot root.kind)

end Definitions

end WebIdl
