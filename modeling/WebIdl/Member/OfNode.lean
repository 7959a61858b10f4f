import WebIdl.Attempt
import WebIdl.IdlType.OfNode
import WebIdl.Member.Basic

set_option autoImplicit false

namespace WebIdl

namespace Attribute

def gather (name : String) (type : Option IdlType) (attrs : ExtAttrs) :
    List Node → Except IdlError (Option IdlType × ExtAttrs)
  | [] => .ok (type, attrs)
  | child :: rest =>
      match child.kind with
      | "Type" => do
          let type ← IdlType.ofNode child
          gather name (some type) attrs rest
      | "ExtAttributes" => do
          let attrs ← ExtAttrs.ofNode child
          gather name type attrs rest
      | other => .error (.unexpectedNode (.attributeMember name) other)

def check (type : IdlType) (attrs : ExtAttrs) (isStatic : Bool) : Except IdlError Unit :=
  if attrs.contains "Unforgeable" && isStatic then .error (.unforgeableStatic .attributes)
  else if type.isSequence || type.isRecord then .error (.attributeType type.text)
  else .ok ()

def eventTypeOf (attrs : ExtAttrs) : String :=
  if attrs.contains "EventHandler" then attrs.shownAt "EventType" else ""

def ofNode (node : Node) : Except IdlError Attribute := do
  let name := node.label
  let (type, attrs) ← gather name none .empty node.children
  let type ← Node.requiredType (.attributeMember name) type
  check type attrs (node.flag "STATIC")
  let numeric ← NumericConstraints.ofAttrs type attrs
  return {
    name
    type
    attrs
    isReadOnly := node.flag "READONLY"
    isStatic := node.flag "STATIC"
    isEventHandler := attrs.contains "EventHandler"
    eventType := eventTypeOf attrs
    numeric
    definedIn := none }

end Attribute

namespace Operation

structure Parts where
  arguments : List Argument
  type : Option IdlType
  attrs : ExtAttrs

def Parts.empty : Parts := ⟨[], none, .empty⟩

def gather (name : Option String) (parts : Parts) : List Node → Except IdlError Parts
  | [] => .ok parts
  | child :: rest =>
      match child.kind with
      | "Arguments" => do
          let arguments ← Argument.ofParent child
          gather name { parts with arguments := arguments } rest
      | "Type" => do
          let type ← IdlType.ofNode child
          gather name { parts with type := some type } rest
      | "ExtAttributes" => do
          let attrs ← ExtAttrs.ofNode child
          gather name { parts with attrs := attrs } rest
      | other => .error (.unexpectedNode (.operation name) other)

-- The names in the text `(a, b)`. Its first and last characters are taken for the
-- parentheses.
def splitNames (text : List Char) : List String :=
  let names := Text.splitAt ',' (text.tail.dropLast.filter (· != ' '))
  (names.filter fun name => !name.isEmpty).map String.ofList

def callAfterOf (attrs : ExtAttrs) : List String :=
  match attrs.get? "CallAfter" with
  | some (.text text) => splitNames text.toList
  | some (.list items) => items.map fun item => String.ofList (Unicode.trim item.toList)
  | _ => []

def weightOf (attrs : ExtAttrs) : Except IdlError Nat :=
  match attrs.get? "Weight" with
  | none => .ok defaultWeight
  | some value =>
      match Decimal.readNat32 (Unicode.trim value.shown.toList) with
      | some weight => .ok weight
      | none => .error (.malformedValue .operationWeight value.shown)

def specialsOf (node : Node) : List Special :=
  [("GETTER", Special.getter), ("SETTER", .setter), ("DELETER", .deleter)].filterMap
    fun (key, special) => if node.hasProperty key then some special else none

def isTrue (node : Node) (key : String) : Bool := (node.property key).bind (·.flag?) == some true

def ofNode (node : Node) : Except IdlError Operation := do
  let parts ← gather node.name .empty node.children
  if parts.attrs.contains "Unforgeable" && node.flag "STATIC" then
    .error (.unforgeableStatic .operations)
  let weight ← weightOf parts.attrs
  return {
    name := node.name
    type := parts.type
    arguments := parts.arguments
    attrs := parts.attrs
    specials := specialsOf node
    isStatic := node.flag "STATIC"
    isConstructor := false
    isGetter := isTrue node "GETTER"
    isSetter := isTrue node "SETTER"
    weight
    callAfter := callAfterOf parts.attrs
    isPending := false
    definedIn := none }

structure GivenBy (operation : Operation) (node : Node) (parts : Parts) : Prop where
  gathered : gather node.name .empty node.children = .ok parts
  forgeable : ¬ (parts.attrs.contains "Unforgeable" && node.flag "STATIC")
  weighed : weightOf parts.attrs = .ok operation.weight
  isStatic : operation.isStatic = node.flag "STATIC"
  arguments : operation.arguments = parts.arguments
  attrs : operation.attrs = parts.attrs
  callAfter : operation.callAfter = callAfterOf parts.attrs

theorem of_node_given (node : Node) (operation : Operation) (read : ofNode node = .ok operation) :
    ∃ parts, operation.GivenBy node parts := by
  obtain ⟨parts, gathered, rest⟩ := (bind_ok_iff _ _ _).mp read
  split at rest
  · cases rest
  · next forgeable =>
      obtain ⟨weight, weighed, done⟩ := (bind_ok_iff _ _ _).mp rest
      cases done
      exact ⟨parts, gathered, forgeable, weighed, rfl, rfl, rfl, rfl⟩

theorem given_of_node (node : Node) (parts : Parts) (weight : Nat)
    (gathered : gather node.name .empty node.children = .ok parts)
    (forgeable : ¬ (parts.attrs.contains "Unforgeable" && node.flag "STATIC"))
    (weighed : weightOf parts.attrs = .ok weight) :
    ∃ operation, ofNode node = .ok operation := by
  simp only [ofNode, gathered, if_neg forgeable, weighed, bind, Except.bind]
  exact ⟨_, rfl⟩

end Operation

namespace Constant

def ofParts (name : String) (type value : Node) (attrs : Option Node) :
    Except IdlError Constant := do
  Node.expectKind "Value" .constantValue value.kind
  let type ← IdlType.ofInner type
  let attrs ←
    match attrs with
    | some attrs => ExtAttrs.ofNode attrs
    | none => .ok .empty
  let numeric ← NumericConstraints.ofAttrs type attrs
  let text :=
    match value.property "VALUE" with
    | some value => value.shown
    | none => ""
  return { name, type, value := text, attrs, numeric, definedIn := none }

def ofNode (node : Node) : Except IdlError Constant :=
  match node.children with
  | [type, value] => ofParts node.label type value none
  | [type, value, attrs] => ofParts node.label type value (some attrs)
  | children => .error (.childCount (.constant node.label) .twoOrThree children.length)

end Constant

end WebIdl
