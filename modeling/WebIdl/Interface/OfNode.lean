import WebIdl.Interface.Basic
import WebIdl.Member.OfNode

set_option autoImplicit false

/-!
Interfaces read from nodes. The children are taken one after the other; when all have been seen the
rules on the interface as a whole are checked:

* an interface with `[LegacyUnenumerableNamedProperties]` needs a named getter,
* a value iterator needs an integer `length` and an indexed getter,
* an interface is not `[Unforgeable]`,
* an interface has either `[NamedConstructor]` or constructor operations, not both.
-/

namespace WebIdl

namespace Stringifier

structure Parts where
  stringifier : Stringifier
  isStatic : Bool

def gather (parts : Parts) : List Node → Except IdlError Parts
  | [] => .ok parts
  | child :: rest =>
      match child.kind with
      | "Attribute" => do
          let item ← Attribute.ofNode child
          gather ⟨{ parts.stringifier with attributeMember := some item },
            parts.isStatic || item.isStatic⟩ rest
      | "Operation" => do
          let operation ← Operation.ofNode child
          let named := (operation.name.getD "") != ""
          let stringifier :=
            if named then { parts.stringifier with operationMember := some operation }
            else parts.stringifier
          gather ⟨stringifier, parts.isStatic || operation.isStatic⟩ rest
      | "ExtAttributes" => do
          let attrs ← ExtAttrs.ofNode child
          gather { parts with stringifier := { parts.stringifier with attrs := attrs } } rest
      | other => .error (.unexpectedNode .stringifier other)

def passOn (stringifier : Stringifier) : Stringifier :=
  match stringifier.attributeMember, stringifier.operationMember with
  | some item, _ =>
      { stringifier with
        attributeMember := some { item with attrs := item.attrs.extend stringifier.attrs } }
  | none, some operation =>
      { stringifier with
        operationMember :=
          some { operation with attrs := operation.attrs.extend stringifier.attrs } }
  | none, none => stringifier

def ofNode (node : Node) : Except IdlError Stringifier := do
  let parts ← gather ⟨⟨none, none, .empty⟩, node.flag "STATIC"⟩ node.children
  if parts.isStatic && parts.stringifier.attrs.contains "Unforgeable" then
    .error (.unforgeableStatic .stringifiers)
  return parts.stringifier.passOn

end Stringifier

namespace Iteration

def gather (keyword : String) (types : List IdlType) (attrs : ExtAttrs) :
    List Node → Except IdlError (List IdlType × ExtAttrs)
  | [] => .ok (types, attrs)
  | child :: rest =>
      match child.kind with
      | "ExtAttributes" => do
          let attrs ← ExtAttrs.ofNode child
          gather keyword types attrs rest
      | "Type" => do
          let type ← IdlType.ofNode child
          gather keyword (types ++ [type]) attrs rest
      | other => .error (.unexpectedNode (.iteration keyword) other)

def iterableOf (attrs : ExtAttrs) : List IdlType → Except IdlError Iteration
  | [value] => .ok (.iterable none value attrs)
  | [key, value] => .ok (.iterable (some key) value attrs)
  | types => .error (.childCount (.iterationTypes "iterable") .oneOrTwoTypes types.length)

def maplikeOf (isReadOnly : Bool) (attrs : ExtAttrs) : List IdlType → Except IdlError Iteration
  | [key, value] => .ok (.maplike key value isReadOnly attrs)
  | types => .error (.childCount (.iterationTypes "maplike") .twoTypes types.length)

def setlikeOf (isReadOnly : Bool) (attrs : ExtAttrs) : List IdlType → Except IdlError Iteration
  | [value] => .ok (.setlike value isReadOnly attrs)
  | types => .error (.childCount (.iterationTypes "setlike") .oneType types.length)

def ofNode (keyword : String) (make : ExtAttrs → List IdlType → Except IdlError Iteration)
    (node : Node) : Except IdlError Iteration := do
  let (types, attrs) ← gather keyword [] .empty node.children
  make attrs types

end Iteration

structure ConstructorDeclaration where
  constructor : Operation
  attrs : ExtAttrs
  isCustom : Bool

namespace ConstructorDeclaration

def gather (arguments : Option Node) (attrs : ExtAttrs) :
    List Node → Except IdlError (Option Node × ExtAttrs)
  | [] => .ok (arguments, attrs)
  | child :: rest =>
      match child.kind with
      | "Arguments" => gather (some child) attrs rest
      | "ExtAttributes" => do
          let attrs ← ExtAttrs.ofNode child
          gather arguments attrs rest
      | other => .error (.unexpectedNode .constructorOperation other)

def customOf (attrs : ExtAttrs) : Except IdlError Bool :=
  match attrs.get? "Custom" with
  | none => .ok false
  | some value => if value.isSet then .error .customWithValue else .ok true

def ofNode (node : Node) : Except IdlError ConstructorDeclaration := do
  let (arguments, attrs) ← gather none .empty node.children
  match arguments with
  | none => .error (.childCount .constructorOperation .oneArguments 0)
  | some arguments =>
      let arguments ← Argument.ofParent arguments
      let isCustom ← customOf attrs
      let name := if isCustom then "CustomConstructor" else "Constructor"
      return ⟨Operation.ofConstructor name arguments, attrs.erase "Custom", isCustom⟩

def convert (name : String) (value : ExtAttrValue) : Except IdlError (String × ExtAttrValue) :=
  match name with
  | "CallWith" => .ok ("ConstructorCallWith", value)
  | "RaisesException" =>
      if value.isSet then .error .raisesExceptionWithValue
      else .ok ("RaisesException", .text "Constructor")
  | "MeasureAs" => .ok ("MeasureAs", value)
  | "Measure" => .ok ("Measure", .valueless)
  | other => .error (.onConstructorOperation other)

def convertInto (attrs : ExtAttrs) : List (String × ExtAttrValue) → Except IdlError ExtAttrs
  | [] => .ok attrs
  | (name, value) :: rest => do
      let (name, value) ← convert name value
      convertInto (attrs.insert name value) rest

def convertAll (attrs : ExtAttrs) : Except IdlError ExtAttrs := convertInto .empty attrs.entries

def checkAgreement (known fresh : ExtAttrs) : Except IdlError Unit :=
  if known.get? "CallWith" != fresh.get? "CallWith" then .error (.differingConstructors "CallWith")
  else if known.get? "RaisesException" != fresh.get? "RaisesException" then
    .error (.differingConstructors "RaisesException")
  else .ok ()

end ConstructorDeclaration

namespace Interface

structure Draft where
  interface : Interface
  hasIndexedGetter : Bool
  hasIntegerLength : Bool
  constructors : List Operation
  customConstructors : List Operation
  constructorAttrs : ExtAttrs

namespace Draft

def start (node : Node) (name : String) : Draft where
  interface :=
    { Interface.blank name with
      isCallback := node.flag "CALLBACK"
      isPartial := node.flag "PARTIAL"
      isMixin := node.flag "MIXIN" }
  hasIndexedGetter := false
  hasIntegerLength := false
  constructors := []
  customConstructors := []
  constructorAttrs := .empty

def addAttribute (draft : Draft) (item : Attribute) : Except IdlError Draft :=
  let interface := draft.interface
  if interface.attributes.contains item.name then
    .error (.duplicateAttribute item.name interface.name)
  else
    let handlers := if item.isEventHandler then [item] else []
    .ok { draft with
      interface :=
        { interface with
          attributes := interface.attributes.push item
          eventHandlers := interface.eventHandlers ++ handlers } }

def takeAttribute (draft : Draft) (child : Node) : Except IdlError Draft := do
  let item ← Attribute.ofNode child
  let isLength := item.type.isInteger && item.name == "length"
  { draft with hasIntegerLength := draft.hasIntegerLength || isLength }.addAttribute
    { item with definedIn := some draft.interface.name }

def takeConstant (draft : Draft) (child : Node) : Except IdlError Draft := do
  let constant ← Constant.ofNode child
  let constant := { constant with definedIn := some draft.interface.name }
  return { draft with
    interface :=
      { draft.interface with constants := draft.interface.constants ++ [constant] } }

-- A pending `[NamedConstructor]` becomes a constructor; only its name stays behind.
def namedConstructors (attrs : ExtAttrs) : Except IdlError (List Operation × ExtAttrs) :=
  match attrs.get? "NamedConstructor" with
  | none => .ok ([], attrs)
  | some (.call name arguments) =>
      .ok ([Operation.ofConstructor "NamedConstructor" arguments],
        attrs.insert "NamedConstructor" (.text name))
  | some _ => .error (.childCount .namedConstructor .oneCall 0)

def takeAttrs (draft : Draft) (child : Node) : Except IdlError Draft := do
  let attrs ← ExtAttrs.ofNode child
  let (constructors, attrs) ← namedConstructors attrs
  return { draft with
    interface := { draft.interface with attrs, constructors, customConstructors := [] } }

def noteGetter (draft : Draft) (operation : Operation) : Draft :=
  if operation.isSpecial .getter then
    match operation.firstArgument? with
    | some "unsigned long" => { draft with hasIndexedGetter := true }
    | some "DOMString" =>
        { draft with interface := { draft.interface with hasNamedGetter := true } }
    | _ => draft
  else draft

def noteHandleEvent (draft : Draft) (operation : Operation) : Except IdlError Draft :=
  if operation.name = some "handleEvent" then
    if draft.interface.handleEvent.isSome then
      .error (.duplicateHandleEvent draft.interface.name)
    else
      .ok { draft with interface := { draft.interface with handleEvent := some operation } }
  else .ok draft

def addOperation (draft : Draft) (operation : Operation) : Draft :=
  { draft with
    interface :=
      { draft.interface with operations := draft.interface.operations ++ [operation] } }

def takeOperation (draft : Draft) (child : Node) : Except IdlError Draft := do
  let operation ← Operation.ofNode child
  let operation := { operation with definedIn := some draft.interface.name }
  let draft ← (draft.noteGetter operation).noteHandleEvent operation
  return draft.addOperation operation

def takeConstructor (draft : Draft) (child : Node) : Except IdlError Draft := do
  let declaration ← ConstructorDeclaration.ofNode child
  if declaration.isCustom then
    return { draft with
      customConstructors := draft.customConstructors ++ [declaration.constructor] }
  else
    if !draft.constructors.isEmpty then
      ConstructorDeclaration.checkAgreement draft.constructorAttrs declaration.attrs
    return { draft with
      constructors := draft.constructors ++ [declaration.constructor]
      constructorAttrs := draft.constructorAttrs.extend declaration.attrs }

-- A `Stringifier` child. Its attribute, or else its operation, is a member of the interface.
def takeStringifier (draft : Draft) (child : Node) : Except IdlError Draft := do
  let stringifier ← Stringifier.ofNode child
  let owner := some draft.interface.name
  let draft ←
    match stringifier.attributeMember, stringifier.operationMember with
    | some item, _ => draft.addAttribute { item with definedIn := owner }
    | none, some operation => .ok (draft.addOperation { operation with definedIn := owner })
    | none, none => .ok draft
  return { draft with
    interface := { draft.interface with stringifier := some stringifier } }

def takeIteration (draft : Draft) (read : Node → Except IdlError Iteration) (child : Node) :
    Except IdlError Draft :=
  if draft.interface.iteration.isSome then .error .severalIterations
  else do
    let iteration ← read child
    return { draft with interface := { draft.interface with iteration := some iteration } }

def take (draft : Draft) (child : Node) : Except IdlError Draft :=
  match child.kind with
  | "Attribute" => draft.takeAttribute child
  | "Const" => draft.takeConstant child
  | "ExtAttributes" => draft.takeAttrs child
  | "Operation" => draft.takeOperation child
  | "Constructor" => draft.takeConstructor child
  | "Inherit" =>
      .ok { draft with interface := { draft.interface with parent := child.name } }
  | "Stringifier" => draft.takeStringifier child
  | "Iterable" => draft.takeIteration (Iteration.ofNode "iterable" Iteration.iterableOf) child
  | "Maplike" =>
      draft.takeIteration
        (Iteration.ofNode "maplike" (Iteration.maplikeOf (child.flag "READONLY"))) child
  | "Setlike" =>
      draft.takeIteration
        (Iteration.ofNode "setlike" (Iteration.setlikeOf (child.flag "READONLY"))) child
  | other => .error (.unexpectedNode (.interface draft.interface.name) other)

def takeAll (draft : Draft) : List Node → Except IdlError Draft
  | [] => .ok draft
  | child :: rest => do
      let draft ← draft.take child
      draft.takeAll rest

def withConstructors (draft : Draft) (interface : Interface) : Except IdlError Interface :=
  if draft.constructors.isEmpty && draft.customConstructors.isEmpty then .ok interface
  else if !interface.constructors.isEmpty || !interface.customConstructors.isEmpty then
    .error .mixedConstructors
  else do
    let converted ← ConstructorDeclaration.convertAll draft.constructorAttrs
    match interface.attrs.keys.find? converted.contains with
    | some key => .error (.onInterfaceAndConstructors key interface.name)
    | none =>
        return { interface with
          constructors := draft.constructors
          customConstructors := draft.customConstructors
          attrs := interface.attrs.extend converted }

def indexedElements (draft : Draft) : Except IdlError Bool :=
  if draft.hasIntegerLength && draft.hasIndexedGetter then .ok true
  else if draft.interface.iteration.any (·.isValueIterator) then
    .error .valueIteratorWithoutIndexedGetter
  else .ok draft.interface.hasIndexedElements

def finish (draft : Draft) : Except IdlError Interface := do
  let interface := draft.interface
  if interface.attrs.contains "LegacyUnenumerableNamedProperties" && !interface.hasNamedGetter then
    .error .unenumerableWithoutNamedGetter
  let hasIndexedElements ← draft.indexedElements
  if interface.attrs.contains "Unforgeable" then .error .unforgeableInterface
  draft.withConstructors { interface with hasIndexedElements }

end Draft

def ofNode (node : Node) : Except IdlError Interface := do
  let name ← Node.requiredName .interfaceName node.name
  let draft ← (Draft.start node name).takeAll node.children
  draft.finish

end Interface

end WebIdl
