import WebIdl.Definitions.Merge
import WebIdl.Definitions.Reading
import WebIdl.Definitions.Resolve

set_option autoImplicit false

namespace WebIdl

inductive Level where
  | trace
  | debug
  | info
  | warn
  | error
deriving DecidableEq

inductive Event where
  | dispatching
  | builtAttribute
  | builtInterface
  | builtDictionary
  | builtDefinitions
  | readUnit
  | builtUnits
  | mergingPartial
  | inheriting
  | mergedUnits
deriving DecidableEq

namespace Event

def level : Event → Level
  | .dispatching => .trace
  | .builtAttribute => .trace
  | .mergingPartial => .trace
  | .builtUnits => .info
  | _ => .debug

def target : Event → String
  | .dispatching => "idl_ir::ir::builder"
  | .builtAttribute => "idl_ir::ir::builder::members"
  | .builtInterface => "idl_ir::ir::builder::interface"
  | .builtDictionary => "idl_ir::ir::builder::definitions"
  | .builtDefinitions => "idl_ir::ir::builder"
  | .readUnit => "idl_ir"
  | .builtUnits => "idl_ir"
  | .mergingPartial => "idl_ir::merge"
  | .inheriting => "idl_ir::merge"
  | .mergedUnits => "idl_ir::merge"

def message : Event → String
  | .dispatching => "dispatching definition"
  | .builtAttribute => "built attribute"
  | .builtInterface => "built interface"
  | .builtDictionary => "built dictionary"
  | .builtDefinitions => "built definitions"
  | .readUnit => "read unit"
  | .builtUnits => "built translation units"
  | .mergingPartial => "merging partial"
  | .inheriting => "inheriting"
  | .mergedUnits => "merged units"

end Event

def Event.ifOk {ε α : Type} (event : Event) : Except ε α → List Event
  | .ok _ => [event]
  | .error _ => []

def Attribute.events (node : Node) : List Event := Event.builtAttribute.ifOk (Attribute.ofNode node)

def Stringifier.events (parts : Stringifier.Parts) : List Node → List Event
  | [] => []
  | child :: rest =>
      (if child.kind = "Attribute" then Attribute.events child else []) ++
        match Stringifier.gather parts [child] with
        | .ok parts => Stringifier.events parts rest
        | .error _ => []

def Interface.childEvents (child : Node) : List Event :=
  if child.kind = "Attribute" then Attribute.events child
  else if child.kind = "Stringifier" then
    Stringifier.events ⟨⟨none, none, .empty⟩, child.flag "STATIC"⟩ child.children
  else []

def Interface.eventsFrom (draft : Interface.Draft) : List Node → List Event
  | [] => Event.builtInterface.ifOk draft.finish
  | child :: rest =>
      Interface.childEvents child ++
        match draft.take child with
        | .ok draft => Interface.eventsFrom draft rest
        | .error _ => []

def Interface.events (node : Node) : List Event :=
  match Node.requiredName .interfaceName node.name with
  | .ok name => Interface.eventsFrom (Interface.Draft.start node name) node.children
  | .error _ => []

namespace Definitions

def childEvents (child : Node) : List Event :=
  .dispatching ::
    if child.kind = "Interface" then Interface.events child
    else if child.kind = "Dictionary" then
      Event.builtDictionary.ifOk (Dictionary.ofNode child)
    else []

def eventsFrom (definitions : Definitions) : List Node → List Event
  | [] => [.builtDefinitions]
  | child :: rest =>
      childEvents child ++
        match definitions.take child with
        | .ok definitions => eventsFrom definitions rest
        | .error _ => []

def buildEvents (root : Node) : List Event :=
  if root.kind = "File" then eventsFrom empty root.children else []

def fileEvents (path : String) (checkName : Bool) (content : Except FileError (List UInt8)) :
    List Event :=
  match treeOfFile path content with
  | .ok root => buildEvents root ++ Event.readUnit.ifOk (ofFile path checkName content)
  | .error _ => []

def takeEvents (table : Table Interface) : List (String × Interface) → List Event
  | [] => []
  | entry :: rest =>
      let attempt := takeInterface table entry
      match attempt.failure with
      | some _ => []
      | none =>
          (if entry.2.isPartial then [.mergingPartial] else []) ++ takeEvents attempt.state rest

def updateEvents (definitions other : Definitions) : List Event :=
  takeEvents definitions.interfaces other.interfaces.entries

def updateAllEvents (definitions : Definitions) : List Definitions → List Event
  | [] => []
  | other :: rest =>
      let attempt := definitions.update other
      updateEvents definitions other ++
        match attempt.failure with
        | some _ => []
        | none => updateAllEvents attempt.state rest

def mergeEvents (units : List Definitions) : List Event :=
  let bases := units.map fun unit => unit.splitPartials.1
  let fragments := units.map fun unit => unit.splitPartials.2
  updateAllEvents empty (bases ++ fragments) ++ Event.mergedUnits.ifOk (merge units)

def chainEvents (table : Table Interface) : List String → List Event
  | [] => []
  | name :: rest =>
      (if (parentOf table name).isSome then [.inheriting] else []) ++
        chainEvents (inheritOne table name) rest

def resolutionEvents (state : Resolution) : List String → List Event
  | [] => []
  | name :: rest =>
      match chainOf state.table state.resolved name with
      | .error _ => []
      | .ok chain =>
          chainEvents state.table chain ++ resolutionEvents (resolveOne state name).state rest

def resolveEvents (definitions : Definitions) : List Event :=
  resolutionEvents ⟨definitions.interfaces, []⟩ definitions.interfaces.keys

end Definitions

end WebIdl
