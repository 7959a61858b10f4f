import WebIdl.Interface.AttributeTable

set_option autoImplicit false

namespace WebIdl

structure Stringifier where
  attributeMember : Option Attribute
  operationMember : Option Operation
  attrs : ExtAttrs
deriving BEq

inductive Iteration where
  | iterable (key : Option IdlType) (value : IdlType) (attrs : ExtAttrs)
  | maplike (key value : IdlType) (isReadOnly : Bool) (attrs : ExtAttrs)
  | setlike (value : IdlType) (isReadOnly : Bool) (attrs : ExtAttrs)
deriving BEq

namespace Iteration

def keyword : Iteration → String
  | .iterable _ _ _ => "iterable"
  | .maplike _ _ _ _ => "maplike"
  | .setlike _ _ _ => "setlike"

def key? : Iteration → Option IdlType
  | .iterable key _ _ => key
  | .maplike key _ _ _ => some key
  | .setlike _ _ _ => none

def value : Iteration → IdlType
  | .iterable _ value _ => value
  | .maplike _ value _ _ => value
  | .setlike value _ _ => value

def isReadOnly? : Iteration → Option Bool
  | .iterable _ _ _ => none
  | .maplike _ _ isReadOnly _ => some isReadOnly
  | .setlike _ isReadOnly _ => some isReadOnly

def attrs : Iteration → ExtAttrs
  | .iterable _ _ attrs => attrs
  | .maplike _ _ _ attrs => attrs
  | .setlike _ _ attrs => attrs

def isValueIterator : Iteration → Bool
  | .iterable none _ _ => true
  | _ => false

def types (iteration : Iteration) : List IdlType := iteration.key?.toList ++ [iteration.value]

end Iteration

structure Interface where
  name : String
  isPartial : Bool
  isMixin : Bool
  isCallback : Bool
  parent : Option String
  attributes : AttributeTable
  constants : List Constant
  operations : List Operation
  constructors : List Operation
  customConstructors : List Operation
  attrs : ExtAttrs
  stringifier : Option Stringifier
  iteration : Option Iteration
  hasIndexedElements : Bool
  hasNamedGetter : Bool
  eventHandlers : List Attribute
  handleEvent : Option Operation
  partials : List Interface

namespace Interface

def blank (name : String) : Interface where
  name := name
  isPartial := false
  isMixin := false
  isCallback := false
  parent := none
  attributes := .empty
  constants := []
  operations := []
  constructors := []
  customConstructors := []
  attrs := .empty
  stringifier := none
  iteration := none
  hasIndexedElements := false
  hasNamedGetter := false
  eventHandlers := []
  handleEvent := none
  partials := []

mutual
-- Equality of interfaces, up to the order of extended attributes. The indexes of the
-- attributes follow from their list and are not compared.
def same : Interface → Interface → Bool
  | ⟨name, isPartial, isMixin, isCallback, parent, attributes, constants, operations, constructors,
      customConstructors, attrs, stringifier, iteration, hasIndexedElements, hasNamedGetter,
      eventHandlers, handleEvent, partials⟩, other =>
      name == other.name && isPartial == other.isPartial && isMixin == other.isMixin &&
        isCallback == other.isCallback && parent == other.parent &&
        attributes.list == other.attributes.list && constants == other.constants &&
        operations == other.operations && constructors == other.constructors &&
        customConstructors == other.customConstructors && attrs == other.attrs &&
        stringifier == other.stringifier && iteration == other.iteration &&
        hasIndexedElements == other.hasIndexedElements &&
        hasNamedGetter == other.hasNamedGetter && eventHandlers == other.eventHandlers &&
        handleEvent == other.handleEvent && sameAll partials other.partials
termination_by structural interface => interface
def sameAll : List Interface → List Interface → Bool
  | [], [] => true
  | interface :: rest, other :: others => same interface other && sameAll rest others
  | _, _ => false
termination_by structural interfaces => interfaces
end

instance : BEq Interface := ⟨same⟩

def overloads (interface : Interface) : Table (List Operation) :=
  interface.operations.foldl
    (fun groups operation =>
      match operation.name with
      | none => groups
      | some name => groups.insert name ((groups.get? name).getD [] ++ [operation]))
    .empty

def hasOperation (interface : Interface) (name : String) : Bool :=
  interface.operations.any fun operation => operation.name == some name

def climb (table : Table Interface) (ancestor : String) :
    Nat → List String → Option String → Bool
  | 0, _, _ => false
  | _ + 1, _, none => false
  | steps + 1, seen, some current =>
      if current = ancestor then true
      else if seen.contains current then false
      else
        climb table ancestor steps (current :: seen) ((table.get? current).bind (·.parent))

-- Whether an interface inherits from `ancestor`, directly or not. No interface inherits from
-- itself, even in a cycle. The walk passes each entry of the table at most once.
def isSubclassOf (interface : Interface) (ancestor : String) (table : Table Interface) : Bool :=
  if ancestor = interface.name then false
  else climb table ancestor (table.size + 2) [interface.name] interface.parent

end Interface

end WebIdl
