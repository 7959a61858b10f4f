import WebIdl.Definitions.Basic

set_option autoImplicit false

namespace WebIdl

inductive Entity where
  | definitions (value : Definitions)
  | interface (value : Interface)
  | attributeMember (value : Attribute)
  | constant (value : Constant)
  | operation (value : Operation)
  | argument (value : Argument)
  | iteration (value : Iteration)
  | callback (value : Callback)
  | dictionary (value : Dictionary)
  | dictionaryMember (value : DictionaryMember)
  | enumeration (value : Enumeration)
  | inclusion (value : Include)
  | typedef (value : Typedef)

-- The types that an entity carries. Constructors could carry one and do not; entities that
-- never carry a type have no list at all.
def Entity.types? : Entity → Option (List IdlType)
  | .attributeMember value => some [value.type]
  | .constant value => some [value.type]
  | .operation value => some value.type.toList
  | .argument value => some [value.type]
  | .iteration value => some value.types
  | .callback value => some [value.type]
  | .dictionaryMember value => some [value.type]
  | .typedef value => some [value.type]
  | _ => none

def Operation.entities (operation : Operation) : List Entity :=
  .operation operation :: operation.arguments.map .argument

def Interface.entities (interface : Interface) : List Entity :=
  [.interface interface] ++ interface.attributes.list.map .attributeMember ++
    interface.constants.map .constant ++
    (interface.constructors ++ interface.customConstructors ++ interface.operations).flatMap
      Operation.entities ++
    interface.iteration.toList.map .iteration

def Callback.entities (callback : Callback) : List Entity :=
  .callback callback :: callback.arguments.map .argument

def Dictionary.entities (dictionary : Dictionary) : List Entity :=
  .dictionary dictionary :: dictionary.members.map .dictionaryMember

def Definitions.entities (definitions : Definitions) : List Entity :=
  [.definitions definitions] ++ definitions.interfaces.values.flatMap Interface.entities ++
    definitions.callbacks.values.flatMap Callback.entities ++
    definitions.dictionaries.values.flatMap Dictionary.entities ++
    definitions.enumerations.values.map .enumeration ++
    definitions.includes.map .inclusion ++
    definitions.typedefs.values.map .typedef

end WebIdl
