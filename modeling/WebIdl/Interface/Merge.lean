import WebIdl.Interface.Basic

set_option autoImplicit false

namespace WebIdl.Interface

-- Fold a fragment in. Its members follow those that are there, whatever their names; the
-- extended attributes are absorbed; the fragment itself is kept.
def merge (interface fragment : Interface) : Interface :=
  { interface with
    attributes := interface.attributes.pushAll fragment.attributes.list
    constants := interface.constants ++ fragment.constants
    operations := interface.operations ++ fragment.operations
    constructors := interface.constructors ++ fragment.constructors
    eventHandlers := interface.eventHandlers ++ fragment.eventHandlers
    attrs := ExtAttrs.absorb interface.attrs fragment.attrs
    stringifier := interface.stringifier.or fragment.stringifier
    partials := interface.partials ++ [fragment] }

def adopt (table : AttributeTable) (items : List Attribute) : AttributeTable :=
  items.foldl (fun table item => if table.contains item.name then table else table.push item) table

-- Take over from the parent what the interface does not override. Attributes and operations
-- are overridden by name; operations without a name override each other. Members keep the
-- interface that declares them.
def inherit (interface parent : Interface) : Interface :=
  let own := interface.operations.map (·.name)
  { interface with
    attributes := adopt interface.attributes parent.attributes.list
    constants := interface.constants ++ parent.constants
    operations :=
      interface.operations ++
        parent.operations.filter fun operation => !own.contains operation.name
    eventHandlers := interface.eventHandlers ++ parent.eventHandlers
    attrs := ExtAttrs.absorb interface.attrs parent.attrs
    stringifier := interface.stringifier.or parent.stringifier }

end WebIdl.Interface
