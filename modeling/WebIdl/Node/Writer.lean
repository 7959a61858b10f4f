import WebIdl.Json
import WebIdl.Node.Basic

set_option autoImplicit false

namespace WebIdl

def PropertyValue.toJson : PropertyValue → Json
  | .flag value => .bool value
  | .text value => .string value
  | .list items => .array (items.map .string)

namespace Node

def propertiesMember (properties : Table PropertyValue) : List (String × Json) :=
  if properties.isEmpty then []
  else [("properties", .object (properties.entries.map fun (key, value) => (key, value.toJson)))]

def nameMember : Option String → List (String × Json)
  | none => []
  | some name => [("name", .string name)]

mutual
def toJson : Node → Json
  | ⟨kind, name, properties, children⟩ =>
      .object ([("class", .string kind)] ++ nameMember name ++ propertiesMember properties ++
        childrenMember children)
termination_by structural node => node
def childrenMember : List Node → List (String × Json)
  | [] => []
  | child :: rest => [("children", .array (toJson child :: toJsons rest))]
termination_by structural children => children
def toJsons : List Node → List Json
  | [] => []
  | child :: rest => toJson child :: toJsons rest
termination_by structural children => children
end

def write (node : Node) : String := node.toJson.compact

end Node

end WebIdl
