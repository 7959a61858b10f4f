import WebIdl.Table
import WebIdl.Text.Split

set_option autoImplicit false

namespace WebIdl

inductive PropertyValue where
  | flag (value : Bool)
  | text (value : String)
  | list (items : List String)
deriving DecidableEq, Inhabited

namespace PropertyValue

def isSet : PropertyValue → Bool
  | .flag value => value
  | .text value => !value.isEmpty
  | .list items => !items.isEmpty

def text? : PropertyValue → Option String
  | .text value => some value
  | _ => none

def flag? : PropertyValue → Option Bool
  | .flag value => some value
  | _ => none

def list? : PropertyValue → Option (List String)
  | .list items => some items
  | _ => none

def shown : PropertyValue → String
  | .flag value => if value then "true" else "false"
  | .text value => value
  | .list items => Text.joined ", " items

end PropertyValue

structure Node where
  kind : String
  name : Option String
  properties : Table PropertyValue
  children : List Node
deriving Inhabited

namespace Node

def leaf (kind : String) : Node := ⟨kind, none, .empty, []⟩

def named (node : Node) (name : String) : Node := { node with name := some name }

def withProperty (node : Node) (key : String) (value : PropertyValue) : Node :=
  { node with properties := node.properties.insert key value }

def withChildren (node : Node) (children : List Node) : Node :=
  { node with children := node.children ++ children }

def withChild (node : Node) (child : Node) : Node := node.withChildren [child]

def property (node : Node) (key : String) : Option PropertyValue := node.properties.get? key

def hasProperty (node : Node) (key : String) : Bool := node.properties.contains key

def flag (node : Node) (key : String) : Bool :=
  match node.property key with
  | some value => value.isSet
  | none => false

def text? (node : Node) (key : String) : Option String := (node.property key).bind (·.text?)

def label (node : Node) : String := node.name.getD ""

def onlyChild (node : Node) : Except Nat (Option Node) :=
  match node.children with
  | [] => .ok none
  | [child] => .ok (some child)
  | children => .error children.length

mutual
def same : Node → Node → Bool
  | ⟨kind, name, properties, children⟩, other =>
      kind == other.kind && name == other.name && properties == other.properties &&
        sameAll children other.children
termination_by structural node => node
def sameAll : List Node → List Node → Bool
  | [], [] => true
  | node :: rest, other :: others => same node other && sameAll rest others
  | _, _ => false
termination_by structural nodes => nodes
end

instance : BEq Node := ⟨same⟩

end Node

end WebIdl
