import WebIdl.Proofs.InterfaceDraft
import WebIdl.Proofs.Lineage
import WebIdl.Proofs.Stringifiers

set_option autoImplicit false

namespace WebIdl

def Attribute.ownedBy (item : Attribute) (name : String) : Attribute :=
  { item with definedIn := some name }

def Operation.ownedBy (operation : Operation) (name : String) : Operation :=
  { operation with definedIn := some name }

def Constant.ownedBy (constant : Constant) (name : String) : Constant :=
  { constant with definedIn := some name }

namespace Node

def attribute? (child : Node) : Option Attribute :=
  if child.kind = "Attribute" then (Attribute.ofNode child).toOption else none

def operation? (child : Node) : Option Operation :=
  if child.kind = "Operation" then (Operation.ofNode child).toOption else none

def constant? (child : Node) : Option Constant :=
  if child.kind = "Const" then (Constant.ofNode child).toOption else none

def stringifier? (child : Node) : Option Stringifier :=
  if child.kind = "Stringifier" then (Stringifier.ofNode child).toOption else none

def memberAttribute? (child : Node) : Option Attribute :=
  child.attribute?.or (child.stringifier?.bind (·.attributeMember))

def memberOperation? (child : Node) : Option Operation :=
  child.operation?.or (child.stringifier?.bind (·.loneOperation))

structure Brings (child : Node) (item : Option Attribute) (operation : Option Operation)
    (constant : Option Constant) : Prop where
  item : child.memberAttribute? = item
  operation : child.memberOperation? = operation
  constant : child.constant? = constant

theorem brings_attribute (child : Node) (item : Attribute) (kind : child.kind = "Attribute")
    (read : Attribute.ofNode child = .ok item) : child.Brings (some item) none none := by
  constructor <;> simp [memberAttribute?, memberOperation?, attribute?, operation?, constant?,
    stringifier?, kind, read, Except.toOption]

theorem brings_operation (child : Node) (operation : Operation) (kind : child.kind = "Operation")
    (read : Operation.ofNode child = .ok operation) :
    child.Brings none (some operation) none := by
  constructor <;> simp [memberAttribute?, memberOperation?, attribute?, operation?, constant?,
    stringifier?, kind, read, Except.toOption]

theorem brings_constant (child : Node) (constant : Constant) (kind : child.kind = "Const")
    (read : Constant.ofNode child = .ok constant) : child.Brings none none (some constant) := by
  constructor <;> simp [memberAttribute?, memberOperation?, attribute?, operation?, constant?,
    stringifier?, kind, read, Except.toOption]

theorem brings_stringifier (child : Node) (stringifier : Stringifier)
    (kind : child.kind = "Stringifier") (read : Stringifier.ofNode child = .ok stringifier) :
    child.Brings stringifier.attributeMember stringifier.loneOperation none := by
  constructor <;> simp [memberAttribute?, memberOperation?, attribute?, operation?, constant?,
    stringifier?, kind, read, Except.toOption]

theorem brings_nothing (child : Node)
    (other : child.kind ∉ ["Attribute", "Operation", "Const", "Stringifier"]) :
    child.Brings none none none := by
  simp only [List.mem_cons, List.not_mem_nil, or_false, not_or] at other
  constructor <;> simp [memberAttribute?, memberOperation?, attribute?, operation?, constant?,
    stringifier?, other]

end Node

namespace Interface

def handlers (interface : Interface) : List Attribute :=
  interface.attributes.list.filter (·.isEventHandler)

structure OwnsMembers (interface : Interface) : Prop where
  attributes : ∀ item ∈ interface.attributes.list, item.definedIn = some interface.name
  operations : ∀ operation ∈ interface.operations, operation.definedIn = some interface.name
  constants : ∀ constant ∈ interface.constants, constant.definedIn = some interface.name

structure OnItsOwn (interface : Interface) : Prop where
  distinct : interface.names.Nodup
  handlers : interface.eventHandlers = interface.handlers
  owns : interface.OwnsMembers

-- The members are those that these children bring in, in the order of the children.
structure Collects (interface : Interface) (children : List Node) : Prop where
  attributes : interface.attributes.list =
    (children.filterMap Node.memberAttribute?).map (·.ownedBy interface.name)
  operations : interface.operations =
    (children.filterMap Node.memberOperation?).map (·.ownedBy interface.name)
  constants : interface.constants =
    (children.filterMap Node.constant?).map (·.ownedBy interface.name)

theorem on_its_own_congr (interface other : Interface) (alone : interface.OnItsOwn)
    (name : other.name = interface.name) (attributes : other.attributes = interface.attributes)
    (operations : other.operations = interface.operations)
    (constants : other.constants = interface.constants)
    (eventHandlers : other.eventHandlers = interface.eventHandlers) : other.OnItsOwn := by
  constructor
  · rw [names, attributes]
    exact alone.distinct
  · rw [eventHandlers, Interface.handlers, attributes]
    exact alone.handlers
  · constructor
    · rw [attributes, name]
      exact alone.owns.attributes
    · rw [operations, name]
      exact alone.owns.operations
    · rw [constants, name]
      exact alone.owns.constants

namespace Draft

structure Grows (draft next : Draft) (item : Option Attribute) (operation : Option Operation)
    (constant : Option Constant) : Prop where
  name : next.interface.name = draft.interface.name
  attributes : next.interface.attributes = draft.interface.attributes.pushAll item.toList
  eventHandlers : next.interface.eventHandlers =
    draft.interface.eventHandlers ++ item.toList.filter (·.isEventHandler)
  operations : next.interface.operations = draft.interface.operations ++ operation.toList
  constants : next.interface.constants = draft.interface.constants ++ constant.toList
  fresh : ∀ added ∈ item, draft.interface.attributes.contains added.name = false
  ownItem : ∀ added ∈ item, added.definedIn = some draft.interface.name
  ownOperation : ∀ added ∈ operation, added.definedIn = some draft.interface.name
  ownConstant : ∀ added ∈ constant, added.definedIn = some draft.interface.name

theorem grows_nothing (draft next : Draft) (name : next.interface.name = draft.interface.name)
    (attributes : next.interface.attributes = draft.interface.attributes)
    (eventHandlers : next.interface.eventHandlers = draft.interface.eventHandlers)
    (operations : next.interface.operations = draft.interface.operations)
    (constants : next.interface.constants = draft.interface.constants) :
    Grows draft next none none none := by
  constructor <;>
    simp [AttributeTable.pushAll, name, attributes, eventHandlers, operations, constants]

theorem grows_attribute (draft next : Draft) (item : Attribute)
    (fresh : draft.interface.attributes.contains item.name = false)
    (owned : item.definedIn = some draft.interface.name)
    (name : next.interface.name = draft.interface.name)
    (attributes : next.interface.attributes = draft.interface.attributes.push item)
    (eventHandlers : next.interface.eventHandlers =
      draft.interface.eventHandlers ++ if item.isEventHandler then [item] else [])
    (operations : next.interface.operations = draft.interface.operations)
    (constants : next.interface.constants = draft.interface.constants) :
    Grows draft next (some item) none none := by
  constructor <;>
    simp [AttributeTable.pushAll, List.filter_cons, fresh, owned, name, attributes, eventHandlers,
      operations, constants]

theorem grows_operation (draft next : Draft) (operation : Operation)
    (owned : operation.definedIn = some draft.interface.name)
    (name : next.interface.name = draft.interface.name)
    (attributes : next.interface.attributes = draft.interface.attributes)
    (eventHandlers : next.interface.eventHandlers = draft.interface.eventHandlers)
    (operations : next.interface.operations = draft.interface.operations ++ [operation])
    (constants : next.interface.constants = draft.interface.constants) :
    Grows draft next none (some operation) none := by
  constructor <;>
    simp [AttributeTable.pushAll, owned, name, attributes, eventHandlers, operations, constants]

theorem grows_unread (draft next : Draft) (child : Node)
    (other : child.kind ∉ ["Attribute", "Operation", "Const", "Stringifier"])
    (nothing : Grows draft next none none none) :
    Grows draft next (child.memberAttribute?.map (·.ownedBy draft.interface.name))
      (child.memberOperation?.map (·.ownedBy draft.interface.name))
      (child.constant?.map (·.ownedBy draft.interface.name)) := by
  obtain ⟨item, operation, constant⟩ := child.brings_nothing other
  rwa [item, operation, constant]

theorem taken_grows (draft next : Draft) (child : Node) (taken : Taken draft child next) :
    Grows draft next (child.memberAttribute?.map (·.ownedBy draft.interface.name))
      (child.memberOperation?.map (·.ownedBy draft.interface.name))
      (child.constant?.map (·.ownedBy draft.interface.name)) := by
  cases taken with
  | attributeMember item kind read fresh =>
      obtain ⟨brought, none, constant⟩ := child.brings_attribute item kind read
      rw [brought, none, constant]
      exact grows_attribute draft _ (draft.owned item) fresh rfl rfl rfl rfl rfl rfl
  | constant constant kind read =>
      obtain ⟨item, operation, brought⟩ := child.brings_constant constant kind read
      rw [item, operation, brought]
      have nothing := grows_nothing draft draft rfl rfl rfl rfl rfl
      exact { nothing with constants := rfl, ownConstant := by simp [Constant.ownedBy] }
  | operation operation noted kind read note =>
      obtain ⟨item, brought, constant⟩ := child.brings_operation operation kind read
      rw [item, brought, constant]
      obtain ⟨_, _, same⟩ := noted_interface draft noted _ note
      refine grows_operation draft _ (draft.ownedOperation operation) rfl ?_ ?_ ?_ ?_ ?_
      all_goals rw [addOperation, same]
  | stringifier stringifier placed kind read place =>
      obtain ⟨item, operation, constant⟩ := child.brings_stringifier stringifier kind read
      rw [item, operation, constant, Stringifier.loneOperation]
      cases place with
      | attributeMember item holds fresh =>
          rw [holds]
          exact grows_attribute draft _ (draft.owned item) fresh rfl rfl rfl rfl rfl rfl
      | operation operation free holds =>
          rw [free, holds]
          exact grows_operation draft _ (draft.ownedOperation operation) rfl rfl rfl rfl rfl rfl
      | nothing free bare =>
          rw [free, bare]
          exact grows_nothing draft _ rfl rfl rfl rfl rfl
  | iteration iteration _ read =>
      have apart : ∀ kind ∈ ["Iterable", "Maplike", "Setlike"],
          kind ∉ ["Attribute", "Operation", "Const", "Stringifier"] := by decide
      have other := apart _ (reads_iteration_kind child iteration read)
      exact grows_unread draft _ child other (grows_nothing draft _ rfl rfl rfl rfl rfl)
  | extAttrs _ _ _ kind =>
      exact grows_unread draft _ child (by simp [kind]) (grows_nothing draft _ rfl rfl rfl rfl rfl)
  | customConstructor _ kind =>
      exact grows_unread draft _ child (by simp [kind]) (grows_nothing draft _ rfl rfl rfl rfl rfl)
  | plainConstructor _ kind =>
      exact grows_unread draft _ child (by simp [kind]) (grows_nothing draft _ rfl rfl rfl rfl rfl)
  | parent kind =>
      exact grows_unread draft _ child (by simp [kind]) (grows_nothing draft _ rfl rfl rfl rfl rfl)

theorem gathered_append_one {α : Type} (read : Node → Option α) (own : α → α) (front : List Node)
    (child : Node) :
    ((front ++ [child]).filterMap read).map own =
      (front.filterMap read).map own ++ ((read child).map own).toList := by
  rw [List.filterMap_append, List.map_append]
  cases found : read child <;> simp [found]

theorem owned_append {α : Type} (owner : α → Option String) (name : String) (members : List α)
    (added : Option α) (before : ∀ member ∈ members, owner member = some name)
    (fresh : ∀ member ∈ added, owner member = some name) :
    ∀ member ∈ members ++ added.toList, owner member = some name := by
  intro member listed
  rcases List.mem_append.mp listed with earlier | last
  · exact before member earlier
  · exact fresh member (Option.mem_toList.mp last)

theorem grows_owns (draft next : Draft) (item : Option Attribute) (operation : Option Operation)
    (constant : Option Constant) (grows : Grows draft next item operation constant)
    (owns : draft.interface.OwnsMembers) : next.interface.OwnsMembers := by
  constructor
  · rw [grows.attributes, grows.name, AttributeTable.push_all_list]
    exact owned_append _ _ _ item owns.attributes grows.ownItem
  · rw [grows.operations, grows.name]
    exact owned_append _ _ _ operation owns.operations grows.ownOperation
  · rw [grows.constants, grows.name]
    exact owned_append _ _ _ constant owns.constants grows.ownConstant

theorem grows_distinct (draft next : Draft) (item : Option Attribute) (operation : Option Operation)
    (constant : Option Constant) (grows : Grows draft next item operation constant)
    (distinct : draft.interface.names.Nodup) :
    next.interface.names.Nodup := by
  rw [names, grows.attributes, AttributeTable.push_all_list, List.map_append]
  cases item with
  | none => simpa [names] using distinct
  | some added =>
      have absent : added.name ∉ draft.interface.names := by
        have missing := grows.fresh added rfl
        intro listed
        obtain ⟨item, member, same⟩ := List.mem_map.mp listed
        have present := (AttributeTable.contains_iff_member _ added.name).mpr
          ⟨item, member, same⟩
        rw [missing] at present
        cases present
      exact List.nodup_append.mpr ⟨distinct, List.nodup_singleton _, by
        rintro name listed _ (_ | ⟨_, ⟨⟩⟩) rfl
        exact absent listed⟩

theorem grows_on_its_own (draft next : Draft) (item : Option Attribute)
    (operation : Option Operation) (constant : Option Constant)
    (grows : Grows draft next item operation constant) (alone : draft.interface.OnItsOwn) :
    next.interface.OnItsOwn where
  distinct := grows_distinct draft next item operation constant grows alone.distinct
  handlers := by
    rw [grows.eventHandlers, alone.handlers, Interface.handlers, Interface.handlers,
      grows.attributes, AttributeTable.push_all_list, List.filter_append]
  owns := grows_owns draft next item operation constant grows alone.owns

theorem taken_collects (draft next : Draft) (front : List Node) (child : Node)
    (taken : Taken draft child next) (collects : draft.interface.Collects front) :
    next.interface.Collects (front ++ [child]) := by
  have grows := taken_grows draft next child taken
  constructor
  · rw [grows.attributes, AttributeTable.push_all_list, collects.attributes, grows.name,
      gathered_append_one]
  · rw [grows.operations, collects.operations, grows.name, gathered_append_one]
  · rw [grows.constants, collects.constants, grows.name, gathered_append_one]

theorem start_on_its_own (node : Node) (name : String) : (start node name).interface.OnItsOwn where
  distinct := List.nodup_nil
  handlers := rfl
  owns := by
    constructor
    all_goals
      intro member listed
      exact absurd listed List.not_mem_nil

end Draft

theorem of_node_on_its_own (node : Node) (interface : Interface)
    (built : ofNode node = .ok interface) : interface.OnItsOwn := by
  obtain ⟨name, draft, _, taken, finished⟩ := (of_node_ok_iff node interface).mp built
  have alone : draft.interface.OnItsOwn := by
    apply Draft.take_all_keeps (fun draft => draft.interface.OnItsOwn) ?_ _ draft
      node.children taken (Draft.start_on_its_own node name)
    intro draft child next step before
    exact Draft.grows_on_its_own draft next _ _ _ (Draft.taken_grows draft next child step) before
  obtain ⟨_, _, _, _, rfl⟩ := Draft.finish_interface draft interface finished
  exact on_its_own_congr draft.interface _ alone rfl rfl rfl rfl rfl

theorem of_node_collects (node : Node) (interface : Interface)
    (built : ofNode node = .ok interface) : interface.Collects node.children := by
  obtain ⟨name, draft, _, taken, finished⟩ := (of_node_ok_iff node interface).mp built
  have collects : draft.interface.Collects node.children := by
    apply Draft.take_all_keeps_after (fun front draft => draft.interface.Collects front) ?_ []
      node.children _ draft taken ⟨rfl, rfl, rfl⟩
    exact fun front draft child next step => Draft.taken_collects draft next front child step
  obtain ⟨_, _, _, _, rfl⟩ := Draft.finish_interface draft interface finished
  exact ⟨collects.attributes, collects.operations, collects.constants⟩

end Interface

end WebIdl
