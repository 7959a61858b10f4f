import WebIdl.Proofs.DraftMembers

set_option autoImplicit false

namespace WebIdl

def Attribute.isLength (item : Attribute) : Bool := item.type.isInteger && item.name == "length"

def Operation.isGetterOf (operation : Operation) (type : String) : Bool :=
  operation.isSpecial .getter && operation.firstArgument? == some type

def Operation.handlesEvents (operation : Operation) : Bool := operation.name == some "handleEvent"

namespace Node

def attributes (children : List Node) : List Attribute := children.filterMap attribute?

def operations (children : List Node) : List Operation := children.filterMap operation?

theorem attributes_append_one (front : List Node) (child : Node) :
    attributes (front ++ [child]) = attributes front ++ child.attribute?.toList := by
  rw [attributes, List.filterMap_append, attributes]
  cases read : child.attribute? <;> simp [read]

theorem operations_append_one (front : List Node) (child : Node) :
    operations (front ++ [child]) = operations front ++ child.operation?.toList := by
  rw [operations, List.filterMap_append, operations]
  cases read : child.operation? <;> simp [read]

end Node

namespace Interface

def HasLength (interface : Interface) : Prop :=
  ∃ item ∈ interface.attributes.list, item.isLength = true

def HasGetterOf (interface : Interface) (type : String) : Prop :=
  ∃ operation ∈ interface.operations, operation.isGetterOf type = true

def HandlesEvents (interface : Interface) : Prop :=
  ∃ operation ∈ interface.operations, operation.handlesEvents = true

structure Summarises (interface : Interface) (children : List Node) : Prop where
  attributes : (Node.attributes children).map (·.ownedBy interface.name) ⊆
    interface.attributes.list
  operations : (Node.operations children).map (·.ownedBy interface.name) ⊆ interface.operations
  namedGetter : interface.hasNamedGetter =
    (Node.operations children).any (·.isGetterOf "DOMString")
  indexedElements : interface.hasIndexedElements =
    ((Node.attributes children).any (·.isLength) &&
      (Node.operations children).any (·.isGetterOf "unsigned long"))
  handleEvent : interface.handleEvent =
    ((Node.operations children).find? (·.handlesEvents)).map (·.ownedBy interface.name)

section Sound

variable (interface : Interface) (children : List Node)
  (summarises : interface.Summarises children)

include summarises

theorem summarised_length (declared : (Node.attributes children).any (·.isLength) = true) :
    interface.HasLength := by
  obtain ⟨item, member, length⟩ := List.any_eq_true.mp declared
  exact ⟨item.ownedBy interface.name, summarises.attributes (List.mem_map_of_mem member), length⟩

theorem summarised_getter (type : String)
    (declared : (Node.operations children).any (·.isGetterOf type) = true) :
    interface.HasGetterOf type := by
  obtain ⟨operation, member, getter⟩ := List.any_eq_true.mp declared
  exact ⟨operation.ownedBy interface.name, summarises.operations (List.mem_map_of_mem member),
    getter⟩

theorem summarised_handler (declared : (Node.operations children).any (·.handlesEvents) = true) :
    interface.HandlesEvents := by
  obtain ⟨operation, member, handles⟩ := List.any_eq_true.mp declared
  exact ⟨operation.ownedBy interface.name, summarises.operations (List.mem_map_of_mem member),
    handles⟩

end Sound

namespace Draft

structure Notes (draft next : Draft) (item : Option Attribute) (operation : Option Operation) :
    Prop where
  name : next.interface.name = draft.interface.name
  attributes : (draft.interface.attributes.list ++
    (item.map (·.ownedBy draft.interface.name)).toList) ⊆ next.interface.attributes.list
  operations : (draft.interface.operations ++
    (operation.map (·.ownedBy draft.interface.name)).toList) ⊆ next.interface.operations
  indexedGetter : next.hasIndexedGetter =
    (draft.hasIndexedGetter || operation.any (·.isGetterOf "unsigned long"))
  integerLength : next.hasIntegerLength = (draft.hasIntegerLength || item.any (·.isLength))
  namedGetter : next.interface.hasNamedGetter =
    (draft.interface.hasNamedGetter || operation.any (·.isGetterOf "DOMString"))
  handleEvent : next.interface.handleEvent = draft.interface.handleEvent.or
    ((operation.filter (·.handlesEvents)).map (·.ownedBy draft.interface.name))
  handlesFirst : operation.any (·.handlesEvents) = true → draft.interface.handleEvent = none
  indexedElements : next.interface.hasIndexedElements = draft.interface.hasIndexedElements

theorem note_getter_notes (draft : Draft) (operation : Operation) :
    (draft.noteGetter operation).hasIndexedGetter =
        (draft.hasIndexedGetter || operation.isGetterOf "unsigned long") ∧
      (draft.noteGetter operation).interface.hasNamedGetter =
        (draft.interface.hasNamedGetter || operation.isGetterOf "DOMString") ∧
      (draft.noteGetter operation).hasIntegerLength = draft.hasIntegerLength := by
  unfold noteGetter Operation.isGetterOf
  by_cases getter : operation.isSpecial .getter = true
  · rw [if_pos getter, getter]
    split
    · rename_i first
      simp [first]
    · rename_i first
      simp [first]
    · rename_i _ notIndexed notNamed
      rw [beq_eq_false_iff_ne.mpr notIndexed, beq_eq_false_iff_ne.mpr notNamed]
      simp
  · rw [if_neg getter]
    simp [getter]

theorem note_handle_event_notes (draft noted : Draft) (operation : Operation)
    (note : draft.noteHandleEvent operation = .ok noted) :
    noted.hasIndexedGetter = draft.hasIndexedGetter ∧
      noted.hasIntegerLength = draft.hasIntegerLength ∧
      noted.interface = { draft.interface with
        handleEvent := draft.interface.handleEvent.or
          (if operation.handlesEvents then some operation else none) } ∧
      (operation.handlesEvents = true → draft.interface.handleEvent = none) := by
  unfold noteHandleEvent at note
  by_cases named : operation.name = some "handleEvent"
  · have handles : operation.handlesEvents = true := by simp [Operation.handlesEvents, named]
    rw [if_pos named] at note
    cases first : draft.interface.handleEvent with
    | some known => simp [first] at note
    | none =>
        rw [first] at note
        cases note
        simp [handles]
  · have other : operation.handlesEvents = false := by simp [Operation.handlesEvents, named]
    rw [if_neg named] at note
    cases note
    rw [other, if_neg Bool.false_ne_true, Option.or_none]
    exact ⟨rfl, rfl, by cases draft.interface; rfl,
      fun handles => absurd handles Bool.false_ne_true⟩

theorem unnoted (draft next : Draft) (child : Node) (notAttribute : child.kind ≠ "Attribute")
    (notOperation : child.kind ≠ "Operation") (nothing : Notes draft next none none) :
    Notes draft next child.attribute? child.operation? := by
  rwa [Node.attribute?, if_neg notAttribute, Node.operation?, if_neg notOperation]

theorem taken_operation_notes (draft noted : Draft) (operation : Operation)
    (note : (draft.noteGetter (draft.ownedOperation operation)).noteHandleEvent
      (draft.ownedOperation operation) = .ok noted) :
    Notes draft (noted.addOperation (draft.ownedOperation operation)) none (some operation) := by
  obtain ⟨indexed, named, length⟩ := note_getter_notes draft (draft.ownedOperation operation)
  obtain ⟨indexed', length', same, first⟩ := note_handle_event_notes _ noted _ note
  obtain ⟨getter, shape⟩ := note_getter_interface draft (draft.ownedOperation operation)
  constructor
  · rw [addOperation, same, shape]
  · rw [addOperation, same, shape]
    simp
  · rw [addOperation, same, shape]
    simp [ownedOperation, Operation.ownedBy]
  · exact indexed'.trans indexed
  · rw [Option.any_none, Bool.or_false]
    exact length'.trans length
  · rw [addOperation, same]
    exact named
  · rw [addOperation, same, shape]
    change draft.interface.handleEvent.or (if operation.handlesEvents then
      some (operation.ownedBy draft.interface.name) else none) = _
    cases handles : operation.handlesEvents <;> simp [handles, Option.filter]
  · rw [shape] at first
    exact first
  · rw [addOperation, same, shape]

theorem taken_notes (draft next : Draft) (child : Node) (taken : Taken draft child next) :
    Notes draft next child.attribute? child.operation? := by
  cases taken with
  | attributeMember item kind read =>
      have one : child.attribute? = some item := by
        rw [Node.attribute?, if_pos kind, read]
        rfl
      have none : child.operation? = none := if_neg (by rw [kind]; decide)
      rw [one, none]
      constructor <;> simp [noteLength, pushAttribute, AttributeTable.push_list, owned,
        Attribute.ownedBy, Attribute.isLength]
  | operation operation noted kind read note =>
      have none : child.attribute? = none := if_neg (by rw [kind]; decide)
      have one : child.operation? = some operation := by
        rw [Node.operation?, if_pos kind, read]
        rfl
      rw [none, one]
      exact taken_operation_notes draft noted operation note
  | stringifier stringifier placed kind _ place =>
      refine unnoted draft _ child (by simp [kind]) (by simp [kind]) ?_
      cases place with
      | attributeMember => constructor <;> simp [pushAttribute, AttributeTable.push_list]
      | operation => constructor <;> simp [addOperation]
      | nothing => constructor <;> simp
  | iteration iteration _ read =>
      have kind := reads_iteration_kind child iteration read
      exact unnoted draft _ child (ne_of_mem_of_not_mem kind (by decide))
        (ne_of_mem_of_not_mem kind (by decide)) (by constructor <;> simp)
  | constant _ kind =>
      exact unnoted draft _ child (by simp [kind]) (by simp [kind]) (by constructor <;> simp)
  | extAttrs _ _ _ kind =>
      exact unnoted draft _ child (by simp [kind]) (by simp [kind]) (by constructor <;> simp)
  | customConstructor _ kind =>
      exact unnoted draft _ child (by simp [kind]) (by simp [kind]) (by constructor <;> simp)
  | plainConstructor _ kind =>
      exact unnoted draft _ child (by simp [kind]) (by simp [kind]) (by constructor <;> simp)
  | parent kind =>
      exact unnoted draft _ child (by simp [kind]) (by simp [kind]) (by constructor <;> simp)

structure Noted (owner : String) (front : List Node) (draft : Draft) : Prop where
  name : draft.interface.name = owner
  attributes : (Node.attributes front).map (·.ownedBy owner) ⊆ draft.interface.attributes.list
  operations : (Node.operations front).map (·.ownedBy owner) ⊆ draft.interface.operations
  indexedGetter : draft.hasIndexedGetter =
    (Node.operations front).any (·.isGetterOf "unsigned long")
  integerLength : draft.hasIntegerLength = (Node.attributes front).any (·.isLength)
  namedGetter : draft.interface.hasNamedGetter =
    (Node.operations front).any (·.isGetterOf "DOMString")
  handleEvent : draft.interface.handleEvent =
    ((Node.operations front).find? (·.handlesEvents)).map (·.ownedBy owner)
  oneHandler : ((Node.operations front).filter (·.handlesEvents)).length ≤ 1
  indexedElements : draft.interface.hasIndexedElements = false

theorem owned_subset {α : Type} (own : α → α) (known listed grown : List α) (added : Option α)
    (before : known.map own ⊆ listed) (after : listed ++ (added.map own).toList ⊆ grown) :
    (known ++ added.toList).map own ⊆ grown := by
  intro member found
  rw [List.map_append, List.mem_append] at found
  apply after
  rcases found with earlier | last
  · exact List.mem_append_left _ (before earlier)
  · cases added with
    | none => cases last
    | some value => exact List.mem_append_right _ last

theorem notes_noted (name : String) (front : List Node) (child : Node) (draft next : Draft)
    (notes : Notes draft next child.attribute? child.operation?) (noted : Noted name front draft) :
    Noted name (front ++ [child]) next := by
  obtain ⟨rfl⟩ := noted.name
  constructor
  · exact notes.name
  · rw [Node.attributes_append_one]
    exact owned_subset _ _ _ _ _ noted.attributes notes.attributes
  · rw [Node.operations_append_one]
    exact owned_subset _ _ _ _ _ noted.operations notes.operations
  · rw [notes.indexedGetter, noted.indexedGetter, Node.operations_append_one, List.any_append]
    cases child.operation? <;> simp
  · rw [notes.integerLength, noted.integerLength, Node.attributes_append_one, List.any_append]
    cases child.attribute? <;> simp
  · rw [notes.namedGetter, noted.namedGetter, Node.operations_append_one, List.any_append]
    cases child.operation? <;> simp
  · rw [notes.handleEvent, noted.handleEvent, Node.operations_append_one, List.find?_append]
    cases (Node.operations front).find? (·.handlesEvents) <;> cases child.operation? <;>
      simp [Option.filter]
  · rw [Node.operations_append_one, List.filter_append, List.length_append]
    by_cases handles : child.operation?.any (·.handlesEvents) = true
    · have none := notes.handlesFirst handles
      rw [noted.handleEvent, Option.map_eq_none_iff, List.find?_eq_none,
        ← List.filter_eq_nil_iff] at none
      rw [none, List.length_nil, Nat.zero_add]
      have alone : child.operation?.toList.length ≤ 1 := by cases child.operation? <;> simp
      exact Nat.le_trans (List.length_filter_le _ _) alone
    · have apart : child.operation?.toList.filter (·.handlesEvents) = [] := by
        cases found : child.operation? <;> simp_all
      rw [apart]
      exact noted.oneHandler
  · rw [notes.indexedElements, noted.indexedElements]

theorem take_all_noted (node : Node) (name : String) (draft : Draft)
    (taken : (start node name).takeAll node.children = .ok draft) :
    Noted name node.children draft := by
  apply take_all_keeps_after (Noted name) ?_ [] node.children _ draft taken
  · constructor <;> simp [start, blank, Node.attributes, Node.operations]
  · intro front draft child next step before
    exact notes_noted name front child draft next (taken_notes draft next child step) before

theorem indexed_elements_ok (draft : Draft) (hasIndexedElements : Bool)
    (indexed : draft.indexedElements = .ok hasIndexedElements)
    (before : draft.interface.hasIndexedElements = false) :
    hasIndexedElements = (draft.hasIntegerLength && draft.hasIndexedGetter) ∧
      (draft.interface.iteration.any (·.isValueIterator) = true → hasIndexedElements = true) := by
  unfold indexedElements at indexed
  split at indexed
  · rename_i both
    cases indexed
    exact ⟨both.symm, fun _ => rfl⟩
  · rename_i apart
    split at indexed
    · cases indexed
    · rename_i noIterator
      cases indexed
      rw [before]
      exact ⟨(Bool.eq_false_iff.mpr apart).symm, fun iterator => absurd iterator noIterator⟩

theorem noted_summarises (draft : Draft) (children : List Node) (final : Interface)
    (noted : Noted draft.interface.name children draft) (finished : draft.finish = .ok final) :
    final.Summarises children := by
  obtain ⟨hasIndexedElements, _, indexed, _, constructed⟩ := finish_finished draft final finished
  have elements := (indexed_elements_ok draft hasIndexedElements indexed noted.indexedElements).1
  rw [noted.integerLength, noted.indexedGetter] at elements
  obtain ⟨_, _, _, rfl⟩ := constructed_interface draft _ final constructed
  exact ⟨noted.attributes, noted.operations, noted.namedGetter, elements, noted.handleEvent⟩

end Draft

theorem of_node_summarises (node : Node) (interface : Interface)
    (built : ofNode node = .ok interface) : interface.Summarises node.children := by
  obtain ⟨name, draft, _, taken, finished⟩ := (of_node_ok_iff node interface).mp built
  have noted := Draft.take_all_noted node name draft taken
  obtain rfl := noted.name
  exact Draft.noted_summarises draft node.children interface noted finished

theorem of_node_one_handler (node : Node) (interface : Interface)
    (built : ofNode node = .ok interface) :
    ((Node.operations node.children).filter (·.handlesEvents)).length ≤ 1 := by
  obtain ⟨name, draft, _, taken, _⟩ := (of_node_ok_iff node interface).mp built
  exact (Draft.take_all_noted node name draft taken).oneHandler

theorem of_node_name (node : Node) (interface : Interface)
    (built : ofNode node = .ok interface) : node.name = some interface.name := by
  obtain ⟨name, draft, required, taken, finished⟩ := (of_node_ok_iff node interface).mp built
  have noted := Draft.take_all_noted node name draft taken
  obtain ⟨_, _, _, _, rfl⟩ := Draft.finish_interface draft interface finished
  rw [Node.required_name_ok _ _ _ required, ← noted.name]

end Interface

end WebIdl
