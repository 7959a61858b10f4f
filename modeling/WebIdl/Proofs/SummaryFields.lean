import WebIdl.Proofs.DraftNotes
import WebIdl.Proofs.Produced

set_option autoImplicit false

namespace WebIdl.Interface

structure SummaryAgrees (interface : Interface) : Prop where
  namedGetter : interface.hasNamedGetter = true ↔ interface.HasGetterOf "DOMString"
  indexedElements : interface.hasIndexedElements = true ↔
    interface.HasLength ∧ interface.HasGetterOf "unsigned long"
  handleEvent : interface.handleEvent.isSome = true ↔ interface.HandlesEvents

-- The half of the agreement that nothing takes away.
structure SummarySound (interface : Interface) : Prop where
  namedGetter : interface.hasNamedGetter = true → interface.HasGetterOf "DOMString"
  indexedElements : interface.hasIndexedElements = true →
    interface.HasLength ∧ interface.HasGetterOf "unsigned long"
  handleEvent : ∀ operation, interface.handleEvent = some operation →
    operation ∈ interface.operations ∧ operation.handlesEvents = true

structure DeclaredBy (interface : Interface) (children : List Node) : Prop where
  namedGetter : interface.HasGetterOf "DOMString" →
    (Node.operations children).any (·.isGetterOf "DOMString") = true
  indexedElements : interface.HasLength → interface.HasGetterOf "unsigned long" →
    (Node.attributes children).any (·.isLength) = true ∧
      (Node.operations children).any (·.isGetterOf "unsigned long") = true
  handleEvent : interface.HandlesEvents →
    (Node.operations children).any (·.handlesEvents) = true

theorem handle_event_noted (interface : Interface) (children : List Node)
    (summarises : interface.Summarises children) :
    interface.handleEvent.isSome = (Node.operations children).any (·.handlesEvents) := by
  rw [summarises.handleEvent, Option.isSome_map, Bool.eq_iff_iff, List.find?_isSome,
    List.any_eq_true]

theorem summarised_sound (interface : Interface) (children : List Node)
    (summarises : interface.Summarises children) : interface.SummarySound where
  namedGetter noted :=
    summarised_getter interface children summarises _ (summarises.namedGetter ▸ noted)
  indexedElements noted := by
    rw [summarises.indexedElements, Bool.and_eq_true] at noted
    exact ⟨summarised_length interface children summarises noted.1,
      summarised_getter interface children summarises _ noted.2⟩
  handleEvent operation noted := by
    rw [summarises.handleEvent] at noted
    obtain ⟨declared, found, rfl⟩ := Option.map_eq_some_iff.mp noted
    have handles : declared.handlesEvents = true := List.find?_some found
    exact ⟨summarises.operations (List.mem_map_of_mem (List.mem_of_find?_eq_some found)), handles⟩

theorem summary_agrees_iff (interface : Interface) (children : List Node)
    (summarises : interface.Summarises children) :
    interface.SummaryAgrees ↔ interface.DeclaredBy children := by
  have event := handle_event_noted interface children summarises
  have sound := summarised_sound interface children summarises
  constructor
  · intro agrees
    constructor
    · intro getter
      exact summarises.namedGetter ▸ agrees.namedGetter.mpr getter
    · intro length getter
      have noted := agrees.indexedElements.mpr ⟨length, getter⟩
      rwa [summarises.indexedElements, Bool.and_eq_true] at noted
    · intro handles
      exact event ▸ agrees.handleEvent.mpr handles
  · intro declared
    constructor
    · refine ⟨sound.namedGetter, fun getter => ?_⟩
      rw [summarises.namedGetter]
      exact declared.namedGetter getter
    · refine ⟨sound.indexedElements, fun both => ?_⟩
      rw [summarises.indexedElements, Bool.and_eq_true]
      exact declared.indexedElements both.1 both.2
    · rw [event]
      exact ⟨summarised_handler interface children summarises, declared.handleEvent⟩

-- The declaration that an interface started from, whatever it has taken up since.
structure StemsFrom (interface : Interface) (node : Node) : Prop where
  kind : node.kind = "Interface"
  name : node.name = some interface.name
  isPartial : interface.isPartial = node.flag "PARTIAL"
  summarises : interface.Summarises node.children

theorem of_node_stems (node : Node) (interface : Interface) (kind : node.kind = "Interface")
    (built : ofNode node = .ok interface) : interface.StemsFrom node where
  kind := kind
  name := of_node_name node interface built
  isPartial := of_node_is_partial node interface built
  summarises := of_node_summarises node interface built

theorem grown_stems (interface grown : Interface) (node : Node) (stems : interface.StemsFrom node)
    (name : grown.name = interface.name) (isPartial : grown.isPartial = interface.isPartial)
    (attributes : interface.attributes.list ⊆ grown.attributes.list)
    (operations : interface.operations ⊆ grown.operations)
    (namedGetter : grown.hasNamedGetter = interface.hasNamedGetter)
    (indexedElements : grown.hasIndexedElements = interface.hasIndexedElements)
    (handleEvent : grown.handleEvent = interface.handleEvent) : grown.StemsFrom node where
  kind := stems.kind
  name := name ▸ stems.name
  isPartial := isPartial.trans stems.isPartial
  summarises := by
    constructor
    · rw [name]
      exact List.Subset.trans stems.summarises.attributes attributes
    · rw [name]
      exact List.Subset.trans stems.summarises.operations operations
    · exact namedGetter.trans stems.summarises.namedGetter
    · exact indexedElements.trans stems.summarises.indexedElements
    · rw [name]
      exact handleEvent.trans stems.summarises.handleEvent

theorem merge_stems (base fragment : Interface) (node : Node) (stems : base.StemsFrom node) :
    (base.merge fragment).StemsFrom node := by
  refine grown_stems base _ node stems rfl rfl ?_ ?_ rfl rfl rfl
  · rw [merge, AttributeTable.push_all_list]
    exact List.subset_append_left _ _
  · exact List.subset_append_left _ _

theorem inherit_stems (interface parent : Interface) (node : Node)
    (stems : interface.StemsFrom node) : (interface.inherit parent).StemsFrom node := by
  refine grown_stems interface _ node stems rfl rfl ?_ ?_ rfl rfl rfl
  · obtain ⟨_, _, listed⟩ := adopt_list_taken interface.attributes parent.attributes.list
    rw [inherit, listed]
    exact List.subset_append_left _ _
  · exact List.subset_append_left _ _

end WebIdl.Interface

namespace WebIdl.Definitions

theorem produced_stem (files : List Node) (definitions : Definitions)
    (produced : Produced files definitions) :
    definitions.interfaces.All fun interface =>
      ∃ root ∈ files, ∃ node ∈ root.children, interface.StemsFrom node := by
  refine produced_all files _ ?_ ?_ ?_ definitions produced
  · intro root listed child member kind interface built
    exact ⟨root, listed, child, member, Interface.of_node_stems child interface kind built⟩
  · rintro base fragment ⟨root, listed, node, member, stems⟩ _
    exact ⟨root, listed, node, member, Interface.merge_stems base fragment node stems⟩
  · rintro interface parent ⟨root, listed, node, member, stems⟩ _
    exact ⟨root, listed, node, member, Interface.inherit_stems interface parent node stems⟩

theorem summaries_agree_iff_declared (files : List Node) (definitions : Definitions)
    (produced : Produced files definitions) (name : String) (interface : Interface)
    (member : (name, interface) ∈ definitions.interfaces.entries) :
    ∃ root ∈ files, ∃ node ∈ root.children, interface.StemsFrom node ∧ interface.SummarySound ∧
      (interface.SummaryAgrees ↔ interface.DeclaredBy node.children) := by
  obtain ⟨root, listed, node, child, stems⟩ :=
    produced_stem files definitions produced (name, interface) member
  have summarises := stems.summarises
  exact ⟨root, listed, node, child, stems,
    Interface.summarised_sound interface node.children summarises,
    Interface.summary_agrees_iff interface node.children summarises⟩

def itemList (name : String) : Node :=
  (Node.interfaceOf name []).withChildren
    [Node.attributeOf "length" "unsigned long",
      Node.getterOf "item" (Node.typeOf "PrimitiveType" "unsigned long")]

def namedItem : Node := Node.getterOf "namedItem" (Node.typeOf "StringType" "DOMString")

theorem item_list_summary_agrees :
    ∃ definitions interface, Produced [Node.fileOf [itemList "Items"]] definitions ∧
      ("Items", interface) ∈ definitions.interfaces.entries ∧
      interface.hasIndexedElements = true ∧
      ∃ root ∈ [Node.fileOf [itemList "Items"]], ∃ node ∈ root.children,
        interface.StemsFrom node ∧ interface.SummarySound ∧
          (interface.SummaryAgrees ↔ interface.DeclaredBy node.children) := by
  obtain ⟨definitions, built⟩ : ∃ definitions,
    ofNode (Node.fileOf [itemList "Items"]) = .ok definitions := ⟨_, rfl⟩
  have produced := Produced.read _ definitions (List.mem_singleton_self _) built
  have declared := summaries_agree_iff_declared _ definitions produced "Items"
  cases built
  exact ⟨_, _, produced, List.mem_singleton_self _, rfl, declared _ (List.mem_singleton_self _)⟩

theorem members_of_others_missed :
    (∃ definitions interface,
      ofNode (Node.fileOf [(Node.interfaceOf "Handler" []).withChild
        ((Node.leaf "Stringifier").withChild
          (((Node.leaf "Operation").named "handleEvent").withChild (Node.leaf "Arguments")))]) =
          .ok definitions ∧
        definitions.interfaces.get? "Handler" = some interface ∧
        interface.HandlesEvents ∧ interface.handleEvent = none) ∧
    (∃ whole part merged interface,
      ofNode (Node.fileOf [Node.interfaceOf "Items" []]) = .ok whole ∧
        ofNode (Node.fileOf [((Node.interfaceOf "Items" []).withChild namedItem).asPartial]) =
          .ok part ∧
        merge [whole, part] = .ok merged ∧
        merged.interfaces.get? "Items" = some interface ∧
        interface.HasGetterOf "DOMString" ∧ interface.hasNamedGetter = false) ∧
    ∃ definitions interface,
      ofNode (Node.fileOf [itemList "Items",
        (Node.interfaceOf "Nodes" []).inheriting "Items"]) = .ok definitions ∧
        (resolveInheritance definitions).failure = none ∧
        (resolveInheritance definitions).state.interfaces.get? "Nodes" = some interface ∧
        interface.HasLength ∧ interface.HasGetterOf "unsigned long" ∧
        interface.hasIndexedElements = false := by
  refine ⟨⟨_, _, rfl, rfl, List.any_eq_true.mp rfl, rfl⟩,
    ⟨_, _, _, _, rfl, rfl, rfl, rfl, List.any_eq_true.mp rfl, rfl⟩,
    ⟨_, _, rfl, rfl, rfl, List.any_eq_true.mp rfl, List.any_eq_true.mp rfl, rfl⟩⟩

end WebIdl.Definitions
