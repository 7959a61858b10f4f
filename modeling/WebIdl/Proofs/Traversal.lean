import WebIdl.Definitions.Visit
import WebIdl.Proofs.Constructors
import WebIdl.Proofs.Origin

set_option autoImplicit false

namespace WebIdl

namespace Interface

def allOperations (interface : Interface) : List Operation :=
  interface.constructors ++ interface.customConstructors ++ interface.operations

theorem operation_met_iff (interface : Interface) (operation : Operation) :
    Entity.operation operation ∈ interface.entities ↔ operation ∈ interface.allOperations := by
  simp [entities, Operation.entities, allOperations]

theorem iteration_met_iff (interface : Interface) (iteration : Iteration) :
    Entity.iteration iteration ∈ interface.entities ↔ interface.iteration = some iteration := by
  simp [entities, Operation.entities]

theorem operation_met_whole (interface : Interface) (operation : Operation)
    (member : operation ∈ interface.allOperations) :
    operation.entities <:+: interface.entities := by
  have listed : operation.entities <:+: interface.allOperations.flatMap Operation.entities :=
    List.infix_of_mem_flatten (List.mem_map_of_mem member)
  exact List.infix_append_of_infix_left (List.infix_append_of_infix_right listed)

theorem made_names (node : Node) (interface : Interface) (made : interface.MadeBy node) :
    (∀ constructor ∈ interface.constructors, constructor.name ≠ some "CustomConstructor") ∧
      ∀ constructor ∈ interface.customConstructors,
        constructor.name = some "CustomConstructor" := by
  cases made with
  | operations _ plain custom =>
      refine ⟨fun constructor member => ?_, custom⟩
      rw [plain constructor member]
      decide
  | named name arguments _ only noCustom =>
      rw [only, noCustom]
      refine ⟨fun constructor member => ?_, fun constructor member => nomatch member⟩
      rw [List.mem_singleton.mp member, Operation.ofConstructor]
      simp

structure MeetsFragment (base fragment merged : Interface) : Prop where
  attributes : ∀ item ∈ fragment.attributes.list, .attributeMember item ∈ merged.entities
  constants : ∀ constant ∈ fragment.constants, .constant constant ∈ merged.entities
  constructors : ∀ constructor ∈ fragment.constructors, constructor.entities <:+: merged.entities
  operations : ∀ operation ∈ fragment.operations, operation.entities <:+: merged.entities
  custom : ∀ constructor ∈ fragment.customConstructors,
    (constructor.entities <:+: merged.entities ↔ constructor ∈ base.customConstructors)
  iteration : ∀ iteration,
    (.iteration iteration ∈ merged.entities ↔ base.iteration = some iteration)

theorem gathered_meets (base fragment merged : Interface) (fragments : List Interface)
    (gathered : base.Gathered fragments merged) (listed : fragment ∈ fragments)
    (read : ∀ part ∈ base :: fragments, ∃ node, ofNode node = .ok part) :
    MeetsFragment base fragment merged := by
  have customs : merged.customConstructors = base.customConstructors :=
    congrArg (·.customConstructors) gathered.rest
  have walks : merged.iteration = base.iteration := congrArg (·.iteration) gathered.rest
  constructor
  · intro item member
    have whole : item ∈ merged.attributes.list := by
      rw [gathered.attributes]
      exact List.mem_append_right _ (List.mem_flatMap.mpr ⟨fragment, listed, member⟩)
    simp [entities, whole]
  · intro constant member
    have whole : constant ∈ merged.constants := by
      rw [gathered.constants]
      exact List.mem_append_right _ (List.mem_flatMap.mpr ⟨fragment, listed, member⟩)
    simp [entities, whole]
  · intro constructor member
    apply operation_met_whole
    have whole : constructor ∈ merged.constructors := by
      rw [gathered.constructors]
      exact List.mem_append_right _ (List.mem_flatMap.mpr ⟨fragment, listed, member⟩)
    simp [allOperations, whole]
  · intro operation member
    apply operation_met_whole
    have whole : operation ∈ merged.operations := by
      rw [gathered.operations]
      exact List.mem_append_right _ (List.mem_flatMap.mpr ⟨fragment, listed, member⟩)
    simp [allOperations, whole]
  · intro constructor member
    obtain ⟨node, own⟩ := read fragment (List.mem_cons_of_mem base listed)
    have named := (made_names node fragment (of_node_made node fragment own)).2 constructor member
    have unowned := of_node_custom_unowned node fragment own constructor member
    constructor
    · intro met
      have present := (operation_met_iff merged constructor).mp (met.subset List.mem_cons_self)
      rw [allOperations, customs, List.mem_append, List.mem_append] at present
      -- Its name tells it from the other constructors, and that it has no owner from an operation.
      rcases present with (plain | custom) | operation
      · have plain : constructor ∈ (base :: fragments).flatMap (·.constructors) :=
          by rwa [List.flatMap_cons, ← gathered.constructors]
        obtain ⟨part, among, declares⟩ := List.mem_flatMap.mp plain
        obtain ⟨node, made⟩ := read part among
        exact absurd named
          ((made_names node part (of_node_made node part made)).1 constructor declares)
      · exact custom
      · have operation : constructor ∈ (base :: fragments).flatMap (·.operations) :=
          by rwa [List.flatMap_cons, ← gathered.operations]
        obtain ⟨part, among, declares⟩ := List.mem_flatMap.mp operation
        obtain ⟨node, made⟩ := read part among
        have owned := (of_node_on_its_own node part made).owns.operations constructor declares
        rw [unowned] at owned
        cases owned
    · intro custom
      apply operation_met_whole
      simp [allOperations, customs, custom]
  · intro iteration
    rw [iteration_met_iff, walks]

end Interface

namespace Definitions

theorem walk_meets_fragment (units : List Definitions)
    (built : ∀ unit ∈ units, ∃ root, ofNode root = .ok unit) (whole : Definitions)
    (done : merge units = .ok whole) (unit : Definitions) (member : unit ∈ units) (name : String)
    (fragment : Interface) (found : unit.interfaces.get? name = some fragment)
    (isPartial : fragment.isPartial = true) :
    ∃ base merged,
      (bases (·.interfaces) units (·.isPartial) name).getLast? = some base ∧
        whole.interfaces.get? name = some merged ∧
        Interface.MeetsFragment base fragment merged := by
  have declared : fragment ∈ given (·.interfaces) units name :=
    List.mem_filterMap.mpr ⟨unit, member, found⟩
  obtain ⟨base, merged, last, present, gathered, read⟩ :=
    declared_gathered units built whole done name fragment declared
  exact ⟨base, merged, last, present,
    Interface.gathered_meets base fragment merged _ gathered
      (List.mem_filter.mpr ⟨declared, isPartial⟩) read⟩

def pointPart : Node :=
  (Node.interfaceOf "Point" ["y"]).asPartial.withChildren
    [Node.getterOf "at" (Node.typeOf "PrimitiveType" "long"),
      (Node.leaf "Setlike").withChild (Node.typeOf "PrimitiveType" "long"),
      (Node.leaf "Constructor").withChildren
        [(Node.leaf "Arguments").withChild
            (((Node.leaf "Argument").named "y").withChild (Node.typeOf "PrimitiveType" "long")),
          Node.attrsOf ["Custom"]]]

theorem getter_of_fragment_met :
    ∃ whole part merged fragment base met getter,
      ofNode (Node.fileOf [Node.interfaceOf "Point" ["x"]]) = .ok whole ∧
        ofNode (Node.fileOf [pointPart]) = .ok part ∧ merge [part, whole] = .ok merged ∧
        part.interfaces.get? "Point" = some fragment ∧ fragment.isPartial = true ∧
        (bases (·.interfaces) [part, whole] (·.isPartial) "Point").getLast? = some base ∧
        merged.interfaces.get? "Point" = some met ∧
        Interface.MeetsFragment base fragment met ∧ fragment.operations = [getter] ∧
        getter.entities <:+: met.entities := by
  obtain ⟨whole, first⟩ : ∃ whole,
    ofNode (Node.fileOf [Node.interfaceOf "Point" ["x"]]) = .ok whole := ⟨_, rfl⟩
  obtain ⟨part, second⟩ : ∃ part, ofNode (Node.fileOf [pointPart]) = .ok part := ⟨_, rfl⟩
  have built : ∀ unit ∈ [part, whole], ∃ root, ofNode root = .ok unit :=
    List.forall_mem_cons.mpr ⟨⟨_, second⟩, List.forall_mem_singleton.mpr ⟨_, first⟩⟩
  have meets := fun merged done =>
    walk_meets_fragment _ built merged done part List.mem_cons_self "Point"
  cases first
  cases second
  obtain ⟨base, met, last, found, met_fragment⟩ := meets _ rfl _ rfl rfl
  exact ⟨_, _, _, _, base, met, _, rfl, rfl, rfl, rfl, rfl, last, found, met_fragment, rfl,
    met_fragment.operations _ List.mem_cons_self⟩

theorem fragment_constructor_missed :
    ∃ whole part merged fragment base met constructor iteration,
      ofNode (Node.fileOf [Node.interfaceOf "Point" ["x"]]) = .ok whole ∧
        ofNode (Node.fileOf [pointPart]) = .ok part ∧ merge [whole, part] = .ok merged ∧
        part.interfaces.get? "Point" = some fragment ∧ fragment.isPartial = true ∧
        whole.interfaces.get? "Point" = some base ∧ base.iteration = none ∧
        merged.interfaces.get? "Point" = some met ∧
        fragment.customConstructors = [constructor] ∧
        .operation constructor ∉ met.entities ∧ fragment.iteration = some iteration ∧
        .iteration iteration ∉ met.entities := by
  refine ⟨_, _, _, _, _, _, _, _, rfl, rfl, rfl, rfl, rfl, rfl, rfl, rfl, rfl, ?_, rfl, ?_⟩
  · rw [Interface.operation_met_iff]
    intro met
    exact absurd (congrArg (·.name) (List.mem_singleton.mp met)) (by decide)
  · rw [Interface.iteration_met_iff]
    intro met
    cases met

end Definitions

end WebIdl
