import WebIdl.Proofs.DraftMembers
import WebIdl.Proofs.Produced

set_option autoImplicit false

namespace WebIdl

namespace Node

def attributeNames (node : Node) : List String :=
  (node.children.filterMap memberAttribute?).map (·.name)

def operationNames (node : Node) : List (Option String) :=
  (node.children.filterMap memberOperation?).map (·.name)

def lastStringifier? (node : Node) : Option Stringifier :=
  (node.children.filterMap stringifier?).getLast?

theorem last_stringifier_declared (node : Node) (stringifier : Stringifier)
    (last : node.lastStringifier? = some stringifier) :
    ∃ child ∈ node.children, child.kind = "Stringifier" ∧
      Stringifier.ofNode child = .ok stringifier := by
  obtain ⟨child, listed, declares⟩ := List.mem_filterMap.mp (List.mem_of_getLast? last)
  unfold stringifier? at declares
  split at declares
  · rename_i kind
    exact ⟨child, listed, kind, (to_option_eq_some_iff _ stringifier).mp declares⟩
  · cases declares

theorem stringifier_attribute_brought (node : Node) (stringifier : Stringifier) (item : Attribute)
    (last : node.lastStringifier? = some stringifier)
    (holds : stringifier.attributeMember = some item) : item.name ∈ node.attributeNames := by
  obtain ⟨child, listed, kind, read⟩ := node.last_stringifier_declared stringifier last
  have brought := (child.brings_stringifier stringifier kind read).item
  exact List.mem_map_of_mem (List.mem_filterMap.mpr ⟨child, listed, brought.trans holds⟩)

theorem stringifier_operation_brought (node : Node) (stringifier : Stringifier)
    (operation : Operation) (last : node.lastStringifier? = some stringifier)
    (free : stringifier.attributeMember = none)
    (holds : stringifier.operationMember = some operation) :
    operation.name ∈ node.operationNames := by
  obtain ⟨child, listed, kind, read⟩ := node.last_stringifier_declared stringifier last
  have brought := (child.brings_stringifier stringifier kind read).operation
  rw [Stringifier.loneOperation, free, holds] at brought
  exact List.mem_map_of_mem (List.mem_filterMap.mpr ⟨child, listed, brought⟩)

end Node

namespace Interface

-- All that an interface has by name, and its stringifier, come from these nodes. The nodes of
-- fragments and of parents follow the node that the interface itself was read from.
structure MadeOf (interface : Interface) (nodes : List Node) : Prop where
  attributeNames : ∀ name, name ∈ interface.names ↔ ∃ node ∈ nodes, name ∈ node.attributeNames
  operationNames : ∀ name,
    interface.declares name = true ↔ ∃ node ∈ nodes, name ∈ node.operationNames
  stringifier : interface.stringifier = nodes.findSome? (·.lastStringifier?)

namespace Draft

theorem strung_before (draft next : Draft) (child : Node) (other : child.kind ≠ "Stringifier")
    (same : next.interface.stringifier = draft.interface.stringifier) :
    next.interface.stringifier = child.stringifier?.or draft.interface.stringifier := by
  rw [Node.stringifier?, if_neg other, Option.none_or, same]

theorem taken_stringifier (draft next : Draft) (child : Node) (taken : Taken draft child next) :
    next.interface.stringifier = child.stringifier?.or draft.interface.stringifier := by
  cases taken with
  | stringifier stringifier placed kind read place =>
      rw [Node.stringifier?, if_pos kind, read]
      rfl
  | operation operation noted kind _ note =>
      obtain ⟨_, _, same⟩ := noted_interface draft noted _ note
      refine strung_before draft _ child (by simp [kind]) ?_
      rw [addOperation, same]
  | iteration iteration _ read =>
      have other : child.kind ≠ "Stringifier" :=
        ne_of_mem_of_not_mem (reads_iteration_kind child iteration read) (by decide)
      exact strung_before draft _ child other rfl
  | attributeMember _ kind => exact strung_before draft _ child (by simp [kind]) rfl
  | constant _ kind => exact strung_before draft _ child (by simp [kind]) rfl
  | extAttrs _ _ _ kind => exact strung_before draft _ child (by simp [kind]) rfl
  | customConstructor _ kind => exact strung_before draft _ child (by simp [kind]) rfl
  | plainConstructor _ kind => exact strung_before draft _ child (by simp [kind]) rfl
  | parent kind => exact strung_before draft _ child (by simp [kind]) rfl

end Draft

theorem of_node_stringifier (node : Node) (interface : Interface)
    (built : ofNode node = .ok interface) : interface.stringifier = node.lastStringifier? := by
  obtain ⟨name, draft, _, taken, finished⟩ := (of_node_ok_iff node interface).mp built
  have last : draft.interface.stringifier = node.lastStringifier? := by
    apply Draft.take_all_keeps_after (fun front draft =>
      draft.interface.stringifier = (front.filterMap Node.stringifier?).getLast?) ?_ []
      node.children _ draft taken rfl
    intro front draft child next step before
    rw [Draft.taken_stringifier draft next child step, before, List.filterMap_append,
      List.getLast?_append]
    cases found : child.stringifier? <;> simp [found]
  obtain ⟨_, _, _, _, rfl⟩ := Draft.finish_interface draft interface finished
  exact last

theorem declares_iff_name (interface : Interface) (name : Option String) :
    interface.declares name = true ↔ name ∈ interface.operations.map (·.name) := by
  rw [declares, List.any_eq_true, List.mem_map]
  simp

theorem of_node_made_of (node : Node) (interface : Interface)
    (built : ofNode node = .ok interface) : interface.MadeOf [node] := by
  have collects := of_node_collects node interface built
  constructor
  · intro name
    rw [names, collects.attributes, List.map_map]
    simp [Node.attributeNames, Attribute.ownedBy]
  · intro name
    rw [declares_iff_name, collects.operations, List.map_map]
    simp [Node.operationNames, Operation.ownedBy]
  · rw [of_node_stringifier node interface built, List.findSome?_singleton]

theorem made_of_both (interface other both : Interface) (nodes others : List Node)
    (made : interface.MadeOf nodes) (made' : other.MadeOf others)
    (names : ∀ name, name ∈ both.names ↔ name ∈ interface.names ∨ name ∈ other.names)
    (declares : ∀ name, both.declares name = true ↔
      interface.declares name = true ∨ other.declares name = true)
    (stringifier : both.stringifier = interface.stringifier.or other.stringifier) :
    both.MadeOf (nodes ++ others) := by
  constructor
  · intro name
    rw [names, made.attributeNames, made'.attributeNames]
    simp only [List.mem_append, or_and_right, exists_or]
  · intro name
    rw [declares, made.operationNames, made'.operationNames]
    simp only [List.mem_append, or_and_right, exists_or]
  · rw [stringifier, made.stringifier, made'.stringifier, List.findSome?_append]

theorem merge_made_of (base fragment : Interface) (nodes others : List Node)
    (made : base.MadeOf nodes) (part : fragment.MadeOf others) :
    (base.merge fragment).MadeOf (nodes ++ others) := by
  refine made_of_both base fragment _ nodes others made part ?_ ?_ rfl
  · intro name
    rw [names, merge, AttributeTable.push_all_list, List.map_append, List.mem_append]
    rfl
  · intro name
    rw [declares, merge, List.any_append, Bool.or_eq_true]
    rfl

theorem inherit_declares (interface parent : Interface) (name : Option String) :
    (interface.inherit parent).declares name =
      (interface.declares name || parent.declares name) := by
  have missing := declared_eq_nil_iff (interface.inherit parent) name
  rw [inherit_declared] at missing
  cases own : interface.declares name with
  | true =>
      rw [own, if_pos rfl, declared_eq_nil_iff, own] at missing
      simpa using missing
  | false =>
      rw [own, if_neg Bool.false_ne_true, declared_eq_nil_iff] at missing
      rw [Bool.false_or, Bool.eq_iff_iff, ← Bool.not_eq_false, ← missing, Bool.not_eq_false]

theorem inherit_made_of (interface parent : Interface) (nodes others : List Node)
    (made : interface.MadeOf nodes) (above : parent.MadeOf others) :
    (interface.inherit parent).MadeOf (nodes ++ others) := by
  refine made_of_both interface parent _ nodes others made above ?_ ?_ rfl
  · exact adopt_names interface.attributes parent.attributes.list
  · intro name
    rw [inherit_declares, Bool.or_eq_true]

structure ListsStringifier (interface : Interface) : Prop where
  attributeMember : ∀ stringifier ∈ interface.stringifier, ∀ item ∈ stringifier.attributeMember,
    interface.attributes.contains item.name = true
  operationMember : ∀ stringifier ∈ interface.stringifier,
    ∀ operation ∈ stringifier.operationMember,
      ∃ name, operation.name = some name ∧ interface.hasOperation name = true

theorem stringifier_declared (interface : Interface) (nodes : List Node)
    (made : interface.MadeOf nodes) (stringifier : Stringifier)
    (holds : interface.stringifier = some stringifier) :
    ∃ node ∈ nodes, node.lastStringifier? = some stringifier := by
  rw [made.stringifier] at holds
  exact List.exists_of_findSome?_eq_some holds

theorem attribute_listed (interface : Interface) (nodes : List Node)
    (made : interface.MadeOf nodes) :
    ∀ stringifier ∈ interface.stringifier, ∀ item ∈ stringifier.attributeMember,
      interface.attributes.contains item.name = true := by
  intro stringifier holds item present
  obtain ⟨node, listed, last⟩ := stringifier_declared interface nodes made stringifier holds
  rw [AttributeTable.contains_iff_member, ← List.mem_map]
  exact (made.attributeNames item.name).mpr
    ⟨node, listed, node.stringifier_attribute_brought stringifier item last present⟩

theorem operation_listed_iff (interface : Interface) (nodes : List Node)
    (made : interface.MadeOf nodes) (stringifier : Stringifier)
    (holds : interface.stringifier = some stringifier) (operation : Operation)
    (present : stringifier.operationMember = some operation) :
    (∃ name, operation.name = some name ∧ interface.hasOperation name = true) ↔
      stringifier.attributeMember = none ∨
        ∃ node ∈ nodes, operation.name ∈ node.operationNames := by
  obtain ⟨node, listed, last⟩ := stringifier_declared interface nodes made stringifier holds
  obtain ⟨child, _, _, read⟩ := node.last_stringifier_declared stringifier last
  obtain ⟨name, named⟩ := Option.isSome_iff_exists.mp
    (Stringifier.of_node_names child stringifier read operation present)
  have found : (∃ name, operation.name = some name ∧ interface.hasOperation name = true) ↔
      ∃ node ∈ nodes, operation.name ∈ node.operationNames := by
    rw [← made.operationNames, named]
    simp [hasOperation, declares]
  rw [found]
  refine ⟨.inr, fun either => either.elim (fun free => ?_) id⟩
  exact ⟨node, listed, node.stringifier_operation_brought stringifier operation last free present⟩

end Interface

namespace Definitions

def DeclaredIn (files nodes : List Node) : Prop :=
  ∀ node ∈ nodes, ∃ root ∈ files, node ∈ root.children ∧ node.kind = "Interface"

theorem produced_made_of (files : List Node) (definitions : Definitions)
    (produced : Produced files definitions) :
    definitions.interfaces.All fun interface =>
      ∃ nodes, DeclaredIn files nodes ∧ interface.MadeOf nodes := by
  refine produced_all files _ ?_ ?_ ?_ definitions produced
  · intro root listed child member kind interface built
    exact ⟨[child], List.forall_mem_singleton.mpr ⟨root, listed, member, kind⟩,
      Interface.of_node_made_of child interface built⟩
  · rintro base fragment ⟨nodes, known, made⟩ ⟨others, known', part⟩
    exact ⟨nodes ++ others, List.forall_mem_append.mpr ⟨known, known'⟩,
      Interface.merge_made_of base fragment nodes others made part⟩
  · rintro interface parent ⟨nodes, known, made⟩ ⟨others, known', above⟩
    exact ⟨nodes ++ others, List.forall_mem_append.mpr ⟨known, known'⟩,
      Interface.inherit_made_of interface parent nodes others made above⟩

-- The operation of a stringifier that holds an attribute as well is found only if something else
-- has its name.
theorem stringifier_listed_iff (files : List Node) (definitions : Definitions)
    (produced : Produced files definitions) (name : String) (interface : Interface)
    (member : (name, interface) ∈ definitions.interfaces.entries) :
    ∃ nodes, DeclaredIn files nodes ∧ interface.MadeOf nodes ∧
      (∀ stringifier ∈ interface.stringifier, ∀ item ∈ stringifier.attributeMember,
        interface.attributes.contains item.name = true) ∧
      (interface.ListsStringifier ↔ ∀ stringifier ∈ interface.stringifier,
        ∀ operation ∈ stringifier.operationMember, stringifier.attributeMember = none ∨
          ∃ node ∈ nodes, operation.name ∈ node.operationNames) := by
  obtain ⟨nodes, known, made⟩ :=
    produced_made_of files definitions produced (name, interface) member
  have attributes := Interface.attribute_listed interface nodes made
  refine ⟨nodes, known, made, attributes, ?_⟩
  constructor
  · intro lists stringifier holds operation present
    exact (Interface.operation_listed_iff interface nodes made stringifier holds operation
      present).mp (lists.operationMember stringifier holds operation present)
  · intro otherwise
    refine ⟨attributes, fun stringifier holds operation present => ?_⟩
    exact (Interface.operation_listed_iff interface nodes made stringifier holds operation
      present).mpr (otherwise stringifier holds operation present)

def textParent (members : List Node) : Node :=
  Node.fileOf [
    (Node.interfaceOf "Url" []).withChild ((Node.leaf "Stringifier").withChildren members),
    (Node.interfaceOf "Link" []).inheriting "Url"]

theorem text_of_parent_listed :
    ∃ definitions interface,
      Produced [textParent [Node.operationOf "toString"]] (resolveInheritance definitions).state ∧
      ("Link", interface) ∈ (resolveInheritance definitions).state.interfaces.entries ∧
      interface.stringifier.isSome = true ∧ interface.ListsStringifier ∧
      interface.hasOperation "toString" = true := by
  obtain ⟨definitions, built⟩ : ∃ definitions,
    ofNode (textParent [Node.operationOf "toString"]) = .ok definitions := ⟨_, rfl⟩
  have produced := Produced.resolve definitions
    (.read _ definitions (List.mem_singleton_self _) built)
  have listed := fun interface => stringifier_listed_iff _ _ produced "Link" interface
  cases built
  refine ⟨_, _, produced, List.mem_cons_of_mem _ (List.mem_singleton_self _), rfl, ?_, rfl⟩
  obtain ⟨nodes, _, _, _, lists⟩ := listed _ (List.mem_cons_of_mem _ (List.mem_singleton_self _))
  refine lists.mpr fun stringifier holds operation present => .inl ?_
  cases holds
  rfl

theorem text_operation_unlisted :
    ∃ definitions interface stringifier operation,
      ofNode (textParent [Node.longAttribute "href", Node.operationOf "toString"]) =
          .ok definitions ∧
        definitions.interfaces.get? "Url" = some interface ∧
        interface.stringifier = some stringifier ∧
        stringifier.operationMember = some operation ∧ operation.name = some "toString" ∧
        interface.hasOperation "toString" = false ∧ ¬ interface.ListsStringifier := by
  refine ⟨_, _, _, _, rfl, rfl, rfl, rfl, rfl, rfl, fun lists => ?_⟩
  obtain ⟨name, named, found⟩ := lists.operationMember _ rfl _ rfl
  cases named
  cases found

end Definitions

end WebIdl
