import WebIdl.Proofs.DraftNotes

set_option autoImplicit false

namespace WebIdl

namespace Node

def stringifierOperation? (child : Node) : Option Operation :=
  child.stringifier?.bind (·.loneOperation)

def stringifierOperations (children : List Node) : List Operation :=
  children.filterMap stringifierOperation?

theorem operation_or_stringifier (child : Node) :
    child.operation? = none ∨ child.stringifierOperation? = none := by
  by_cases kind : child.kind = "Operation"
  · refine .inr ?_
    rw [stringifierOperation?, stringifier?, if_neg (by rw [kind]; decide)]
    rfl
  · exact .inl (if_neg kind)

theorem member_operation_eq (child : Node) :
    child.memberOperation? = child.operation?.or child.stringifierOperation? := rfl

theorem member_operations_perm (children : List Node) :
    (children.filterMap memberOperation?).Perm
      (operations children ++ stringifierOperations children) := by
  rw [operations, stringifierOperations]
  induction children with
  | nil => exact .refl _
  | cons child rest ih =>
      rw [List.filterMap_cons, List.filterMap_cons, List.filterMap_cons, member_operation_eq]
      rcases child.operation_or_stringifier with other | other
      · rw [other, Option.none_or]
        cases child.stringifierOperation? with
        | none => exact ih
        | some operation => exact (ih.cons operation).trans List.perm_middle.symm
      · rw [other, Option.or_none]
        cases child.operation? with
        | none => exact ih
        | some operation => exact ih.cons operation

end Node

namespace Interface

structure OneHandler (interface : Interface) : Prop where
  atMost : (interface.operations.filter (·.handlesEvents)).length ≤ 1
  noted : ∀ operation ∈ interface.operations, operation.handlesEvents = true →
    interface.handleEvent = some operation

theorem filter_owned (name : String) (operations : List Operation) :
    (operations.map (·.ownedBy name)).filter (·.handlesEvents) =
      (operations.filter (·.handlesEvents)).map (·.ownedBy name) :=
  List.filter_map

theorem collected_handlers (interface : Interface) (children : List Node)
    (collects : interface.Collects children) :
    (interface.operations.filter (·.handlesEvents)).Perm
      (((Node.operations children).filter (·.handlesEvents) ++
        (Node.stringifierOperations children).filter (·.handlesEvents)).map
          (·.ownedBy interface.name)) := by
  rw [collects.operations, filter_owned, ← List.filter_append]
  exact ((Node.member_operations_perm children).filter _).map _

theorem noted_handlers (interface : Interface) (children : List Node)
    (summarises : interface.Summarises children)
    (one : ((Node.operations children).filter (·.handlesEvents)).length ≤ 1) :
    interface.handleEvent.toList =
      ((Node.operations children).filter (·.handlesEvents)).map (·.ownedBy interface.name) := by
  rw [summarises.handleEvent, ← List.head?_filter, ← List.head?_map, ← List.take_one]
  exact List.take_of_length_le (by rwa [List.length_map])

theorem one_handler_of_perm (interface : Interface) (others : List Operation)
    (handlers : (interface.operations.filter (·.handlesEvents)).Perm
      (interface.handleEvent.toList ++ others)) :
    interface.OneHandler ↔ others = [] := by
  constructor
  · intro one
    have few := one.atMost
    rw [handlers.length_eq, List.length_append] at few
    cases noted : interface.handleEvent with
    | some operation =>
        rw [noted, Option.toList_some, List.length_singleton] at few
        exact List.eq_nil_of_length_eq_zero (by omega)
    | none =>
        refine List.eq_nil_iff_forall_not_mem.mpr fun operation member => ?_
        obtain ⟨listed, handles⟩ := List.mem_filter.mp
          (handlers.mem_iff.mpr (List.mem_append_right _ member))
        exact absurd (noted.symm.trans (one.noted operation listed handles)) (by simp)
  · rintro rfl
    rw [List.append_nil] at handlers
    constructor
    · rw [handlers.length_eq]
      exact Option.length_toList_le
    · intro operation listed handles
      exact Option.mem_toList.mp (handlers.mem_iff.mp (List.mem_filter.mpr ⟨listed, handles⟩))

-- The children that are operations give at most the one handler that is noted, and any handler of
-- a stringifier comes on top of it.
theorem one_handler_iff (node : Node) (interface : Interface)
    (built : ofNode node = .ok interface) :
    interface.handleEvent.toList = ((Node.operations node.children).filter
        (·.handlesEvents)).map (·.ownedBy interface.name) ∧
      (interface.OneHandler ↔ ∀ operation ∈ Node.stringifierOperations node.children,
        operation.handlesEvents = false) := by
  have noted := noted_handlers interface node.children (of_node_summarises node interface built)
    (of_node_one_handler node interface built)
  have handlers := collected_handlers interface node.children
    (of_node_collects node interface built)
  rw [List.map_append, ← noted] at handlers
  refine ⟨noted, ?_⟩
  rw [one_handler_of_perm interface _ handlers, List.map_eq_nil_iff, List.filter_eq_nil_iff]
  simp

def handling : Node :=
  (Node.interfaceOf "Handler" []).withChild (Node.operationOf "handleEvent")

def handlingAsText : Node :=
  (Node.interfaceOf "Handler" []).withChild (Node.stringifierOf (Node.operationOf "handleEvent"))

theorem handler_beside_stringifier :
    ∃ interface, ofNode (handling.withChild (Node.stringifierOf (Node.operationOf "toString"))) =
        .ok interface ∧
      interface.operations.map (·.name) = [some "handleEvent", some "toString"] ∧
      interface.OneHandler ∧ interface.handleEvent = interface.operations.head? := by
  obtain ⟨interface, built⟩ : ∃ interface,
    ofNode (handling.withChild (Node.stringifierOf (Node.operationOf "toString"))) =
      .ok interface := ⟨_, rfl⟩
  have one := (one_handler_iff _ interface built).2.mpr (by decide)
  cases built
  exact ⟨_, rfl, rfl, one, rfl⟩

theorem handler_of_stringifier_uncounted :
    (∃ interface, ofNode (handling.withChild
          (Node.stringifierOf (Node.operationOf "handleEvent"))) = .ok interface ∧
        interface.operations.map (·.name) = [some "handleEvent", some "handleEvent"] ∧
        ¬ interface.OneHandler) ∧
      ∃ interface, ofNode handlingAsText = .ok interface ∧
        interface.operations.map (·.name) = [some "handleEvent"] ∧
        interface.handleEvent = none ∧ ¬ interface.OneHandler := by
  refine ⟨⟨_, rfl, rfl, fun one => ?_⟩, ⟨_, rfl, rfl, rfl, fun one => ?_⟩⟩
  · exact absurd one.atMost (by decide)
  · cases one.noted _ List.mem_cons_self rfl

end Interface

end WebIdl
