import WebIdl.Definitions.OfNode
import WebIdl.Proofs.InterfaceDraft

set_option autoImplicit false

namespace WebIdl

inductive Declaration where
  | interface (value : Interface)
  | dictionary (value : Dictionary)
  | enumeration (value : Enumeration)
  | typedef (value : Typedef)
  | callback (value : Callback)

inductive Declaration.Class where
  | interface
  | dictionary
  | enumeration
  | typedef
  | callback
deriving DecidableEq

namespace Declaration

def cls : Declaration → Class
  | .interface _ => .interface
  | .dictionary _ => .dictionary
  | .enumeration _ => .enumeration
  | .typedef _ => .typedef
  | .callback _ => .callback

def name : Declaration → String
  | .interface value => value.name
  | .dictionary value => value.name
  | .enumeration value => value.name
  | .typedef value => value.name
  | .callback value => value.name

def standsAt (declaration : Declaration) (cls : Class) (name : String) : Bool :=
  declaration.cls == cls && declaration.name == name

def ofNode? (child : Node) : Option Declaration :=
  match child.kind with
  | "Interface" => (Interface.ofNode child).toOption.map .interface
  | "Typedef" => (Typedef.ofNode child).toOption.map .typedef
  | "Enum" => (Enumeration.ofNode child).toOption.map .enumeration
  | "Callback" => (Callback.ofNode child).toOption.map .callback
  | "Dictionary" => (Dictionary.ofNode child).toOption.map .dictionary
  | _ => none

theorem of_node_inclusion (child : Node) (kind : child.kind = "Includes") :
    ofNode? child = none := by
  simp only [ofNode?, kind]
  rfl

def Reads (child : Node) : Declaration → Prop
  | .interface value => Interface.ofNode child = .ok value
  | .dictionary value => Dictionary.ofNode child = .ok value
  | .enumeration value => Enumeration.ofNode child = .ok value
  | .typedef value => Typedef.ofNode child = .ok value
  | .callback value => Callback.ofNode child = .ok value

theorem of_node_reads (child : Node) (declaration : Declaration)
    (read : ofNode? child = some declaration) : Reads child declaration := by
  unfold ofNode? at read
  split at read
  case h_6 => cases read
  all_goals
    obtain ⟨value, made, rfl⟩ := Option.map_eq_some_iff.mp read
    exact (to_option_eq_some_iff _ value).mp made

theorem of_node_interface (child : Node) (interface : Interface)
    (read : ofNode? child = some (.interface interface)) : child.kind = "Interface" := by
  unfold ofNode? at read
  split at read
  case h_1 kind => exact kind
  case h_6 => cases read
  all_goals
    obtain ⟨_, _, other⟩ := Option.map_eq_some_iff.mp read
    cases other

end Declaration

namespace Definitions

def put (definitions : Definitions) : Declaration → Definitions
  | .interface value => definitions.addInterface value
  | .dictionary value => definitions.addDictionary value
  | .enumeration value =>
      { definitions with enumerations := definitions.enumerations.insert value.name value }
  | .typedef value => { definitions with typedefs := definitions.typedefs.insert value.name value }
  | .callback value =>
      { definitions with callbacks := definitions.callbacks.insert value.name value }

def standing (definitions : Definitions) (name : String) : Declaration.Class → Option Declaration
  | .interface => (definitions.interfaces.get? name).map .interface
  | .dictionary => (definitions.dictionaries.get? name).map .dictionary
  | .enumeration => (definitions.enumerations.get? name).map .enumeration
  | .typedef => (definitions.typedefs.get? name).map .typedef
  | .callback => (definitions.callbacks.get? name).map .callback

inductive Taken (definitions : Definitions) (child : Node) : Definitions → Prop
  | declaration (declaration : Declaration) (read : Declaration.ofNode? child = some declaration) :
      Taken definitions child (definitions.put declaration)
  | inclusion (inclusion : Include) (kind : child.kind = "Includes")
      (read : Include.ofNode child = .ok inclusion) :
      Taken definitions child { definitions with includes := definitions.includes ++ [inclusion] }

theorem take_taken (definitions next : Definitions) (child : Node)
    (taken : definitions.take child = .ok next) : Taken definitions child next := by
  unfold take at taken
  split at taken
  case h_1 kind =>
    obtain ⟨value, read, rfl⟩ := (map_ok_iff _ _ _).mp taken
    exact .declaration (.interface value) (by simp only [Declaration.ofNode?, kind, read]; rfl)
  case h_2 kind =>
    obtain ⟨value, read, rfl⟩ := (map_ok_iff _ _ _).mp taken
    exact .declaration (.typedef value) (by simp only [Declaration.ofNode?, kind, read]; rfl)
  case h_3 kind =>
    obtain ⟨value, read, rfl⟩ := (map_ok_iff _ _ _).mp taken
    exact .declaration (.enumeration value) (by simp only [Declaration.ofNode?, kind, read]; rfl)
  case h_4 kind =>
    obtain ⟨value, read, rfl⟩ := (map_ok_iff _ _ _).mp taken
    exact .declaration (.callback value) (by simp only [Declaration.ofNode?, kind, read]; rfl)
  case h_5 kind =>
    obtain ⟨value, read, rfl⟩ := (map_ok_iff _ _ _).mp taken
    exact .inclusion value kind read
  case h_6 kind =>
    obtain ⟨value, read, rfl⟩ := (map_ok_iff _ _ _).mp taken
    exact .declaration (.dictionary value) (by simp only [Declaration.ofNode?, kind, read]; rfl)
  case h_7 => cases taken

theorem take_all_keeps (holds : Definitions → Prop)
    (kept : ∀ definitions child next, Taken definitions child next → holds definitions →
      holds next)
    (definitions final : Definitions) (children : List Node)
    (taken : definitions.takeAll children = .ok final) (start : holds definitions) :
    holds final := by
  induction children generalizing definitions with
  | nil =>
      cases taken
      exact start
  | cons child rest ih =>
      obtain ⟨next, first, later⟩ := (bind_ok_iff _ _ _).mp taken
      exact ih next later (kept definitions child next (take_taken _ next child first) start)

theorem standing_put (definitions : Definitions) (declaration : Declaration) (name : String)
    (cls : Declaration.Class) :
    (definitions.put declaration).standing name cls =
      if declaration.standsAt cls name then some declaration
      else definitions.standing name cls := by
  cases declaration <;> cases cls <;>
    simp [put, standing, Declaration.standsAt, Declaration.cls, Declaration.name, addInterface,
      addDictionary, noteFirst, Table.get_insert, apply_ite (Option.map _)]

theorem standing_take_all (definitions final : Definitions) (children : List Node)
    (taken : definitions.takeAll children = .ok final) (name : String) (cls : Declaration.Class) :
    final.standing name cls =
      (((children.filterMap Declaration.ofNode?).filter (·.standsAt cls name)).getLast?).or
        (definitions.standing name cls) := by
  induction children generalizing definitions with
  | nil =>
      cases taken
      rfl
  | cons child rest ih =>
      obtain ⟨next, first, later⟩ := (bind_ok_iff _ _ _).mp taken
      rw [ih next later]
      cases take_taken definitions next child first with
      | declaration declaration read =>
          rw [List.filterMap_cons_some read, standing_put]
          by_cases hit : declaration.standsAt cls name = true
          · simp only [List.filter_cons, hit, if_true, List.getLast?_cons]
            cases ((rest.filterMap Declaration.ofNode?).filter
              (·.standsAt cls name)).getLast? <;> rfl
          · simp only [List.filter_cons, hit, Bool.false_eq_true, if_false]
      | inclusion inclusion kind read =>
          rw [List.filterMap_cons_none (Declaration.of_node_inclusion child kind)]
          cases cls <;> rfl

theorem of_node_ok_iff (root : Node) (definitions : Definitions) :
    ofNode root = .ok definitions ↔
      root.kind = "File" ∧
        takeAll { empty with filePath := root.text? "FILENAME" } root.children =
          .ok definitions := by
  unfold ofNode
  by_cases file : root.kind = "File" <;> simp [file]

theorem standing_of_node (root : Node) (definitions : Definitions)
    (built : ofNode root = .ok definitions) (name : String) (cls : Declaration.Class) :
    definitions.standing name cls =
      ((root.children.filterMap Declaration.ofNode?).filter (·.standsAt cls name)).getLast? := by
  obtain ⟨_, taken⟩ := (of_node_ok_iff root definitions).mp built
  have nothing :
      ({ empty with filePath := root.text? "FILENAME" } : Definitions).standing name cls = none := by
    cases cls <;> rfl
  rw [standing_take_all _ definitions root.children taken, nothing, Option.or_none]

theorem standing_declared (root : Node) (definitions : Definitions)
    (built : ofNode root = .ok definitions) (name : String) (cls : Declaration.Class)
    (declaration : Declaration) (stands : definitions.standing name cls = some declaration) :
    declaration.name = name ∧
      ∃ child ∈ root.children, Declaration.ofNode? child = some declaration := by
  rw [standing_of_node root definitions built] at stands
  obtain ⟨member, hit⟩ := List.mem_filter.mp (List.mem_of_getLast? stands)
  have same := (Bool.and_eq_true_iff.mp hit).2
  exact ⟨eq_of_beq same, List.mem_filterMap.mp member⟩

theorem standing_read (root : Node) (definitions : Definitions)
    (built : ofNode root = .ok definitions) (name : String) (cls : Declaration.Class)
    (declaration : Declaration) (stands : definitions.standing name cls = some declaration) :
    declaration.name = name ∧ ∃ child ∈ root.children, Declaration.Reads child declaration := by
  obtain ⟨named, child, member, read⟩ :=
    standing_declared root definitions built name cls declaration stands
  exact ⟨named, child, member, Declaration.of_node_reads child declaration read⟩

theorem interface_declared (root : Node) (definitions : Definitions)
    (built : ofNode root = .ok definitions) (name : String) (interface : Interface)
    (found : definitions.interfaces.get? name = some interface) :
    interface.name = name ∧ ∃ child ∈ root.children, child.kind = "Interface" ∧
      Interface.ofNode child = .ok interface := by
  have stands : definitions.standing name .interface = some (.interface interface) := by
    simp only [standing, found, Option.map_some]
  obtain ⟨named, child, member, read⟩ :=
    standing_declared root definitions built name .interface _ stands
  exact ⟨named, child, member, Declaration.of_node_interface child interface read,
    Declaration.of_node_reads child _ read⟩

end Definitions

end WebIdl
