import WebIdl.Proofs.Declarations

set_option autoImplicit false

namespace WebIdl

namespace Declaration

-- All that one declaration declares, another one of its class declares as well.
def Within : Declaration → Declaration → Prop
  | .interface part, .interface whole =>
      part.attributes.list ⊆ whole.attributes.list ∧ part.operations ⊆ whole.operations ∧
        part.constants ⊆ whole.constants ∧ part.constructors ⊆ whole.constructors ∧
        part.customConstructors ⊆ whole.customConstructors
  | .dictionary part, .dictionary whole => part.members ⊆ whole.members
  | .enumeration part, .enumeration whole => part.values ⊆ whole.values
  | .typedef part, .typedef whole => part.members ⊆ whole.members
  | .callback part, .callback whole => whole = part
  | _, _ => False

theorem within_self (declaration : Declaration) : declaration.Within declaration := by
  cases declaration with
  | interface => exact ⟨fun _ => id, fun _ => id, fun _ => id, fun _ => id, fun _ => id⟩
  | dictionary => exact fun _ => id
  | enumeration => exact fun _ => id
  | typedef => exact fun _ => id
  | callback => rfl

theorem stands_at_own (declaration : Declaration) :
    declaration.standsAt declaration.cls declaration.name = true := by
  simp [standsAt]

end Declaration

namespace Definitions

def declarations (root : Node) : List Declaration := root.children.filterMap Declaration.ofNode?

def Keeps (definitions : Definitions) (declaration : Declaration) : Prop :=
  ∃ stands, definitions.standing declaration.name declaration.cls = some stands ∧
    declaration.Within stands

theorem take_all_declares (definitions final : Definitions) (children : List Node)
    (taken : definitions.takeAll children = .ok final) (child : Node) (member : child ∈ children)
    (other : child.kind ≠ "Includes") :
    ∃ declaration, Declaration.ofNode? child = some declaration := by
  induction children generalizing definitions with
  | nil => cases member
  | cons head rest ih =>
      obtain ⟨next, first, later⟩ := (bind_ok_iff _ _ _).mp taken
      rcases List.mem_cons.mp member with rfl | member
      · cases take_taken definitions next child first with
        | declaration declaration read => exact ⟨declaration, read⟩
        | inclusion _ kind => exact absurd kind other
      · exact ih next later member

theorem standing_at (root : Node) (definitions : Definitions)
    (built : ofNode root = .ok definitions) (front rest : List Declaration)
    (declaration : Declaration) (split : declarations root = front ++ declaration :: rest) :
    definitions.standing declaration.name declaration.cls =
      some (((rest.filter (·.standsAt declaration.cls declaration.name)).getLast?).getD
        declaration) := by
  have own : (declaration :: rest).filter (·.standsAt declaration.cls declaration.name) =
      declaration :: rest.filter (·.standsAt declaration.cls declaration.name) :=
    List.filter_cons_of_pos declaration.stands_at_own
  rw [standing_of_node root definitions built, ← declarations, split, List.filter_append, own,
    List.getLast?_append, List.getLast?_cons]
  rfl

theorem declarations_kept_iff (root : Node) (definitions : Definitions)
    (built : ofNode root = .ok definitions) :
    (∀ child ∈ root.children, child.kind ≠ "Includes" →
      ∃ declaration ∈ declarations root, Declaration.ofNode? child = some declaration) ∧
    ∀ front declaration rest, declarations root = front ++ declaration :: rest →
      (definitions.Keeps declaration ↔
        ∀ last, (rest.filter (·.standsAt declaration.cls declaration.name)).getLast? = some last →
          declaration.Within last) := by
  constructor
  · intro child member other
    obtain ⟨_, taken⟩ := (of_node_ok_iff root definitions).mp built
    obtain ⟨declaration, read⟩ := take_all_declares _ definitions _ taken child member other
    exact ⟨declaration, List.mem_filterMap.mpr ⟨child, member, read⟩, read⟩
  · intro front declaration rest split
    have stands := standing_at root definitions built front rest declaration split
    unfold Keeps
    rw [stands]
    cases later : (rest.filter (·.standsAt declaration.cls declaration.name)).getLast? with
    | none => simp [declaration.within_self]
    | some last => simp

theorem repeated_declaration_kept :
    ∃ definitions first,
      ofNode (Node.fileOf [Node.interfaceOf "Foo" ["x"],
        (Node.interfaceOf "Foo" ["y", "x"]).asPartial]) = .ok definitions ∧
      Declaration.ofNode? (Node.interfaceOf "Foo" ["x"]) = some first ∧
      definitions.Keeps first := by
  obtain ⟨definitions, built⟩ : ∃ definitions, ofNode (Node.fileOf [Node.interfaceOf "Foo" ["x"],
    (Node.interfaceOf "Foo" ["y", "x"]).asPartial]) = .ok definitions := ⟨_, rfl⟩
  have kept := (declarations_kept_iff _ definitions built).2 [] _ _ rfl
  refine ⟨definitions, _, built, rfl, kept.mpr ?_⟩
  rintro _ ⟨⟩
  refine ⟨?_, List.nil_subset _, List.nil_subset _, List.nil_subset _, List.nil_subset _⟩
  rintro item (_ | ⟨_, ⟨⟩⟩)
  exact .tail _ (.head _)

theorem base_lost_to_fragment :
    ∃ definitions base,
      ofNode (Node.fileOf [Node.interfaceOf "Foo" ["x"],
        (Node.interfaceOf "Foo" ["y"]).asPartial]) = .ok definitions ∧
      Declaration.ofNode? (Node.interfaceOf "Foo" ["x"]) = some base ∧
      ¬ definitions.Keeps base := by
  refine ⟨_, _, rfl, rfl, ?_⟩
  rintro ⟨_, ⟨⟩, within, _⟩
  have same := congrArg Attribute.name (List.mem_singleton.mp (within (.head _)))
  exact absurd same (by decide)

end Definitions

end WebIdl
