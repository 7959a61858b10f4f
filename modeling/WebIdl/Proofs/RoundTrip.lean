import WebIdl.Proofs.NodeText

set_option autoImplicit false

namespace WebIdl.Node

open Json (Bytes Result written)

theorem depth_eq (node : Node) :
    node.toJson.depth =
      max (Json.depthOfMembers (propertiesMember node.properties))
        (Json.depthOfMembers (childrenMember node.children)) + 1 := by
  obtain ⟨kind, name, properties, children⟩ := node
  have flat : Json.depthOfMembers ([("class", .string kind)] ++ nameMember name) = 0 := by
    cases name <;> rfl
  rw [toJson, Json.depth, Json.depth_of_members_append, Json.depth_of_members_append, flat,
    Nat.zero_max]

theorem child_depth (children : List Node) (child : Node) (member : child ∈ children) :
    child.toJson.depth < Json.depthOfMembers (childrenMember children) := by
  have within := Json.depth_of_item (children.map toJson) child.toJson (List.mem_map_of_mem member)
  cases children with
  | nil => cases member
  | cons first rest =>
      rw [childrenMember, to_jsons_eq]
      exact Nat.lt_of_lt_of_le (Nat.lt_succ_of_le within) (Nat.le_max_left _ _)

theorem levels_read : ∀ (levels : Nat) (node : Node), node.toJson.depth ≤ levels →
    Reads (readLevels levels) (written node.toJson) node
  | 0, node, deep => by
      rw [depth_eq] at deep
      cases deep
  | 1, node, deep => by
      rw [depth_eq, Nat.succ_le_succ_iff, Nat.max_le] at deep
      have childless : ∀ child, child ∉ node.children := fun child member =>
        absurd (Nat.lt_of_lt_of_le (child_depth node.children child member) deep.2)
          (Nat.not_lt_zero _)
      exact open_reads 0 _ node deep.1
        (fun some => absurd (List.eq_nil_iff_forall_not_mem.mpr childless) some)
        (fun child member => absurd member (childless child))
  | levels + 2, node, deep => by
      rw [depth_eq, Nat.succ_le_succ_iff, Nat.max_le] at deep
      refine open_reads (levels + 1) _ node deep.1 (fun _ => Nat.succ_ne_zero levels) ?_
      intro child member
      have shallow := Nat.lt_of_lt_of_le (child_depth node.children child member) deep.2
      exact levels_read levels child (Nat.le_of_lt_succ shallow)

theorem written_members (node : Node) :
    ∃ members, node.toJson = .object members ∧
      ("name" ∈ members.map (·.1) ↔ node.name ≠ none) ∧
      ("properties" ∈ members.map (·.1) ↔ node.properties ≠ .empty) ∧
      ("children" ∈ members.map (·.1) ↔ node.children ≠ []) := by
  obtain ⟨kind, name, properties, children⟩ := node
  have filled : properties ≠ .empty ↔ properties.isEmpty = false := by
    rw [ne_eq, ← Table.is_empty_iff, Bool.not_eq_true]
  refine ⟨_, rfl, ?_⟩
  cases name <;> cases none : properties.isEmpty <;> cases children <;>
    simp [nameMember, propertiesMember, childrenMember, filled, none]

theorem write_read_before (node : Node) (shallow : node.toJson.depth ≤ depthLimit) (rest : Bytes) :
    readBytes (node.write.toUTF8.toList ++ rest) = .ok node := by
  rw [readBytes]
  exact congrArg (Except.map (·.1)) (levels_read depthLimit node shallow rest)

theorem read_write (node : Node) (shallow : node.toJson.depth ≤ depthLimit) :
    read node.write = .ok node := by
  rw [read, ← List.append_nil node.write.toUTF8.toList]
  exact write_read_before node shallow []

theorem write_read (node : Node) (shallow : node.toJson.depth ≤ depthLimit) :
    read node.write = .ok node ∧
      (∀ rest, readBytes (node.write.toUTF8.toList ++ rest) = .ok node) ∧
      ∃ members, node.toJson = .object members ∧
        ("name" ∈ members.map (·.1) ↔ node.name ≠ none) ∧
        ("properties" ∈ members.map (·.1) ↔ node.properties ≠ .empty) ∧
        ("children" ∈ members.map (·.1) ↔ node.children ≠ []) :=
  ⟨read_write node shallow, write_read_before node shallow, written_members node⟩

def lookalikes : Node :=
  (((((((leaf "File").named "").withProperty "NONE" (.list [])).withProperty "EMPTY"
    (.text "")).withProperty "WORD" (.text "true")).withProperty "FLAG" (.flag true)).withProperty
      "TEXTS" (.list ["a \"quoted\" \\ line\n\u0001", "é😀"])).withChild
        ((leaf "Interface").named "Foo")

theorem lookalikes_read_back :
    lookalikes.toJson.depth ≤ depthLimit ∧ read lookalikes.write = .ok lookalikes := by
  have shallow : lookalikes.toJson.depth ≤ depthLimit := by decide
  exact ⟨shallow, (write_read lookalikes shallow).1⟩

end WebIdl.Node
