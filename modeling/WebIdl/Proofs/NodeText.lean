import WebIdl.Node.Writer
import WebIdl.Proofs.JsonText

set_option autoImplicit false

namespace WebIdl

namespace Json

mutual
def depth : Json → Nat
  | .null => 0
  | .bool _ => 0
  | .int _ => 0
  | .float _ => 0
  | .string _ => 0
  | .array items => depthOfItems items + 1
  | .object members => depthOfMembers members + 1
termination_by structural value => value
def depthOfItems : List Json → Nat
  | [] => 0
  | item :: rest => max (depth item) (depthOfItems rest)
termination_by structural items => items
def depthOfMembers : List (String × Json) → Nat
  | [] => 0
  | member :: rest => max (depthOfMember member) (depthOfMembers rest)
termination_by structural members => members
def depthOfMember : String × Json → Nat
  | (_, value) => depth value
termination_by structural member => member
end

theorem depth_of_item (items : List Json) (item : Json) (member : item ∈ items) :
    item.depth ≤ depthOfItems items := by
  induction items with
  | nil => cases member
  | cons first rest ih =>
      rw [depthOfItems]
      rcases List.mem_cons.mp member with rfl | later
      · exact Nat.le_max_left _ _
      · exact Nat.le_trans (ih later) (Nat.le_max_right _ _)

theorem depth_of_members_append (front back : List (String × Json)) :
    depthOfMembers (front ++ back) = max (depthOfMembers front) (depthOfMembers back) := by
  induction front with
  | nil => exact (Nat.zero_max _).symm
  | cons first rest ih => rw [List.cons_append, depthOfMembers, ih, depthOfMembers, Nat.max_assoc]

end Json

namespace Node

open Json (Bytes Result written)

theorem string_opens (text : String) : Opens (written (.string text)) :=
  ⟨0x22, Json.quoted text, Json.written_string text, rfl, by decide⟩

theorem read_text_quote (inside : Bytes) :
    readText (0x22 :: inside) = Json.here (Json.readString inside) := rfl

theorem read_name_quote (inside : Bytes) :
    readName (0x22 :: inside) = (do
      let (text, rest) ← readText (0x22 :: inside)
      return (some text, rest)) := rfl

theorem content_quote (levels : Nat) (inside : Bytes) :
    readContent levels (0x22 :: inside) =
      Json.here ((Json.readString inside).map fun read => (.text read.1, read.2)) := by
  rw [readContent]
  rfl

theorem content_bracket (levels : Nat) (inside : Bytes) :
    readContent (levels + 1) (0x5B :: inside) = (do
      let (items, rest) ← readListBody (readContent levels) inside
      return (.list items, rest)) := by
  rw [readContent]
  rfl

theorem text_reads (text : String) : Reads readText (written (.string text)) text := by
  intro rest
  rw [Json.written_string, List.cons_append, read_text_quote, Json.quoted_read]
  rfl

theorem name_reads (name : String) : Reads readName (written (.string name)) (some name) := by
  intro rest
  have text := text_reads name rest
  rw [Json.written_string, List.cons_append] at text ⊢
  rw [read_name_quote, text]
  rfl

theorem text_content (levels : Nat) (text : String) :
    Reads (readContent levels) (written (.string text)) (.text text) := by
  intro rest
  rw [Json.written_string, List.cons_append, content_quote, Json.quoted_read]
  rfl

theorem flag_content (levels : Nat) (flag : Bool) :
    Reads (readContent levels) (written (.bool flag)) (.flag flag) := by
  intro rest
  cases flag with
  | true =>
      rw [Json.written_true, readContent]
      rfl
  | false =>
      rw [Json.written_false, readContent]
      rfl

theorem list_content (levels : Nat) (items : List String) :
    Reads (readContent (levels + 1)) (written (.array (items.map .string)))
      (.list (items.map .text)) := by
  intro rest
  have body := list_body_read (readContent levels) (written ∘ Json.string) .text items
    (fun item _ => ⟨string_opens item, text_content levels item⟩) rest
  rw [Json.written_array, List.map_map, List.append_assoc, List.cons_append, content_bracket,
    List.singleton_append, body]
  rfl

theorem texts_of_texts (items : List String) : Content.texts (items.map .text) = some items := by
  induction items with
  | nil => rfl
  | cons item rest ih => rw [List.map_cons, Content.texts, ih, Option.map_some]

theorem property_content (levels : Nat) (value : PropertyValue)
    (deep : value.toJson.depth ≤ levels) :
    ∃ content, Reads (readContent levels) (written value.toJson) content ∧
      content.toProperty = some value := by
  cases value with
  | flag flag => exact ⟨_, flag_content levels flag, rfl⟩
  | text text => exact ⟨_, text_content levels text, rfl⟩
  | list items =>
      obtain ⟨levels, rfl⟩ := Nat.exists_eq_succ_of_ne_zero (Nat.ne_of_gt (Nat.zero_lt_of_lt deep))
      refine ⟨_, list_content levels items, ?_⟩
      rw [Content.toProperty, texts_of_texts, Option.map_some]

theorem property_reads (levels : Nat) (value : PropertyValue)
    (deep : value.toJson.depth ≤ levels) :
    Reads (readProperty levels) (written value.toJson) value := by
  intro rest
  obtain ⟨content, reads, same⟩ := property_content levels value deep
  rw [readProperty, reads rest]
  simp only [bind, Except.bind, same, pure, Except.pure]

def propertyMembers (entries : List (String × PropertyValue)) : List (String × Json) :=
  entries.map fun (key, value) => (key, value.toJson)

theorem property_members_fold (levels : Nat) (table : Table PropertyValue)
    (entries : List (String × PropertyValue))
    (deep : Json.depthOfMembers (propertyMembers entries) ≤ levels) :
    Folds (fun (table : Table PropertyValue) key rest => do
        let (value, rest) ← readValue key (readProperty levels) rest
        return (table.insert key value, rest))
      table (propertyMembers entries) (table.insertAll entries) := by
  induction entries generalizing table with
  | nil => exact .nil table
  | cons entry rest ih =>
      obtain ⟨first, later⟩ := Nat.max_le.mp deep
      refine .cons table (table.insert entry.1 entry.2) _ _ _ _ ?_ (ih _ later)
      intro behind
      dsimp only
      rw [value_reads entry.1 _ _ _ (property_reads levels entry.2 first) behind]
      rfl

theorem properties_read (levels : Nat) (properties : Table PropertyValue)
    (deep : (Json.object (propertyMembers properties.entries)).depth ≤ levels) :
    Reads (readProperties levels) (written (.object (propertyMembers properties.entries)))
      properties := by
  intro rest
  obtain ⟨levels, rfl⟩ := Nat.exists_eq_succ_of_ne_zero (Nat.ne_of_gt (Nat.zero_lt_of_lt deep))
  have folds := property_members_fold levels .empty properties.entries (Nat.le_of_succ_le_succ deep)
  have body := object_body_read _ _ _ _ folds rest
  rw [Table.empty_insert_all properties] at body
  rw [Json.written_object, List.append_assoc, List.cons_append, List.singleton_append]
  exact body

theorem to_jsons_eq (nodes : List Node) : toJsons nodes = nodes.map toJson := by
  induction nodes with
  | nil => rfl
  | cons node rest ih => rw [toJsons, ih, List.map_cons]

theorem node_opens (node : Node) : Opens (written node.toJson) := by
  obtain ⟨kind, name, properties, children⟩ := node
  rw [toJson, Json.written_object]
  exact ⟨0x7B, _, rfl, rfl, by decide⟩

section Fields

variable (levels : Nat) (child : Bytes → Result (Node × Bytes)) (fields : Fields)

theorem class_read (kind : String) (fresh : fields.kind = none) :
    Reads (readField levels child fields "class") (0x3A :: written (.string kind))
      { fields with kind := some kind } := by
  intro rest
  rw [readField, if_pos rfl, fresh, value_reads "class" _ _ _ (text_reads kind) rest]
  rfl

theorem name_read (name : String) (fresh : fields.name = none) :
    Reads (readField levels child fields "name") (0x3A :: written (.string name))
      { fields with name := some (some name) } := by
  intro rest
  rw [readField, if_neg (by decide), if_pos rfl, fresh,
    value_reads "name" _ _ _ (name_reads name) rest]
  rfl

theorem properties_member_read (properties : Table PropertyValue)
    (deep : (Json.object (propertyMembers properties.entries)).depth ≤ levels)
    (fresh : fields.properties = none) :
    Reads (readField levels child fields "properties")
      (0x3A :: written (.object (propertyMembers properties.entries)))
      { fields with properties := some properties } := by
  intro rest
  rw [readField, if_neg (by decide), if_neg (by decide), if_pos rfl, fresh,
    value_reads "properties" _ _ _ (properties_read levels properties deep) rest]
  rfl

theorem children_read (children : List Node) (room : levels ≠ 0)
    (each : ∀ node ∈ children, Reads child (written node.toJson) node) :
    Reads (readChildren levels child) (written (.array (children.map toJson))) children := by
  intro rest
  obtain ⟨levels, rfl⟩ := Nat.exists_eq_succ_of_ne_zero room
  have body := list_body_read child (written ∘ toJson) id children
    (fun node member => ⟨node_opens node, each node member⟩) rest
  rw [List.map_id] at body
  rw [Json.written_array, List.map_map, List.append_assoc, List.cons_append, List.singleton_append]
  exact body

theorem children_member_read (children : List Node) (room : levels ≠ 0)
    (each : ∀ node ∈ children, Reads child (written node.toJson) node)
    (fresh : fields.children = none) :
    Reads (readField levels child fields "children")
      (0x3A :: written (.array (children.map toJson)))
      { fields with children := some children } := by
  intro rest
  rw [readField, if_neg (by decide), if_neg (by decide), if_neg (by decide), if_pos rfl, fresh,
    value_reads "children" _ _ _ (children_read levels child children room each) rest]
  rfl

theorem name_member_folds (name : Option String) (fresh : fields.name = none) :
    ∃ found : Option (Option String), found.getD none = name ∧
      Folds (readField levels child) fields (nameMember name) { fields with name := found } := by
  cases name with
  | none => exact ⟨none, rfl, fresh ▸ .nil fields⟩
  | some name =>
      exact ⟨some (some name), rfl,
        .cons fields _ _ "name" _ [] (name_read levels child fields name fresh) (.nil _)⟩

theorem properties_member_folds (properties : Table PropertyValue)
    (deep : Json.depthOfMembers (propertiesMember properties) ≤ levels)
    (fresh : fields.properties = none) :
    ∃ found : Option (Table PropertyValue), found.getD .empty = properties ∧
      Folds (readField levels child) fields (propertiesMember properties)
        { fields with properties := found } := by
  unfold propertiesMember at deep ⊢
  split
  · rename_i none
    have empty : properties = .empty := (Table.is_empty_iff properties).mp none
    exact ⟨.none, empty.symm, fresh ▸ .nil fields⟩
  · rename_i some
    rw [if_neg some] at deep
    have within := Nat.le_trans (Nat.le_max_left _ _) deep
    exact ⟨.some properties, rfl,
      .cons fields _ _ "properties" _ []
        (properties_member_read levels child fields properties within fresh) (.nil _)⟩

theorem children_member_folds (children : List Node) (room : children ≠ [] → levels ≠ 0)
    (each : ∀ node ∈ children, Reads child (written node.toJson) node)
    (fresh : fields.children = none) :
    ∃ found : Option (List Node), found.getD [] = children ∧
      Folds (readField levels child) fields (childrenMember children)
        { fields with children := found } := by
  cases children with
  | nil => exact ⟨none, rfl, fresh ▸ .nil fields⟩
  | cons first rest =>
      refine ⟨some (first :: rest), rfl, .cons fields _ _ "children" _ [] ?_ (.nil _)⟩
      rw [to_jsons_eq]
      exact children_member_read levels child fields (first :: rest) (room (List.cons_ne_nil _ _))
        each fresh

end Fields

theorem members_fold (levels : Nat) (child : Bytes → Result (Node × Bytes)) (node : Node)
    (deep : Json.depthOfMembers (propertiesMember node.properties) ≤ levels)
    (room : node.children ≠ [] → levels ≠ 0)
    (each : ∀ below ∈ node.children, Reads child (written below.toJson) below) :
    ∃ fields members, node.toJson = .object members ∧
      Folds (readField levels child) .empty members fields ∧ fields.toNode = .ok node := by
  obtain ⟨kind, name, properties, children⟩ := node
  have first : Folds (readField levels child) .empty [("class", .string kind)]
      ⟨some kind, none, none, none⟩ :=
    .cons _ _ _ "class" _ [] (class_read levels child .empty kind rfl) (.nil _)
  obtain ⟨ownName, sameName, second⟩ :=
    name_member_folds levels child ⟨some kind, none, none, none⟩ name rfl
  obtain ⟨ownProperties, sameProperties, third⟩ :=
    properties_member_folds levels child ⟨some kind, ownName, none, none⟩ properties deep rfl
  obtain ⟨ownChildren, sameChildren, fourth⟩ :=
    children_member_folds levels child ⟨some kind, ownName, ownProperties, none⟩ children room each
      rfl
  refine ⟨_, _, rfl, folds_append _ _ _ _ _ _ (folds_append _ _ _ _ _ _
    (folds_append _ _ _ _ _ _ first second) third) fourth, ?_⟩
  rw [Fields.toNode]
  dsimp only
  rw [sameName, sameProperties, sameChildren]

theorem open_reads (levels : Nat) (child : Bytes → Result (Node × Bytes)) (node : Node)
    (deep : Json.depthOfMembers (propertiesMember node.properties) ≤ levels)
    (room : node.children ≠ [] → levels ≠ 0)
    (each : ∀ below ∈ node.children, Reads child (written below.toJson) below) :
    Reads (readOpen levels child) (written node.toJson) node := by
  intro rest
  obtain ⟨fields, members, whole, folds, same⟩ :=
    members_fold levels child node deep room each
  have brace : ∀ inside : Bytes,
    readOpen levels child (0x7B :: inside) = readObject levels child inside := fun _ => rfl
  rw [whole, Json.written_object, List.append_assoc, List.cons_append, List.singleton_append, brace,
    readObject, members_read _ _ _ _ folds _ (by rw [List.length_append]; omega) rest]
  simp only [bind, Except.bind, same, Json.here, pure, Except.pure]
  rfl

end Node

end WebIdl
