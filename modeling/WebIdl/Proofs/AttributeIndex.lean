import Mathlib.Data.List.Basic
import Mathlib.Data.List.Induction
import WebIdl.Interface.Merge

set_option autoImplicit false

namespace WebIdl.AttributeTable

theorem position_below (items : List Attribute) (test : Attribute → Bool) (position : Nat)
    (member : position ∈ positions items test) : position < items.length := by
  simpa using (List.mem_filter.mp member).1

theorem select_positions (items : List Attribute) (test : Attribute → Bool) :
    (positions items test).filterMap (fun position => items[position]?) = items.filter test := by
  induction items using List.reverseRecOn with
  | nil => rfl
  | append_singleton items item ih =>
      have earlier : (positions items test).filterMap
          (fun position => (items ++ [item])[position]?) = items.filter test := by
        rw [← ih]
        apply List.filterMap_congr
        intro position member
        exact List.getElem?_append_left (position_below items test position member)
      rw [positions_push, List.filterMap_append, List.filter_append, earlier]
      by_cases passes : test item = true <;> simp [passes]

theorem positions_eq_nil_iff (items : List Attribute) (test : Attribute → Bool) :
    positions items test = [] ↔ items.filter test = [] := by
  rw [← select_positions]
  constructor
  · intro nowhere
    rw [nowhere, List.filterMap_nil]
  · intro selected
    apply List.eq_nil_iff_forall_not_mem.mpr
    intro position member
    have missing := List.getElem?_eq_none_iff.mp
      (List.filterMap_eq_nil_iff.mp selected position member)
    have below := position_below items test position member
    omega

theorem push_list (table : AttributeTable) (item : Attribute) :
    (table.push item).list = table.list ++ [item] := rfl

theorem push_all_list (table : AttributeTable) (items : List Attribute) :
    (table.pushAll items).list = table.list ++ items := by
  unfold pushAll
  induction items generalizing table with
  | nil => simp
  | cons item rest ih =>
      rw [List.foldl_cons, ih, push_list, List.append_assoc, List.singleton_append]

variable (table : AttributeTable)

theorem last_of_name_below (name : String) (position : Nat)
    (found : table.lastOfName.get? name = some position) : position < table.list.length := by
  rw [table.last] at found
  exact position_below _ _ position (List.mem_of_getLast? found)

theorem of_type_below (type : String) (found : List Nat)
    (present : table.ofType.get? type = some found) (position : Nat) (member : position ∈ found) :
    position < table.list.length := by
  have whole := Table.group_get (positions table.list (·.type.name == type))
  rw [← table.types, present, Option.getD_some] at whole
  exact position_below _ _ position (whole ▸ member)

theorem get_last (name : String) :
    table.get? name = (table.list.filter (·.name == name)).getLast? := by
  have selected := select_positions table.list (·.name == name)
  unfold get?
  rw [table.last, ← selected]
  rcases List.eq_nil_or_concat (positions table.list (·.name == name)) with none | ⟨front, last, eq⟩
  · rw [none]
    rfl
  · have below : last < table.list.length :=
      position_below table.list (·.name == name) last (by simp [eq])
    simp [eq, List.getElem?_eq_getElem below]

theorem contains_iff_member (name : String) :
    table.contains name = true ↔ ∃ item ∈ table.list, item.name = name := by
  unfold contains Table.contains
  rw [table.last, List.getLast?_isSome, ne_eq, positions_eq_nil_iff, List.filter_eq_nil_iff]
  simp

theorem with_type_filter (type : String) :
    table.withType type = table.list.filter (·.type.name == type) := by
  unfold withType
  rw [table.types, Table.group_get, select_positions]

theorem has_type_iff (type : String) : table.hasType type = true ↔ table.withType type ≠ [] := by
  unfold hasType Table.contains
  rw [with_type_filter, table.types, Table.group_is_some, ne_eq,
    positions_eq_nil_iff]

-- What callers see of a table: every question is answered as a search through the list answers it,
-- and no position in an index points past the end of the list.
structure AgreesWithList (table : AttributeTable) : Prop where
  lookup : ∀ name, table.get? name = (table.list.filter (·.name == name)).getLast?
  missing : ∀ name, table.get? name = none ↔ ∀ item ∈ table.list, item.name ≠ name
  nameInRange : ∀ name position, table.lastOfName.get? name = some position →
    position < table.list.length
  named : ∀ name, table.contains name = true ↔ ∃ item ∈ table.list, item.name = name
  ofType : ∀ type, table.withType type = table.list.filter (·.type.name == type)
  typeInRange : ∀ type positions, table.ofType.get? type = some positions →
    ∀ position ∈ positions, position < table.list.length
  typed : ∀ type, table.hasType type = true ↔ table.withType type ≠ []

end WebIdl.AttributeTable

namespace WebIdl.Interface

-- Reading, merging and inheriting come to attributes by `push` alone, and every push hands on what
-- ties the indexes to the list. So this holds of an interface however it was come by.
theorem attributes_agree (interface : Interface) : interface.attributes.AgreesWithList where
  lookup := interface.attributes.get_last
  missing name := by
    rw [AttributeTable.get_last, List.getLast?_eq_none_iff, List.filter_eq_nil_iff]
    simp
  nameInRange := interface.attributes.last_of_name_below
  named := interface.attributes.contains_iff_member
  ofType := interface.attributes.with_type_filter
  typeInRange := interface.attributes.of_type_below
  typed := interface.attributes.has_type_iff

end WebIdl.Interface
