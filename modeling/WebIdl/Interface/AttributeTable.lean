import WebIdl.Member.Basic

set_option autoImplicit false

namespace WebIdl

namespace AttributeTable

def positions (items : List Attribute) (test : Attribute → Bool) : List Nat :=
  (List.range items.length).filter fun position => (items[position]?).any test

theorem positions_push (items : List Attribute) (item : Attribute) (test : Attribute → Bool) :
    positions (items ++ [item]) test =
      positions items test ++ if test item then [items.length] else [] := by
  have earlier : (List.range items.length).filter
      (fun position => ((items ++ [item])[position]?).any test) = positions items test := by
    apply List.filter_congr
    intro position below
    rw [List.getElem?_append_left (List.mem_range.mp below)]
  have last : ((items ++ [item])[items.length]?).any test = test item := by simp
  rw [positions, List.length_append, List.length_singleton, List.range_succ, List.filter_append,
    earlier]
  congr 1
  by_cases passes : test item = true
  · rw [if_pos passes, List.filter_cons_of_pos (by rw [last, passes]), List.filter_nil]
  · rw [if_neg passes, List.filter_cons_of_neg (by rwa [last]), List.filter_nil]

end AttributeTable

/-- The attributes of an interface in order, with two indexes: where the last attribute of a name
stands, and where the attributes of a type stand, the type taken by its symbolic name. -/
structure AttributeTable where
  list : List Attribute
  lastOfName : Table Nat
  ofType : Table (List Nat)
  last : ∀ name,
    lastOfName.get? name = (AttributeTable.positions list (·.name == name)).getLast?
  types : ∀ type,
    ofType.get? type = Table.group (AttributeTable.positions list (·.type.name == type))

namespace AttributeTable

def empty : AttributeTable := ⟨[], .empty, .empty, fun _ => rfl, fun _ => rfl⟩

def push (table : AttributeTable) (item : Attribute) : AttributeTable where
  list := table.list ++ [item]
  lastOfName := table.lastOfName.insert item.name table.list.length
  ofType := table.ofType.insert item.type.name
    ((table.ofType.get? item.type.name).getD [] ++ [table.list.length])
  last name := by
    rw [positions_push, Table.get_insert, table.last]
    by_cases same : item.name = name <;> simp [same]
  types type := by
    rw [positions_push, Table.get_insert, table.types, table.types, Table.group_get]
    by_cases same : item.type.name = type
    · simp only [same, beq_self_eq_true, if_true, Table.group_append_one]
    · simp [same]

def pushAll (table : AttributeTable) (items : List Attribute) : AttributeTable :=
  items.foldl push table

def get? (table : AttributeTable) (name : String) : Option Attribute :=
  (table.lastOfName.get? name).bind fun position => table.list[position]?

def contains (table : AttributeTable) (name : String) : Bool := table.lastOfName.contains name

def withType (table : AttributeTable) (type : String) : List Attribute :=
  ((table.ofType.get? type).getD []).filterMap fun position => table.list[position]?

def hasType (table : AttributeTable) (type : String) : Bool := table.ofType.contains type

end AttributeTable

end WebIdl
