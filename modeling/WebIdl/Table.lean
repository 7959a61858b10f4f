set_option autoImplicit false

/-!
Tables: values under names, in the order in which the names were first put in. Putting a value under
a name that is there already replaces the value and keeps the place. Two tables count as equal if
they hold the same names with equal values, in whatever order.
-/

namespace WebIdl

-- Values under the given names. What is asked of the names does not speak of the values, so that a
-- table can occur in the type of the values that it holds.
inductive Column (α : Type) : List String → Type
  | nil : Column α []
  | cons {names : List String} (name : String) (value : α) (rest : Column α names) :
      Column α (name :: names)

namespace Column

variable {α : Type}

def entries {names : List String} : Column α names → List (String × α)
  | .nil => []
  | .cons name value rest => (name, value) :: rest.entries

def ofEntries : (entries : List (String × α)) → Column α (entries.map (·.1))
  | [] => .nil
  | (name, value) :: rest => .cons name value (ofEntries rest)

theorem entries_names {names : List String} (column : Column α names) :
    column.entries.map (·.1) = names := by
  induction column with
  | nil => rfl
  | cons name value rest ih => rw [entries, List.map_cons, ih]

theorem entries_of_entries (entries : List (String × α)) : (ofEntries entries).entries = entries := by
  induction entries with
  | nil => rfl
  | cons entry rest ih => rw [ofEntries, Column.entries, ih]

theorem entries_inj {names others : List String} (column : Column α names)
    (other : Column α others) (same : column.entries = other.entries) : HEq column other := by
  induction column generalizing others with
  | nil =>
      cases other with
      | nil => rfl
      | cons => cases same
  | cons name value rest ih =>
      cases other with
      | nil => cases same
      | cons name' value' rest' =>
          obtain ⟨⟨rfl, rfl⟩, rests⟩ : (name = name' ∧ value = value') ∧
              rest.entries = rest'.entries := by
            simpa [entries] using same
          obtain rfl := rest.entries_names.symm.trans (rests ▸ rest'.entries_names)
          rw [eq_of_heq (ih rest' rests)]

end Column

structure Table (α : Type) where
  keys : List String
  column : Column α keys
  keyed : keys.Nodup

namespace Table

variable {α : Type}

def entries (table : Table α) : List (String × α) := table.column.entries

def ofEntries (entries : List (String × α)) (distinct : (entries.map (·.1)).Nodup) : Table α :=
  ⟨_, .ofEntries entries, distinct⟩

def empty : Table α := ⟨[], .nil, List.nodup_nil⟩

instance : Inhabited (Table α) := ⟨empty⟩

theorem keys_eq (table : Table α) : table.keys = table.entries.map (·.1) :=
  table.column.entries_names.symm

theorem entries_distinct (table : Table α) : (table.entries.map (·.1)).Nodup :=
  table.keys_eq ▸ table.keyed

theorem mem_keys_iff (table : Table α) (name : String) :
    name ∈ table.keys ↔ ∃ entry ∈ table.entries, entry.1 = name := by
  rw [keys_eq, List.mem_map]

theorem key_of_mem (table : Table α) (entry : String × α) (member : entry ∈ table.entries) :
    entry.1 ∈ table.keys :=
  (mem_keys_iff table entry.1).mpr ⟨entry, member, rfl⟩

@[simp]
theorem entries_of_entries (entries : List (String × α)) (distinct : (entries.map (·.1)).Nodup) :
    (ofEntries entries distinct).entries = entries :=
  Column.entries_of_entries entries

@[ext]
theorem ext {table other : Table α} (same : table.entries = other.entries) : table = other := by
  have keys : table.keys = other.keys := by rw [keys_eq, keys_eq, same]
  obtain ⟨_, column, _⟩ := table
  obtain ⟨_, column', _⟩ := other
  cases keys
  cases Column.entries_inj column column' same
  rfl

instance [DecidableEq α] : DecidableEq (Table α) := fun table other =>
  decidable_of_iff (table.entries = other.entries) ⟨ext, congrArg entries⟩

def find (name : String) : List (String × α) → Option α
  | [] => none
  | (key, value) :: rest => if key = name then some value else find name rest

def put (name : String) (value : α) : List (String × α) → List (String × α)
  | [] => [(name, value)]
  | (key, old) :: rest =>
      if key = name then (key, value) :: rest else (key, old) :: put name value rest

def drop (name : String) : List (String × α) → List (String × α)
  | [] => []
  | (key, value) :: rest => if key = name then rest else (key, value) :: drop name rest

theorem keys_put (entries : List (String × α)) (name : String) (value : α) :
    (put name value entries).map (·.1) =
      if name ∈ entries.map (·.1) then entries.map (·.1) else entries.map (·.1) ++ [name] := by
  induction entries with
  | nil => simp [put]
  | cons entry rest ih =>
      obtain ⟨key, old⟩ := entry
      by_cases same : key = name
      · simp [put, same]
      · by_cases later : name ∈ rest.map (·.1)
        · simp only [put, if_neg same, List.map_cons, ih, List.mem_cons, later,
            or_true, if_true]
        · simp only [put, if_neg same, List.map_cons, ih, List.mem_cons, later,
            or_false, Ne.symm same, if_false, List.cons_append]

theorem put_distinct (entries : List (String × α)) (name : String) (value : α)
    (distinct : (entries.map (·.1)).Nodup) : ((put name value entries).map (·.1)).Nodup := by
  rw [keys_put]
  split
  · exact distinct
  · rename_i absent
    simp only [List.nodup_append, distinct, List.nodup_cons, List.not_mem_nil, not_false_eq_true,
      List.nodup_nil, and_self, List.mem_singleton, true_and]
    rintro key present _ rfl rfl
    exact absent present

theorem drop_sublist (entries : List (String × α)) (name : String) :
    (drop name entries).Sublist entries := by
  induction entries with
  | nil => exact .slnil
  | cons head rest ih =>
      rw [drop]
      split
      · exact List.sublist_cons_self head rest
      · exact ih.cons_cons head

def get? (table : Table α) (name : String) : Option α := find name table.entries

def contains (table : Table α) (name : String) : Bool := (table.get? name).isSome

def insert (table : Table α) (name : String) (value : α) : Table α :=
  ofEntries (put name value table.entries) (put_distinct _ name value table.entries_distinct)

def erase (table : Table α) (name : String) : Table α :=
  ofEntries (drop name table.entries)
    (table.entries_distinct.sublist ((drop_sublist table.entries name).map _))

def insertAll (table : Table α) (entries : List (String × α)) : Table α :=
  entries.foldl (fun table (name, value) => table.insert name value) table

def ofList (entries : List (String × α)) : Table α := empty.insertAll entries

def extend (table other : Table α) : Table α := table.insertAll other.entries

def values (table : Table α) : List α := table.entries.map (·.2)

def size (table : Table α) : Nat := table.entries.length

def isEmpty (table : Table α) : Bool := table.entries.isEmpty

def filter (test : α → Bool) (table : Table α) : Table α :=
  ofEntries (table.entries.filter fun entry => test entry.2)
    (table.entries_distinct.sublist (List.filter_sublist.map _))

def partition (test : α → Bool) (table : Table α) : Table α × Table α :=
  (table.filter test, table.filter fun value => !test value)

def sameBy (same : α → α → Bool) (table other : Table α) : Bool :=
  table.size == other.size &&
    table.entries.all fun (name, value) =>
      match other.get? name with
      | some found => same value found
      | none => false

instance [BEq α] : BEq (Table α) := ⟨sameBy (· == ·)⟩

def All (holds : α → Prop) (table : Table α) : Prop := ∀ entry ∈ table.entries, holds entry.2

def Each (holds : String → α → Prop) (table : Table α) : Prop :=
  ∀ entry ∈ table.entries, holds entry.1 entry.2

def group (values : List α) : Option (List α) := if values.isEmpty then none else some values

def under (name : String) (entries : List (String × α)) : List α :=
  (entries.filter fun entry => entry.1 == name).map (·.2)

theorem find_put (entries : List (String × α)) (name other : String) (value : α) :
    find other (put name value entries) =
      if name = other then some value else find other entries := by
  induction entries with
  | nil => simp [put, find]
  | cons entry rest ih =>
      obtain ⟨key, old⟩ := entry
      by_cases same : key = name
      · subst same
        by_cases hit : key = other <;> simp [put, find, hit]
      · by_cases hit : key = other
        · subst hit
          simp [put, find, same, Ne.symm same]
        · simp [put, find, same, hit, ih]

@[simp]
theorem empty_entries : (empty : Table α).entries = [] := rfl

@[simp]
theorem empty_keys : (empty : Table α).keys = [] := rfl

@[simp]
theorem empty_get (name : String) : (empty : Table α).get? name = none := rfl

@[simp]
theorem insert_entries (table : Table α) (name : String) (value : α) :
    (table.insert name value).entries = put name value table.entries :=
  entries_of_entries _ _

@[simp]
theorem erase_entries (table : Table α) (name : String) :
    (table.erase name).entries = drop name table.entries :=
  entries_of_entries _ _

@[simp]
theorem filter_entries (test : α → Bool) (table : Table α) :
    (table.filter test).entries = table.entries.filter fun entry => test entry.2 :=
  entries_of_entries _ _

theorem is_empty_iff (table : Table α) : table.isEmpty = true ↔ table = empty :=
  List.isEmpty_iff.trans ⟨fun none => ext none, congrArg entries⟩

theorem get_insert (table : Table α) (name other : String) (value : α) :
    (table.insert name value).get? other =
      if name = other then some value else table.get? other := by
  rw [get?, insert_entries]
  exact find_put table.entries name other value

theorem find_eq_none_iff (entries : List (String × α)) (name : String) :
    find name entries = none ↔ name ∉ entries.map (·.1) := by
  induction entries with
  | nil => simp [find]
  | cons entry rest ih =>
      obtain ⟨key, value⟩ := entry
      by_cases same : key = name
      · simp [find, same]
      · simp [find, same, ih, Ne.symm same]

theorem get_eq_none_iff (table : Table α) (name : String) :
    table.get? name = none ↔ name ∉ table.keys := by
  rw [keys_eq]
  exact find_eq_none_iff table.entries name

theorem contains_iff (table : Table α) (name : String) :
    table.contains name = true ↔ name ∈ table.keys := by
  rw [contains, Option.isSome_iff_ne_none, ne_eq, get_eq_none_iff, Decidable.not_not]

theorem mem_keys_of_get (table : Table α) (name : String) (value : α)
    (found : table.get? name = some value) : name ∈ table.keys :=
  (contains_iff table name).mp (by rw [contains, found, Option.isSome_some])

theorem group_get (values : List α) : (group values).getD [] = values := by
  cases values <;> rfl

theorem group_is_some (values : List α) : (group values).isSome = true ↔ values ≠ [] := by
  cases values <;> simp [group]

theorem group_some (values : List α) (inhabited : values ≠ []) : group values = some values := by
  cases values with
  | nil => exact absurd rfl inhabited
  | cons value rest => rfl

theorem group_append_one (values : List α) (value : α) :
    group (values ++ [value]) = some (values ++ [value]) :=
  group_some _ (by simp)

theorem keys_insert (table : Table α) (name : String) (value : α) :
    (table.insert name value).keys =
      if name ∈ table.keys then table.keys else table.keys ++ [name] := by
  simp only [keys_eq, insert_entries, keys_put]

theorem mem_keys_insert (table : Table α) (name other : String) (value : α) :
    other ∈ (table.insert name value).keys ↔ other = name ∨ other ∈ table.keys := by
  rw [keys_insert]
  by_cases present : name ∈ table.keys
  · rw [if_pos present]
    exact ⟨.inr, fun either => either.elim (fun same => same ▸ present) id⟩
  · rw [if_neg present, List.mem_append, List.mem_singleton, or_comm]

theorem keys_insert_present (table : Table α) (name : String) (value : α)
    (present : table.contains name = true) : (table.insert name value).keys = table.keys := by
  rw [keys_insert, if_pos ((contains_iff table name).mp present)]

theorem under_append (name : String) (front back : List (String × α)) :
    under name (front ++ back) = under name front ++ under name back := by
  simp [under]

theorem under_cons (name : String) (entry : String × α) (rest : List (String × α)) :
    under name (entry :: rest) = (if entry.1 = name then [entry.2] else []) ++ under name rest := by
  by_cases same : entry.1 = name <;> simp [under, same]

theorem under_eq_nil_iff (name : String) (entries : List (String × α)) :
    under name entries = [] ↔ name ∉ entries.map (·.1) := by
  rw [under, List.map_eq_nil_iff, List.filter_eq_nil_iff, List.mem_map]
  simp only [beq_iff_eq, not_exists, not_and]

theorem under_flat_map {β : Type} (name : String) (lists : List β)
    (entries : β → List (String × α)) :
    under name (lists.flatMap entries) = lists.flatMap fun list => under name (entries list) := by
  induction lists with
  | nil => rfl
  | cons list rest ih => simp only [List.flatMap_cons, under_append, ih]

theorem under_filter (name : String) (entries : List (String × α)) (test : α → Bool) :
    under name (entries.filter fun entry => test entry.2) = (under name entries).filter test := by
  simp only [under, List.filter_filter, List.filter_map, Bool.and_comm, Function.comp_def]

theorem under_distinct (entries : List (String × α)) (distinct : (entries.map (·.1)).Nodup)
    (name : String) : under name entries = (find name entries).toList := by
  induction entries with
  | nil => rfl
  | cons entry rest ih =>
      rw [List.map_cons, List.nodup_cons] at distinct
      rw [under_cons, find]
      by_cases same : entry.1 = name
      · rw [if_pos same, if_pos same, (under_eq_nil_iff name rest).mpr (same ▸ distinct.1)]
        rfl
      · rw [if_neg same, if_neg same, List.nil_append, ih distinct.2]

theorem under_entries (table : Table α) (name : String) :
    under name table.entries = (table.get? name).toList :=
  under_distinct table.entries table.entries_distinct name

theorem mem_entries_iff (table : Table α) (name : String) (value : α) :
    (name, value) ∈ table.entries ↔ table.get? name = some value := by
  rw [← Option.mem_toList, ← under_entries, under]
  simp

theorem mem_of_get (table : Table α) (name : String) (value : α)
    (found : table.get? name = some value) : (name, value) ∈ table.entries :=
  (table.mem_entries_iff name value).mpr found

theorem get_of_mem (table : Table α) (name : String) (value : α)
    (member : (name, value) ∈ table.entries) : table.get? name = some value :=
  (table.mem_entries_iff name value).mp member

theorem mem_filter_keys_iff (table : Table α) (test : α → Bool) (name : String) :
    name ∈ (table.filter test).keys ↔ (table.get? name).any test = true := by
  rw [mem_keys_iff, filter_entries]
  simp only [List.mem_filter, Option.any_eq_true, ← mem_entries_iff]
  constructor
  · rintro ⟨⟨_, value⟩, ⟨member, passes⟩, rfl⟩
    exact ⟨value, member, passes⟩
  · rintro ⟨value, member, passes⟩
    exact ⟨(name, value), ⟨member, passes⟩, rfl⟩

theorem get_insert_all (table : Table α) (entries : List (String × α)) (name : String) :
    (table.insertAll entries).get? name = (under name entries).getLast?.or (table.get? name) := by
  unfold insertAll
  induction entries generalizing table with
  | nil => rfl
  | cons entry rest ih =>
      rw [List.foldl_cons, ih, get_insert, under_cons]
      by_cases same : entry.1 = name
      · rw [if_pos same, if_pos same, List.getLast?_append]
        cases (under name rest).getLast? <;> rfl
      · rw [if_neg same, if_neg same, List.nil_append]

theorem mem_put (entries : List (String × α)) (name : String) (value : α)
    (entry : String × α) (member : entry ∈ put name value entries) :
    entry = (name, value) ∨ entry ∈ entries := by
  induction entries with
  | nil => exact .inl (List.mem_singleton.mp member)
  | cons head rest ih =>
      by_cases same : head.1 = name
      · rw [put, if_pos same] at member
        rcases List.mem_cons.mp member with fresh | later
        · exact .inl (fresh.trans (Prod.ext same rfl))
        · exact .inr (List.mem_cons_of_mem head later)
      · rw [put, if_neg same] at member
        rcases List.mem_cons.mp member with first | later
        · exact .inr (first ▸ List.mem_cons_self)
        · exact (ih later).imp_right (List.mem_cons_of_mem head)

theorem mem_insert_all (table : Table α) (entries : List (String × α)) (entry : String × α)
    (member : entry ∈ (table.insertAll entries).entries) :
    entry ∈ entries ∨ entry ∈ table.entries := by
  unfold insertAll at member
  induction entries generalizing table with
  | nil => exact .inr member
  | cons head rest ih =>
      rcases ih (table.insert head.1 head.2) member with later | earlier
      · exact .inl (List.mem_cons_of_mem head later)
      · rw [insert_entries] at earlier
        exact (mem_put table.entries head.1 head.2 entry earlier).imp_left
          fun same => List.mem_cons.mpr (.inl same)

theorem mem_drop (entries : List (String × α)) (name : String) (entry : String × α)
    (member : entry ∈ drop name entries) : entry ∈ entries :=
  (drop_sublist entries name).subset member

theorem put_fresh (entries : List (String × α)) (name : String) (value : α)
    (fresh : name ∉ entries.map (·.1)) : put name value entries = entries ++ [(name, value)] := by
  induction entries with
  | nil => rfl
  | cons entry rest ih =>
      rw [List.map_cons, List.mem_cons, not_or] at fresh
      rw [put, if_neg (Ne.symm fresh.1), ih fresh.2, List.cons_append]

theorem insert_all_fresh (table : Table α) (entries : List (String × α))
    (distinct : (table.keys ++ entries.map (·.1)).Nodup) :
    (table.insertAll entries).entries = table.entries ++ entries := by
  unfold insertAll
  induction entries generalizing table with
  | nil => rw [List.append_nil]; rfl
  | cons entry rest ih =>
      have fresh : entry.1 ∉ table.keys := fun present =>
        (List.nodup_append.mp distinct).2.2 entry.1 present entry.1 (by simp) rfl
      have inserted : (table.insert entry.1 entry.2).entries = table.entries ++ [entry] := by
        rw [insert_entries, put_fresh _ _ _ (table.keys_eq ▸ fresh)]
      rw [List.foldl_cons, ih, inserted, List.append_assoc, List.singleton_append]
      rw [keys_insert, if_neg fresh, List.append_assoc, List.singleton_append]
      exact distinct

theorem extend_fresh (table other : Table α)
    (fresh : ∀ entry ∈ other.entries, entry.1 ∉ table.keys) :
    (table.extend other).entries = table.entries ++ other.entries := by
  refine insert_all_fresh table other.entries
    (List.nodup_append.mpr ⟨table.keyed, other.entries_distinct, ?_⟩)
  intro name first key second same
  obtain ⟨entry, member, rfl⟩ := List.mem_map.mp second
  exact fresh entry member (same ▸ first)

theorem empty_insert_all (table : Table α) : empty.insertAll table.entries = table :=
  ext (insert_all_fresh empty table.entries table.entries_distinct)

theorem get_extend (table other : Table α) (name : String) :
    (table.extend other).get? name = (other.get? name).or (table.get? name) := by
  rw [extend, get_insert_all, under_entries]
  cases other.get? name <;> rfl

theorem empty_each (holds : String → α → Prop) : (empty : Table α).Each holds :=
  fun _ member => nomatch member

theorem insert_each (holds : String → α → Prop) (table : Table α) (name : String) (value : α)
    (every : table.Each holds) (fresh : holds name value) :
    (table.insert name value).Each holds := by
  intro entry member
  rw [insert_entries] at member
  rcases mem_put table.entries name value entry member with rfl | earlier
  · exact fresh
  · exact every entry earlier

theorem insert_all_each (holds : String → α → Prop) (table : Table α)
    (entries : List (String × α)) (every : table.Each holds)
    (fresh : ∀ entry ∈ entries, holds entry.1 entry.2) : (table.insertAll entries).Each holds := by
  intro entry member
  rcases mem_insert_all table entries entry member with later | earlier
  · exact fresh entry later
  · exact every entry earlier

theorem each_get (holds : String → α → Prop) (table : Table α) (every : table.Each holds)
    (name : String) (value : α) (found : table.get? name = some value) : holds name value :=
  every (name, value) (mem_of_get table name value found)

theorem filter_each (holds : String → α → Prop) (table : Table α) (test : α → Bool)
    (every : table.Each holds) : (table.filter test).Each holds := by
  intro entry member
  rw [filter_entries] at member
  exact every entry (List.mem_filter.mp member).1

theorem partition_each (holds : String → α → Prop) (table : Table α) (test : α → Bool)
    (every : table.Each holds) :
    (table.partition test).1.Each holds ∧ (table.partition test).2.Each holds :=
  ⟨filter_each holds table test every, filter_each holds table _ every⟩

theorem empty_all (holds : α → Prop) : (empty : Table α).All holds := empty_each fun _ => holds

theorem all_get (holds : α → Prop) (table : Table α) (every : table.All holds) (name : String)
    (value : α) (found : table.get? name = some value) : holds value :=
  each_get (fun _ => holds) table every name value found

end Table

end WebIdl
