import WebIdl.Definitions.Merge
import WebIdl.Proofs.Absorbing

set_option autoImplicit false

namespace WebIdl.Definitions

section Folded

variable {α : Type} (isFragment : α → Bool) (fold : α → α → α) (missing : String → IdlError)

def takenOver (known : Option α) (value : α) : Option α :=
  if isFragment value then known.map fun base => fold base value else some value

-- A table into which all of these entries went. The names of new bases follow those that were
-- there, and every fragment found something under its name.
structure TakenIn (before : Table α) (entries : List (String × α)) (after : Table α) : Prop where
  keys : after.keys = before.keys ++
    (((entries.filter (!isFragment ·.2)).map (·.1)).filter (!before.keys.contains ·)).eraseDups
  values : ∀ name, after.get? name =
    (Table.under name entries).foldl (takenOver isFragment fold) (before.get? name)
  listed : ∀ entry ∈ entries, entry.1 ∈ after.keys

theorem take_folded_went (table : Table α) (entry : String × α)
    (went : (takeFolded isFragment fold missing table entry).failure = none) :
    ∃ value, takenOver isFragment fold (table.get? entry.1) entry.2 = some value ∧
      (takeFolded isFragment fold missing table entry).state = table.insert entry.1 value ∧
      (isFragment entry.2 = true → entry.1 ∈ table.keys) := by
  unfold takeFolded takenOver at *
  by_cases fragment : isFragment entry.2 = true
  · simp only [if_pos fragment] at went ⊢
    cases found : table.get? entry.1 with
    | none => simp [found] at went
    | some base =>
        exact ⟨fold base entry.2, rfl, rfl, fun _ => Table.mem_keys_of_get table _ base found⟩
  · simp only [if_neg fragment]
    exact ⟨entry.2, rfl, rfl, fun named => absurd named fragment⟩

theorem take_folded_broke (table : Table α) (entry : String × α) (error : IdlError)
    (broke : (takeFolded isFragment fold missing table entry).failure = some error) :
    isFragment entry.2 = true ∧ table.get? entry.1 = none ∧ error = missing entry.1 ∧
      (takeFolded isFragment fold missing table entry).state = table := by
  unfold takeFolded at *
  by_cases fragment : isFragment entry.2 = true
  · rw [if_pos fragment] at broke ⊢
    cases found : table.get? entry.1 with
    | none =>
        rw [found] at broke
        cases broke
        exact ⟨fragment, rfl, rfl, rfl⟩
    | some base => simp [found] at broke
  · simp [fragment] at broke

theorem taken_in_next (before table : Table α) (front : List (String × α)) (entry : String × α)
    (value : α) (taken : TakenIn isFragment fold before front table)
    (gives : takenOver isFragment fold (table.get? entry.1) entry.2 = some value)
    (known : isFragment entry.2 = true → entry.1 ∈ table.keys) :
    TakenIn isFragment fold before (front ++ [entry]) (table.insert entry.1 value) := by
  constructor
  · have keys := taken.keys
    rw [← new_only_from] at keys
    rw [← new_only_from, List.filter_append, List.map_append, join_new_append, ← keys,
      Table.keys_insert]
    by_cases fragment : isFragment entry.2 = true
    · rw [if_pos (known fragment), List.filter_cons_of_neg (by simpa using fragment)]
      rfl
    · rw [List.filter_cons_of_pos (by simpa using fragment)]
      simp [joinNew]
  · intro name
    rw [Table.get_insert, Table.under_append, List.foldl_append, ← taken.values, Table.under_cons]
    by_cases same : entry.1 = name
    · rw [if_pos same, if_pos same, ← gives, ← same]
      rfl
    · rw [if_neg same, if_neg same]
      rfl
  · intro other member
    rw [Table.mem_keys_insert]
    rcases List.mem_append.mp member with earlier | last
    · exact .inr (taken.listed other earlier)
    · exact .inl (congrArg Prod.fst (List.mem_singleton.mp last))

theorem taken_in_all (before : Table α) (entries : List (String × α))
    (went : (Attempt.each (takeFolded isFragment fold missing) entries before).failure = none) :
    TakenIn isFragment fold before entries
      (Attempt.each (takeFolded isFragment fold missing) entries before).state := by
  refine Attempt.each_keeps_after _ (TakenIn isFragment fold before) ?_ [] entries before went
    ⟨by simp, fun _ => rfl, List.forall_mem_nil _⟩
  intro front table entry step taken
  obtain ⟨value, gives, state, known⟩ := take_folded_went isFragment fold missing table entry step
  rw [state]
  exact taken_in_next isFragment fold before table front entry value taken gives known

structure TakenUpTo (before : Table α) (entries : List (String × α)) (name : String)
    (after : Table α) : Prop where
  cut : ∃ front fragment back, entries = front ++ (name, fragment) :: back ∧
    isFragment fragment = true ∧ TakenIn isFragment fold before front after
  missing : after.get? name = none

theorem taken_up_to_error (before : Table α) (entries : List (String × α)) (error : IdlError)
    (broke : (Attempt.each (takeFolded isFragment fold missing) entries before).failure =
      some error) :
    ∃ name, error = missing name ∧ TakenUpTo isFragment fold before entries name
      (Attempt.each (takeFolded isFragment fold missing) entries before).state := by
  obtain ⟨front, entry, back, split, went, broke, ended⟩ := Attempt.each_broken _ _ _ _ broke
  have taken := taken_in_all isFragment fold missing before front went
  obtain ⟨fragment, absent, named, same⟩ := take_folded_broke isFragment fold missing _ _ _ broke
  rw [same] at ended
  rw [ended]
  exact ⟨entry.1, named, ⟨front, entry.2, back, split, fragment, taken⟩, absent⟩

theorem take_bases (entries : List (String × α)) (table : Table α)
    (bases : ∀ entry ∈ entries, isFragment entry.2 = false) :
    Attempt.each (takeFolded isFragment fold missing) entries table =
      .done (table.insertAll entries) := by
  induction entries generalizing table with
  | nil => rfl
  | cons entry rest ih =>
      have first : takeFolded isFragment fold missing table entry =
          .done (table.insert entry.1 entry.2) := by
        simp [takeFolded, bases entry List.mem_cons_self]
      rw [Attempt.each_cons_done _ _ _ _ (by simp [first]), first]
      exact ih _ fun later member => bases later (List.mem_cons_of_mem entry member)

theorem taken_over_fragments (values : List α) (known : Option α)
    (fragments : ∀ value ∈ values, isFragment value = true) :
    values.foldl (takenOver isFragment fold) known =
      known.map fun base => values.foldl fold base := by
  induction values generalizing known with
  | nil => simp
  | cons value rest ih =>
      have first : takenOver isFragment fold known value =
          known.map fun base => fold base value := if_pos (fragments value List.mem_cons_self)
      rw [List.foldl_cons, first, ih _ fun other member =>
        fragments other (List.mem_cons_of_mem value member), Option.map_map]
      rfl

-- A fragment only changes what stands under its name, so no fragment makes up for a base that
-- another one is missing.
theorem take_fragments (entries : List (String × α)) (table : Table α)
    (fragments : ∀ entry ∈ entries, isFragment entry.2 = true) :
    match (Attempt.each (takeFolded isFragment fold missing) entries table).failure with
    | some error => ∃ entry ∈ entries, table.get? entry.1 = none ∧ error = missing entry.1
    | none => (∀ entry ∈ entries, table.get? entry.1 ≠ none) ∧
        ∀ name, (Attempt.each (takeFolded isFragment fold missing) entries table).state.get? name =
          (table.get? name).map fun base => (Table.under name entries).foldl fold base := by
  have folded : ∀ (part : List (String × α)) (name : String), part ⊆ entries →
      (Table.under name part).foldl (takenOver isFragment fold) (table.get? name) =
        (table.get? name).map fun base => (Table.under name part).foldl fold base := by
    intro part name within
    refine taken_over_fragments isFragment fold _ _ fun value member => ?_
    obtain ⟨entry, listed, rfl⟩ := List.mem_map.mp member
    exact fragments entry (within (List.mem_filter.mp listed).1)
  cases ended : (Attempt.each (takeFolded isFragment fold missing) entries table).failure with
  | some error =>
      obtain ⟨name, named, upTo⟩ := taken_up_to_error isFragment fold missing table entries error
        ended
      obtain ⟨front, fragment, back, split, _, taken⟩ := upTo.cut
      have within : front ⊆ entries := split ▸ List.subset_append_left _ _
      have absent := taken.values name
      rw [upTo.missing, folded front name within, eq_comm, Option.map_eq_none_iff] at absent
      exact ⟨(name, fragment), by simp [split], absent, named⟩
  | none =>
      have taken := taken_in_all isFragment fold missing table entries ended
      have values : ∀ name, _ = _ := fun name =>
        (taken.values name).trans (folded entries name (List.Subset.refl _))
      refine ⟨fun entry member absent => ?_, values⟩
      have missing := values entry.1
      rw [absent, Option.map_none, Table.get_eq_none_iff] at missing
      exact missing (taken.listed entry member)

theorem take_bases_then_fragments (bases fragments : List (String × α))
    (whole : ∀ entry ∈ bases, isFragment entry.2 = false)
    (parts : ∀ entry ∈ fragments, isFragment entry.2 = true) :
    match (Attempt.each (takeFolded isFragment fold missing) (bases ++ fragments)
      .empty).failure with
    | some error => ∃ entry ∈ fragments,
        Table.under entry.1 bases = [] ∧ error = missing entry.1
    | none => (∀ entry ∈ fragments, Table.under entry.1 bases ≠ []) ∧
        ∀ name, (Attempt.each (takeFolded isFragment fold missing) (bases ++ fragments)
            .empty).state.get? name =
          (Table.under name bases).getLast?.map fun base =>
            (Table.under name fragments).foldl fold base := by
  have first := take_bases isFragment fold missing bases .empty whole
  have held : ∀ name, ((Table.empty : Table α).insertAll bases).get? name =
      (Table.under name bases).getLast? := by
    intro name
    rw [Table.get_insert_all]
    exact Option.or_none
  have rest := take_fragments isFragment fold missing fragments (Table.empty.insertAll bases) parts
  rw [Attempt.each_append, first, Attempt.and_then_done]
  simpa only [held, List.getLast?_eq_none_iff, ne_eq] using rest

end Folded

def mergedAll {α : Type} (merge : α → α → α) : List α → Option α
  | [] => none
  | value :: rest => some (rest.foldl merge value)

theorem take_merged_get {α : Type} (merge : α → α → α) (entries : List (String × α))
    (table : Table α) (name : String) :
    (entries.foldl (takeMerged merge) table).get? name =
      mergedAll merge ((table.get? name).toList ++ Table.under name entries) := by
  induction entries generalizing table with
  | nil => cases found : table.get? name <;> simp [Table.under, mergedAll, found]
  | cons entry rest ih =>
      rw [List.foldl_cons, ih, Table.under_cons]
      by_cases same : entry.1 = name
      · subst same
        cases found : table.get? entry.1 <;>
          simp [takeMerged, found, Table.get_insert, mergedAll]
      · cases found : table.get? entry.1 <;>
          simp [takeMerged, found, Table.get_insert, same]

def tableByTable (definitions : Definitions) (others : List Definitions) : Definitions where
  interfaces := (Attempt.each takeInterface (others.flatMap (·.interfaces.entries))
    definitions.interfaces).state
  dictionaries := (Attempt.each takeDictionary (others.flatMap (·.dictionaries.entries))
    definitions.dictionaries).state
  enumerations := (others.flatMap (·.enumerations.entries)).foldl (takeMerged Enumeration.merge)
    definitions.enumerations
  typedefs := (others.flatMap (·.typedefs.entries)).foldl (takeMerged Typedef.merge)
    definitions.typedefs
  callbacks := definitions.callbacks.insertAll (others.flatMap (·.callbacks.entries))
  includes := definitions.includes ++ others.flatMap (·.includes)
  firstName := definitions.firstName.or (others.findSome? (·.firstName))
  filePath := definitions.filePath

theorem table_by_table_cons (definitions other : Definitions) (rest : List Definitions)
    (interfaces : (Attempt.each takeInterface other.interfaces.entries
      definitions.interfaces).failure = none)
    (dictionaries : (Attempt.each takeDictionary other.dictionaries.entries
      definitions.dictionaries).failure = none) :
    (definitions.tableByTable [other]).tableByTable rest =
      definitions.tableByTable (other :: rest) := by
  have firstName : (definitions.firstName.or other.firstName).or (rest.findSome? (·.firstName)) =
      definitions.firstName.or ((other :: rest).findSome? (·.firstName)) := by
    cases own : other.firstName <;> simp [own]
  simp [tableByTable, Attempt.each_append_done _ _ _ _ interfaces,
    Attempt.each_append_done _ _ _ _ dictionaries, Table.insertAll, firstName]

theorem update_spec (definitions other : Definitions) :
    match (definitions.update other).failure with
    | some error =>
        (Attempt.each takeInterface other.interfaces.entries definitions.interfaces).failure =
            some error ∨
          (Attempt.each takeDictionary other.dictionaries.entries
            definitions.dictionaries).failure = some error
    | none =>
        (Attempt.each takeInterface other.interfaces.entries definitions.interfaces).failure =
            none ∧
          (Attempt.each takeDictionary other.dictionaries.entries
            definitions.dictionaries).failure = none ∧
          (definitions.update other).state = definitions.tableByTable [other] := by
  unfold update
  cases first : (Attempt.each takeInterface other.interfaces.entries
      definitions.interfaces).failure with
  | some error => simp [Attempt.andThen, Attempt.lift, first]
  | none =>
      cases second : (Attempt.each takeDictionary other.dictionaries.entries
          definitions.dictionaries).failure with
      | some error => simp [Attempt.andThen, Attempt.lift, first, second]
      | none =>
          simp [Attempt.andThen, Attempt.lift, Attempt.done, first, second, takeOthers,
            tableByTable, Table.extend]

theorem update_all_spec (definitions : Definitions) (others : List Definitions) :
    match (definitions.updateAll others).failure with
    | some error =>
        (Attempt.each takeInterface (others.flatMap (·.interfaces.entries))
            definitions.interfaces).failure = some error ∨
          (Attempt.each takeDictionary (others.flatMap (·.dictionaries.entries))
            definitions.dictionaries).failure = some error
    | none =>
        (Attempt.each takeInterface (others.flatMap (·.interfaces.entries))
            definitions.interfaces).failure = none ∧
          (Attempt.each takeDictionary (others.flatMap (·.dictionaries.entries))
            definitions.dictionaries).failure = none ∧
          (definitions.updateAll others).state = definitions.tableByTable others := by
  unfold updateAll
  induction others generalizing definitions with
  | nil => simp [Attempt.each, tableByTable, Table.insertAll]
  | cons other rest ih =>
      have first := update_spec definitions other
      cases broke : (definitions.update other).failure with
      | some error =>
          rw [broke] at first
          rw [Attempt.each_cons_broken update other rest definitions error broke, broke]
          simp only [List.flatMap_cons]
          rcases first with interfaces | dictionaries
          · left
            rwa [Attempt.each_append_broken _ _ _ _ error interfaces]
          · right
            rwa [Attempt.each_append_broken _ _ _ _ error dictionaries]
      | none =>
          rw [broke] at first
          obtain ⟨interfaces, dictionaries, state⟩ := first
          have later := ih (definitions.tableByTable [other])
          rw [Attempt.each_cons_done update other rest definitions broke, state, List.flatMap_cons,
            List.flatMap_cons, Attempt.each_append_done _ _ _ _ interfaces,
            Attempt.each_append_done _ _ _ _ dictionaries,
            ← table_by_table_cons definitions other rest interfaces dictionaries]
          simpa [tableByTable] using later

end WebIdl.Definitions
