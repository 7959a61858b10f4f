import Mathlib.Data.List.Nodup
import WebIdl.Proofs.MergedUnits

set_option autoImplicit false

namespace WebIdl

namespace Table

variable {α : Type}

theorem put_comm (entries : List (String × α)) (name other : String) (value later : α)
    (apart : name ≠ other) (present : other ∈ entries.map (·.1)) :
    put other later (put name value entries) = put name value (put other later entries) := by
  induction entries with
  | nil => cases present
  | cons entry rest ih =>
      obtain ⟨key, old⟩ := entry
      by_cases same : key = other
      · subst same
        simp [put, Ne.symm apart]
      · by_cases hit : key = name
        · subst hit
          simp [put, same]
        · rw [List.map_cons, List.mem_cons] at present
          have behind := present.resolve_left (Ne.symm same)
          simp [put, same, hit, ih behind]

-- The order of two insertions only shows where both names are new.
theorem insert_comm (table : Table α) (name other : String) (value later : α)
    (apart : name ≠ other) (present : other ∈ table.keys) :
    (table.insert name value).insert other later = (table.insert other later).insert name value :=
  ext (by
    simp only [insert_entries]
    exact put_comm table.entries name other value later apart (table.keys_eq ▸ present))

end Table

theorem Attempt.lift_and_then {ε σ : Type} (attempt : Attempt ε σ) (put : σ → σ)
    (next : σ → Attempt ε σ) (commutes : ∀ state, next (put state) = (next state).lift put) :
    (attempt.lift put).andThen next = (attempt.andThen next).lift put := by
  obtain ⟨state, failure⟩ := attempt
  cases failure with
  | none => exact commutes state
  | some error => rfl

theorem Attempt.and_then_lift {ε σ : Type} (attempt : Attempt ε σ) (put : σ → σ)
    (next : σ → Attempt ε σ) (went : attempt.failure = none)
    (puts : ∀ state, next state = .done (put state)) :
    attempt.andThen next = attempt.lift put := by
  obtain ⟨state, failure⟩ := attempt
  cases went
  exact puts state

namespace Definitions

section Folded

variable {α : Type} (isFragment : α → Bool) (fold : α → α → α) (missing : String → IdlError)

theorem take_fragment_apart (table : Table α) (entry : String × α) (name : String) (value : α)
    (fragment : isFragment entry.2 = true) (apart : name ≠ entry.1) :
    takeFolded isFragment fold missing (table.insert name value) entry =
      (takeFolded isFragment fold missing table entry).lift (·.insert name value) := by
  have same : (table.insert name value).get? entry.1 = table.get? entry.1 := by
    rw [Table.get_insert, if_neg apart]
  simp only [takeFolded, if_pos fragment, same]
  cases found : table.get? entry.1 with
  | none => rfl
  | some base =>
      have present := Table.mem_keys_of_get table entry.1 base found
      simp only [Attempt.done, Attempt.lift]
      rw [Table.insert_comm table name entry.1 value _ apart present]

theorem take_fragments_apart (entries : List (String × α)) (table : Table α) (name : String)
    (value : α) (fragments : ∀ entry ∈ entries, isFragment entry.2 = true)
    (apart : ∀ entry ∈ entries, name ≠ entry.1) :
    Attempt.each (takeFolded isFragment fold missing) entries (table.insert name value) =
      (Attempt.each (takeFolded isFragment fold missing) entries table).lift
        (·.insert name value) := by
  induction entries generalizing table with
  | nil => rfl
  | cons entry rest ih =>
      obtain ⟨fragment, fragments⟩ := List.forall_mem_cons.mp fragments
      obtain ⟨other, apart⟩ := List.forall_mem_cons.mp apart
      rw [Attempt.each, take_fragment_apart isFragment fold missing table entry name value fragment
        other, Attempt.each]
      exact Attempt.lift_and_then _ _ _ fun state => ih state fragments apart

def wholes (entries : List (String × α)) : List (String × α) :=
  entries.filter fun entry => !isFragment entry.2

def parts (entries : List (String × α)) : List (String × α) :=
  entries.filter fun entry => isFragment entry.2

theorem wholes_whole (entries : List (String × α)) (entry : String × α)
    (member : entry ∈ wholes isFragment entries) : isFragment entry.2 = false := by
  simpa using (List.mem_filter.mp member).2

theorem parts_part (entries : List (String × α)) (entry : String × α)
    (member : entry ∈ parts isFragment entries) : isFragment entry.2 = true :=
  (List.mem_filter.mp member).2

structure Housed (entries : List (String × α)) : Prop where
  once : ((wholes isFragment entries).map (·.1)).Nodup
  later : ∀ front entry rest, entries = front ++ entry :: rest → isFragment entry.2 = true →
    entry.1 ∈ (wholes isFragment front).map (·.1)

theorem housed_front (front : List (String × α)) (last : String × α)
    (housed : Housed isFragment (front ++ [last])) : Housed isFragment front where
  once := by
    have once := housed.once
    rw [wholes, List.filter_append, List.map_append] at once
    exact (List.nodup_append.mp once).1
  later := by
    rintro before entry rest rfl fragment
    exact housed.later before entry (rest ++ [last]) (by simp) fragment

theorem housed_part (entries : List (String × α)) (housed : Housed isFragment entries)
    (entry : String × α) (member : entry ∈ parts isFragment entries) :
    entry.1 ∈ (wholes isFragment entries).map (·.1) := by
  obtain ⟨listed, fragment⟩ := List.mem_filter.mp member
  obtain ⟨front, rest, rfl⟩ := List.append_of_mem listed
  have named := housed.later front entry rest rfl fragment
  rw [wholes, List.filter_append, List.map_append]
  exact List.mem_append_left _ named

theorem housed_last_whole (front : List (String × α)) (last : String × α)
    (housed : Housed isFragment (front ++ [last])) (whole : isFragment last.2 = false) :
    ∀ entry ∈ parts isFragment front, last.1 ≠ entry.1 := by
  intro entry member same
  have named := housed_part isFragment front (housed_front isFragment front last housed) entry
    member
  have once := housed.once
  rw [wholes, List.filter_append, List.map_append] at once
  have apart := (List.nodup_append.mp once).2.2 entry.1 named last.1 (by simp [whole])
  exact apart same.symm

theorem housed_done (entries : List (String × α)) (housed : Housed isFragment entries) :
    (Attempt.each (takeFolded isFragment fold missing)
      (wholes isFragment entries ++ parts isFragment entries) .empty).failure = none := by
  have spec := take_bases_then_fragments isFragment fold missing (wholes isFragment entries)
    (parts isFragment entries) (wholes_whole isFragment entries) (parts_part isFragment entries)
  split at spec
  · obtain ⟨entry, member, absent, _⟩ := spec
    rw [Table.under_eq_nil_iff] at absent
    exact absurd (housed_part isFragment entries housed entry member) absent
  · assumption

-- By induction from the end: a base that comes last is put in before all fragments, none of which
-- adds to it.
theorem take_in_turn (entries : List (String × α)) (housed : Housed isFragment entries) :
    Attempt.each (takeFolded isFragment fold missing) entries .empty =
      Attempt.each (takeFolded isFragment fold missing)
        (wholes isFragment entries ++ parts isFragment entries) .empty := by
  induction entries using List.reverseRecOn with
  | nil => rfl
  | append_singleton front last ih =>
      have before := housed_front isFragment front last housed
      have same := ih before
      by_cases fragment : isFragment last.2 = true
      · have split : wholes isFragment (front ++ [last]) ++ parts isFragment (front ++ [last]) =
            (wholes isFragment front ++ parts isFragment front) ++ [last] := by
          simp [wholes, parts, fragment]
        rw [split, Attempt.each_append, Attempt.each_append, same]
      · have whole : isFragment last.2 = false := by simpa using fragment
        have split : wholes isFragment (front ++ [last]) ++ parts isFragment (front ++ [last]) =
            wholes isFragment front ++ (last :: parts isFragment front) := by
          simp [wholes, parts, whole]
        have bases := take_bases isFragment fold missing (wholes isFragment front) .empty
          (wholes_whole isFragment front)
        have apart := take_fragments_apart isFragment fold missing (parts isFragment front)
          (Table.empty.insertAll (wholes isFragment front)) last.1 last.2
          (parts_part isFragment front) (housed_last_whole isFragment front last housed whole)
        have fits := housed_done isFragment fold missing front before
        have put : ∀ table, takeFolded isFragment fold missing table last =
            .done (table.insert last.1 last.2) := fun table => by simp [takeFolded, whole]
        rw [Attempt.each_append, bases, Attempt.and_then_done] at same fits
        rw [split, Attempt.each_append, same, Attempt.each_append, bases, Attempt.and_then_done,
          Attempt.each, put, Attempt.and_then_done, apart]
        exact Attempt.and_then_lift _ _ _ fits fun table => by
          rw [Attempt.each, put, Attempt.and_then_done, Attempt.each]

end Folded

section Units

variable {α : Type} (table : Definitions → Table α) (isFragment : α → Bool)
  (units : List Definitions)

-- A name is declared as a whole by one file at most, and by an earlier one than what adds to it.
structure BasesFirst : Prop where
  once : ∀ name, (bases table units isFragment name).length ≤ 1
  before : ∀ front unit rest, units = front ++ unit :: rest →
    ∀ entry ∈ (table unit).entries, isFragment entry.2 = true →
      bases table front isFragment entry.1 ≠ []

theorem entries_split (front : List (String × α)) (entry : String × α) (rest : List (String × α))
    (split : entries table units = front ++ entry :: rest) :
    ∃ before unit after inside, units = before ++ unit :: after ∧
      front = entries table before ++ inside ∧ entry ∈ (table unit).entries := by
  induction units generalizing front with
  | nil => simp [entries] at split
  | cons head tail ih =>
      rw [entries, List.flatMap_cons, ← entries, List.append_eq_append_iff] at split
      rcases split with ⟨behind, rfl, later⟩ | ⟨behind, own, later⟩
      · obtain ⟨before, unit, after, inside, rfl, rfl, member⟩ := ih behind later
        exact ⟨head :: before, unit, after, inside, rfl, by simp [entries], member⟩
      · cases behind with
        | nil =>
            obtain ⟨before, unit, after, inside, rfl, none, member⟩ := ih [] later.symm
            obtain ⟨empty, rfl⟩ := List.append_eq_nil_iff.mp none.symm
            refine ⟨head :: before, unit, after, [], rfl, ?_, member⟩
            rw [entries, List.flatMap_cons, ← entries, empty, own]
            simp
        | cons first others =>
            obtain ⟨rfl, rfl⟩ := List.cons.inj later
            exact ⟨[], head, tail, front, rfl, rfl, by rw [own]; simp⟩

theorem bases_first_iff :
    BasesFirst table isFragment units ↔
      (((entries table units).filter fun entry => !isFragment entry.2).map (·.1)).Nodup ∧
        ∀ position : Fin units.length, ∀ entry ∈ (table units[position]).entries,
          isFragment entry.2 = true → bases table (units.take position) isFragment entry.1 ≠ [] := by
  rw [← once_iff_nodup]
  constructor
  · rintro ⟨once, before⟩
    refine ⟨once, fun position => before _ units[position] (units.drop (position + 1)) ?_⟩
    exact (List.take_append_drop position units).symm.trans
      (congrArg _ (List.drop_eq_getElem_cons position.isLt))
  · rintro ⟨once, before⟩
    refine ⟨once, ?_⟩
    rintro front unit rest rfl
    simpa using before ⟨front.length, by simp⟩

theorem bases_first_housed (first : BasesFirst table isFragment units) :
    Housed isFragment (entries table units) where
  once := (once_iff_nodup table units isFragment).mp first.once
  later := by
    intro front entry rest split fragment
    obtain ⟨before, unit, after, inside, rfl, rfl, member⟩ :=
      entries_split table units front entry rest split
    have declared := first.before before unit after rfl entry member fragment
    rw [← under_bases, ne_eq, Table.under_eq_nil_iff, not_not] at declared
    rw [wholes, List.filter_append, List.map_append]
    exact List.mem_append_left _ declared

theorem folded_in_turn (fold : α → α → α) (missing : String → IdlError)
    (first : BasesFirst table isFragment units) :
    (foldedUnits table units isFragment fold missing).failure = none ∧
      Attempt.each (takeFolded isFragment fold missing)
          (units.flatMap fun unit => (table unit).entries) .empty =
        foldedUnits table units isFragment fold missing := by
  have housed := bases_first_housed table isFragment units first
  exact ⟨housed_done isFragment fold missing _ housed,
    take_in_turn isFragment fold missing _ housed⟩

end Units

theorem update_all_result (definitions : Definitions) (others : List Definitions)
    (interfaces : (Attempt.each takeInterface (others.flatMap (·.interfaces.entries))
      definitions.interfaces).failure = none)
    (dictionaries : (Attempt.each takeDictionary (others.flatMap (·.dictionaries.entries))
      definitions.dictionaries).failure = none) :
    (definitions.updateAll others).result = .ok (definitions.tableByTable others) := by
  have row := update_all_spec definitions others
  split at row
  · rw [interfaces, dictionaries] at row
    simp at row
  · exact (Attempt.result_ok_iff _ _).mpr ⟨‹_›, row.2.2⟩

theorem merge_in_turn (units : List Definitions)
    (interfacesFirst : BasesFirst (·.interfaces) (·.isPartial) units)
    (dictionariesFirst : BasesFirst (·.dictionaries) (·.isPartial) units) :
    ∃ whole, merge units = .ok whole ∧ (empty.updateAll units).result = .ok whole := by
  obtain ⟨interfacesDone, interfaces⟩ := folded_in_turn (·.interfaces) (·.isPartial) units
    Interface.merge .noInterfaceToMerge interfacesFirst
  obtain ⟨dictionariesDone, dictionaries⟩ := folded_in_turn (·.dictionaries) (·.isPartial) units
    foldMembers .noDictionaryToMerge dictionariesFirst
  have inTurn := update_all_result empty units (interfaces ▸ interfacesDone)
    (dictionaries ▸ dictionariesDone)
  have atOnce := update_all_result empty (splitUnits units)
    (split_interfaces units ▸ interfacesDone) (split_dictionaries units ▸ dictionariesDone)
  have sameInterfaces : Attempt.each takeInterface (units.flatMap (·.interfaces.entries))
      empty.interfaces = Attempt.each takeInterface
        ((splitUnits units).flatMap (·.interfaces.entries)) empty.interfaces :=
    interfaces.trans (split_interfaces units).symm
  have sameDictionaries : Attempt.each takeDictionary (units.flatMap (·.dictionaries.entries))
      empty.dictionaries = Attempt.each takeDictionary
        ((splitUnits units).flatMap (·.dictionaries.entries)) empty.dictionaries :=
    dictionaries.trans (split_dictionaries units).symm
  obtain ⟨enumerations, typedefs, callbacks, includes, firstName⟩ := split_others units
  have same : empty.tableByTable units = empty.tableByTable (splitUnits units) := by
    rw [tableByTable, tableByTable, sameInterfaces, sameDictionaries, enumerations, typedefs,
      callbacks, includes, firstName]
    rfl
  exact ⟨_, (merge_one_row units).trans atOnce, inTurn.trans (congrArg Except.ok same)⟩

def openedAndExtended : List Node :=
  [Node.fileOf [Node.interfaceOf "Foo" ["x"], (Node.leaf "Dictionary").named "Options"],
    Node.fileOf [(Node.interfaceOf "Foo" ["y"]).asPartial, Node.interfaceOf "Bar" ["z"]],
    Node.fileOf [(Node.interfaceOf "Bar" ["w"]).asPartial, Node.interfaceOf "Baz" [],
      ((Node.leaf "Dictionary").named "Options").asPartial]]

theorem extended_between_bases :
    ∃ first second third whole,
      openedAndExtended.map ofNode = [.ok first, .ok second, .ok third] ∧
        BasesFirst (·.interfaces) (·.isPartial) [first, second, third] ∧
        BasesFirst (·.dictionaries) (·.isPartial) [first, second, third] ∧
        merge [first, second, third] = .ok whole ∧
        (empty.updateAll [first, second, third]).result = .ok whole ∧
        whole.interfaces.entries.map
            (fun entry => (entry.1, entry.2.attributes.list.map (·.name))) =
          [("Foo", ["x", "y"]), ("Bar", ["z", "w"]), ("Baz", [])] := by
  obtain ⟨first, second, third, read⟩ : ∃ first second third,
    openedAndExtended.map ofNode = [.ok first, .ok second, .ok third] := ⟨_, _, _, rfl⟩
  have agree := merge_in_turn [first, second, third]
  have interfacesFirst := bases_first_iff (·.interfaces) (·.isPartial) [first, second, third]
  have dictionariesFirst := bases_first_iff (·.dictionaries) (·.isPartial) [first, second, third]
  cases read
  have interfaces := interfacesFirst.mpr (by decide +kernel)
  have dictionaries := dictionariesFirst.mpr (by decide +kernel)
  obtain ⟨whole, merged, updated⟩ := agree interfaces dictionaries
  refine ⟨_, _, _, whole, rfl, interfaces, dictionaries, merged, updated, ?_⟩
  cases merged
  rfl

end Definitions

end WebIdl
