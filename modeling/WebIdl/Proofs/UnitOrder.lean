import WebIdl.Proofs.MergedUnits
import WebIdl.Proofs.Rearranged

set_option autoImplicit false

namespace WebIdl

namespace Table

variable {α : Type}

-- The same values under the same names, whatever the order of the names.
structure SameEntries (table other : Table α) : Prop where
  entries : table.entries.Perm other.entries
  values : ∀ name, table.get? name = other.get? name

theorem entries_nodup (table : Table α) : table.entries.Nodup :=
  List.Nodup.of_map Prod.fst table.entries_distinct

theorem same_entries (table other : Table α)
    (values : ∀ name, table.get? name = other.get? name) : table.SameEntries other where
  entries := by
    refine (List.perm_ext_iff_of_nodup table.entries_nodup other.entries_nodup).mpr ?_
    intro entry
    rw [mem_entries_iff, mem_entries_iff, values]
  values := values

end Table

namespace Definitions

def addsTo (unit : Definitions) (name : String) : Declaration.Class → Bool
  | .interface => (unit.interfaces.get? name).any (·.isPartial)
  | .dictionary => (unit.dictionaries.get? name).any (·.isPartial)
  | .enumeration => unit.enumerations.contains name
  | .typedef => unit.typedefs.contains name
  | .callback => unit.callbacks.contains name

-- The same files in another order: what stands at a position now stood at its place before. Files
-- that add to one thing stand in the order in which they stood.
structure Reordered (units others : List Definitions) (place : Equiv.Perm (Fin units.length)) :
    Prop where
  listed : others = List.ofFn fun position => units[place position]
  kept : ∀ one two name cls, units[place one].addsTo name cls = true →
    units[place two].addsTo name cls = true → (one < two ↔ place one < place two)

def additions (unit : Definitions) : List (String × Declaration.Class) :=
  (unit.interfaces.filter (·.isPartial)).keys.map (·, .interface) ++
    (unit.dictionaries.filter (·.isPartial)).keys.map (·, .dictionary) ++
    unit.enumerations.keys.map (·, .enumeration) ++ unit.typedefs.keys.map (·, .typedef) ++
    unit.callbacks.keys.map (·, .callback)

theorem mem_additions_iff (unit : Definitions) (name : String) (cls : Declaration.Class) :
    (name, cls) ∈ unit.additions ↔ unit.addsTo name cls = true := by
  cases cls <;> simp [additions, addsTo, Table.mem_filter_keys_iff, Table.contains_iff]

theorem reordered_iff (units others : List Definitions) (place : Equiv.Perm (Fin units.length)) :
    Reordered units others place ↔
      others = List.ofFn (fun position => units[place position]) ∧
        ∀ one two, ∀ addition ∈ units[place one].additions,
          addition ∈ units[place two].additions → (one < two ↔ place one < place two) := by
  constructor
  · rintro ⟨listed, kept⟩
    refine ⟨listed, fun one two (name, cls) first second => kept one two name cls ?_ ?_⟩
    · exact (mem_additions_iff _ name cls).mp first
    · exact (mem_additions_iff _ name cls).mp second
  · rintro ⟨listed, kept⟩
    refine ⟨listed, fun one two name cls first second => kept one two (name, cls) ?_ ?_⟩
    · exact (mem_additions_iff _ name cls).mpr first
    · exact (mem_additions_iff _ name cls).mpr second

structure SameDefinitions (whole other : Definitions) : Prop where
  interfaces : whole.interfaces.SameEntries other.interfaces
  dictionaries : whole.dictionaries.SameEntries other.dictionaries
  enumerations : whole.enumerations.SameEntries other.enumerations
  typedefs : whole.typedefs.SameEntries other.typedefs
  callbacks : whole.callbacks.SameEntries other.callbacks
  includes : whole.includes.Perm other.includes

section Reordering

variable (units others : List Definitions) (place : Equiv.Perm (Fin units.length))
  (reordered : Reordered units others place)

include reordered

theorem reordered_perm : others.Perm units := by
  rw [reordered.listed]
  exact rearranged_perm units place

theorem reordered_adding (name : String) (cls : Declaration.Class) :
    others.filter (·.addsTo name cls) = units.filter (·.addsTo name cls) := by
  rw [reordered.listed]
  exact rearranged_filter units place _ fun one two => reordered.kept one two name cls

theorem reordered_filter_map {β : Type} (name : String) (cls : Declaration.Class)
    (part : Definitions → Option β)
    (adds : ∀ unit value, part unit = some value → unit.addsTo name cls = true) :
    others.filterMap part = units.filterMap part := by
  have only : ∀ list : List Definitions,
      list.filterMap part = (list.filter (·.addsTo name cls)).filterMap part := by
    intro list
    rw [List.filterMap_filter]
    apply List.filterMap_congr
    intro unit _
    cases given : part unit with
    | none => simp
    | some value => rw [if_pos (adds unit value given)]
  rw [only others, only units, reordered_adding units others place reordered]

theorem reordered_given {α : Type} (table : Definitions → Table α) (name : String)
    (cls : Declaration.Class)
    (adds : ∀ unit : Definitions, unit.addsTo name cls = (table unit).contains name) :
    given table others name = given table units name := by
  apply reordered_filter_map units others place reordered name cls
  intro unit value found
  rw [adds, Table.contains, found]
  rfl

theorem reordered_fragments {α : Type} (table : Definitions → Table α) (isFragment : α → Bool)
    (name : String) (cls : Declaration.Class)
    (adds : ∀ unit : Definitions,
      unit.addsTo name cls = ((table unit).get? name).any isFragment) :
    fragments table others isFragment name = fragments table units isFragment name := by
  have chosen : ∀ list : List Definitions, fragments table list isFragment name =
      list.filterMap fun unit => ((table unit).get? name).filter isFragment := by
    intro list
    rw [fragments, given, List.filter_filterMap]
  rw [chosen, chosen]
  apply reordered_filter_map units others place reordered name cls
  intro unit value found
  obtain ⟨present, fragment⟩ := Option.filter_eq_some_iff.mp found
  rw [adds, present]
  exact fragment

theorem reordered_bases {α : Type} (table : Definitions → Table α) (isFragment : α → Bool)
    (name : String) (one : (bases table units isFragment name).length ≤ 1) :
    bases table others isFragment name = bases table units isFragment name := by
  have perm : (bases table others isFragment name).Perm (bases table units isFragment name) :=
    ((reordered_perm units others place reordered).filterMap _).filter _
  match bases table units isFragment name, one, perm with
  | [], _, perm => exact perm.eq_nil
  | [base], _, perm => exact List.perm_singleton.mp perm

end Reordering

theorem merged_others (units : List Definitions)
    (whole : Definitions) (state : whole = empty.tableByTable (splitUnits units)) :
    (∀ name, whole.enumerations.get? name =
        mergedAll Enumeration.merge (given (·.enumerations) units name)) ∧
      (∀ name, whole.typedefs.get? name =
        mergedAll Typedef.merge (given (·.typedefs) units name)) ∧
      (∀ name, whole.callbacks.get? name = (given (·.callbacks) units name).getLast?) ∧
      whole.includes = units.flatMap (·.includes) := by
  obtain ⟨enumerations, typedefs, _, includes, _⟩ := split_others units
  refine ⟨fun name => ?_, fun name => ?_, fun name => ?_, ?_⟩
  · rw [state, tableByTable, enumerations]
    exact merged_given (·.enumerations) units Enumeration.merge name
  · rw [state, tableByTable, typedefs]
    exact merged_given (·.typedefs) units Typedef.merge name
  · rw [state, merged_callbacks]
  · rw [state, tableByTable, includes]
    rfl

theorem merge_reordered (units others : List Definitions) (place : Equiv.Perm (Fin units.length))
    (reordered : Reordered units others place)
    (oneInterface : ∀ name, (bases (·.interfaces) units (·.isPartial) name).length ≤ 1)
    (oneDictionary : ∀ name, (bases (·.dictionaries) units (·.isPartial) name).length ≤ 1) :
    ((∃ error, merge units = .error error) ↔ ∃ error, merge others = .error error) ∧
      ∀ whole other, merge units = .ok whole → merge others = .ok other →
        SameDefinitions whole other := by
  have interfaceBases := fun name =>
    reordered_bases units others place reordered _ _ name (oneInterface name)
  have dictionaryBases := fun name =>
    reordered_bases units others place reordered _ _ name (oneDictionary name)
  have interfaceParts := fun name =>
    reordered_fragments units others place reordered (·.interfaces) (·.isPartial) name .interface
      fun _ => rfl
  have dictionaryParts := fun name =>
    reordered_fragments units others place reordered (·.dictionaries) (·.isPartial) name .dictionary
      fun _ => rfl
  constructor
  · rw [merge_fails_iff units, merge_fails_iff others]
    simp only [Orphaned, interfaceBases, dictionaryBases, interfaceParts, dictionaryParts]
  · intro whole other done alsoDone
    have spec := merge_spec units
    have alsoSpec := merge_spec others
    rw [done] at spec
    rw [alsoDone] at alsoSpec
    obtain ⟨_, state, interfaces, dictionaries⟩ := spec
    obtain ⟨_, alsoState, alsoInterfaces, alsoDictionaries⟩ := alsoSpec
    obtain ⟨enumerations, typedefs, callbacks, includes⟩ := merged_others units whole state
    obtain ⟨alsoEnumerations, alsoTypedefs, alsoCallbacks, alsoIncludes⟩ :=
      merged_others others other alsoState
    constructor
    · refine Table.same_entries _ _ fun name => ?_
      rw [interfaces, alsoInterfaces, interfaceBases, interfaceParts]
    · refine Table.same_entries _ _ fun name => ?_
      rw [dictionaries, alsoDictionaries, dictionaryBases, dictionaryParts]
    · refine Table.same_entries _ _ fun name => ?_
      rw [enumerations, alsoEnumerations,
        reordered_given units others place reordered (·.enumerations) name .enumeration
          fun _ => rfl]
    · refine Table.same_entries _ _ fun name => ?_
      rw [typedefs, alsoTypedefs,
        reordered_given units others place reordered (·.typedefs) name .typedef fun _ => rfl]
    · refine Table.same_entries _ _ fun name => ?_
      rw [callbacks, alsoCallbacks,
        reordered_given units others place reordered (·.callbacks) name .callback fun _ => rfl]
    · rw [includes, alsoIncludes]
      exact (reordered_perm units others place reordered).symm.flatMap_right _

def alone (interface : Interface) : Definitions := empty.addInterface interface

theorem base_moved_behind_fragments :
    ∃ front base back whole other place,
      Interface.ofNode (Node.interfaceOf "Foo" ["y"]).asPartial = .ok front ∧
        Interface.ofNode (Node.interfaceOf "Foo" ["x"]) = .ok base ∧
        Interface.ofNode (Node.interfaceOf "Foo" ["z"]).asPartial = .ok back ∧
        Reordered [alone front, alone base, alone back] [alone front, alone back, alone base]
          place ∧
        merge [alone front, alone base, alone back] = .ok whole ∧
        merge [alone front, alone back, alone base] = .ok other ∧
        SameDefinitions whole other ∧
        (whole.interfaces.get? "Foo").map (·.attributes.list.map (·.name)) =
          some ["x", "y", "z"] := by
  obtain ⟨front, first⟩ : ∃ front,
    Interface.ofNode (Node.interfaceOf "Foo" ["y"]).asPartial = .ok front := ⟨_, rfl⟩
  obtain ⟨base, second⟩ : ∃ base,
    Interface.ofNode (Node.interfaceOf "Foo" ["x"]) = .ok base := ⟨_, rfl⟩
  obtain ⟨back, third⟩ : ∃ back,
    Interface.ofNode (Node.interfaceOf "Foo" ["z"]).asPartial = .ok back := ⟨_, rfl⟩
  have orderKept := reordered_iff [alone front, alone base, alone back]
    [alone front, alone back, alone base] (Equiv.swap 1 2)
  have interfacesOnce := once_iff_nodup (·.interfaces) [alone front, alone base, alone back]
    (·.isPartial)
  have dictionariesOnce := once_iff_nodup (·.dictionaries) [alone front, alone base, alone back]
    (·.isPartial)
  have agrees := merge_reordered [alone front, alone base, alone back]
    [alone front, alone back, alone base] (Equiv.swap 1 2)
  cases first
  cases second
  cases third
  have reordered := orderKept.mpr ⟨rfl, by decide +kernel⟩
  have same := (agrees reordered (interfacesOnce.mpr (by decide +kernel))
    (dictionariesOnce.mpr (by decide +kernel))).2
  exact ⟨_, _, _, _, _, _, rfl, rfl, rfl, reordered, rfl, rfl, same _ _ rfl rfl, rfl⟩

end Definitions

end WebIdl
