import Mathlib.Data.List.Nodup
import WebIdl.Proofs.Absorbing
import WebIdl.Proofs.Declarations
import WebIdl.Proofs.TableByTable

set_option autoImplicit false

namespace WebIdl

theorem distinct_erase_dups (texts : List String) : distinct texts = texts.eraseDups := by
  have joined : distinct texts = joinNew [] texts := rfl
  rw [joined, new_only_from]
  simp

theorem distinct_nodup (texts : List String) : (distinct texts).Nodup :=
  join_new_nodup [] texts List.nodup_nil

theorem distinct_keeps (texts : List String) (unique : texts.Nodup) : distinct texts = texts := by
  induction texts using List.reverseRecOn with
  | nil => rfl
  | append_singleton front text ih =>
      obtain ⟨before, _, apart⟩ := List.nodup_append.mp unique
      have fresh : text ∉ front := fun member => apart text member text (by simp) rfl
      have kept := ih before
      unfold distinct at kept ⊢
      rw [List.foldl_append, kept]
      simp [fresh]

theorem distinct_append (front back : List String) :
    distinct (distinct front ++ back) = distinct (front ++ back) := by
  have again : distinct (distinct front) = distinct front := distinct_keeps _ (distinct_nodup front)
  unfold distinct at again ⊢
  rw [List.foldl_append, List.foldl_append, again]

namespace Interface

-- What an interface is after fragments have been folded into it, one after the other. Whatever no
-- field tells is as it was: the name, the parent, and what kind of interface it is.
structure Gathered (base : Interface) (fragments : List Interface) (whole : Interface) : Prop where
  attributes : whole.attributes.list =
    base.attributes.list ++ fragments.flatMap (·.attributes.list)
  constants : whole.constants = base.constants ++ fragments.flatMap (·.constants)
  operations : whole.operations = base.operations ++ fragments.flatMap (·.operations)
  constructors : whole.constructors = base.constructors ++ fragments.flatMap (·.constructors)
  eventHandlers : whole.eventHandlers = base.eventHandlers ++ fragments.flatMap (·.eventHandlers)
  attrs : whole.attrs = (fragments.map (·.attrs)).foldl ExtAttrs.absorb base.attrs
  stringifier : whole.stringifier = (base :: fragments).findSome? (·.stringifier)
  partials : whole.partials = base.partials ++ fragments
  rest : whole =
    { base with
      attributes := whole.attributes
      constants := whole.constants
      operations := whole.operations
      constructors := whole.constructors
      eventHandlers := whole.eventHandlers
      attrs := whole.attrs
      stringifier := whole.stringifier
      partials := whole.partials }

theorem fold_appends {β : Type} (field part : Interface → List β)
    (appends : ∀ base fragment, field (merge base fragment) = field base ++ part fragment)
    (base : Interface) (fragments : List Interface) :
    field (fragments.foldl merge base) = field base ++ fragments.flatMap part := by
  induction fragments generalizing base with
  | nil => simp
  | cons fragment rest ih =>
      rw [List.foldl_cons, ih, appends, List.flatMap_cons, List.append_assoc]

theorem fold_merge_attrs (base : Interface) (fragments : List Interface) :
    (fragments.foldl merge base).attrs =
      (fragments.map (·.attrs)).foldl ExtAttrs.absorb base.attrs := by
  induction fragments generalizing base with
  | nil => rfl
  | cons fragment rest ih =>
      rw [List.foldl_cons, ih, List.map_cons, List.foldl_cons]
      rfl

theorem fold_merge_stringifier (base : Interface) (fragments : List Interface) :
    (fragments.foldl merge base).stringifier =
      (base :: fragments).findSome? (·.stringifier) := by
  induction fragments generalizing base with
  | nil => cases own : base.stringifier <;> simp [own]
  | cons fragment rest ih =>
      rw [List.foldl_cons, ih]
      cases own : base.stringifier <;> simp [merge, own, List.findSome?_cons]

theorem fold_merge_rest (base : Interface) (fragments : List Interface) :
    fragments.foldl merge base =
      { base with
        attributes := (fragments.foldl merge base).attributes
        constants := (fragments.foldl merge base).constants
        operations := (fragments.foldl merge base).operations
        constructors := (fragments.foldl merge base).constructors
        eventHandlers := (fragments.foldl merge base).eventHandlers
        attrs := (fragments.foldl merge base).attrs
        stringifier := (fragments.foldl merge base).stringifier
        partials := (fragments.foldl merge base).partials } := by
  induction fragments generalizing base with
  | nil => cases base; rfl
  | cons fragment rest ih => exact ih (base.merge fragment)

theorem fold_merge_gathered (base : Interface) (fragments : List Interface) :
    Gathered base fragments (fragments.foldl merge base) where
  attributes := fold_appends (·.attributes.list) (·.attributes.list)
    (fun base fragment => AttributeTable.push_all_list base.attributes fragment.attributes.list)
    base fragments
  constants := fold_appends (·.constants) (·.constants) (fun _ _ => rfl) base fragments
  operations := fold_appends (·.operations) (·.operations) (fun _ _ => rfl) base fragments
  constructors := fold_appends (·.constructors) (·.constructors) (fun _ _ => rfl) base fragments
  eventHandlers := fold_appends (·.eventHandlers) (·.eventHandlers) (fun _ _ => rfl) base fragments
  attrs := fold_merge_attrs base fragments
  stringifier := fold_merge_stringifier base fragments
  partials := by
    have kept := fold_appends (·.partials) (fun fragment => [fragment]) (fun _ _ => rfl) base
      fragments
    rwa [List.flatMap_singleton'] at kept
  rest := fold_merge_rest base fragments

end Interface

theorem Enumeration.of_node_nodup (node : Node) (enumeration : Enumeration)
    (built : ofNode node = .ok enumeration) : enumeration.values.Nodup := by
  obtain ⟨name, _, done⟩ := (bind_ok_iff _ _ _).mp built
  cases done
  exact distinct_nodup _

theorem Enumeration.fold_merge (enumeration : Enumeration) (rest : List Enumeration)
    (front : List String) (known : enumeration.values = distinct front) :
    rest.foldl merge enumeration =
      ⟨enumeration.name, distinct (front ++ rest.flatMap (·.values))⟩ := by
  induction rest generalizing enumeration front with
  | nil =>
      rw [List.foldl_nil, List.flatMap_nil, List.append_nil, ← known]
  | cons other rest ih =>
      have step : (enumeration.merge other).values = distinct (front ++ other.values) := by
        rw [merge, known, distinct_append]
      rw [List.foldl_cons, ih _ _ step, List.flatMap_cons, List.append_assoc]
      rfl

theorem Typedef.of_type_union (name : String) (type : IdlType) :
    (ofType name type).type = .union (ofType name type).members := by
  unfold ofType
  split <;> rfl

theorem Typedef.of_node_union (node : Node) (typedef : Typedef)
    (built : ofNode node = .ok typedef) : typedef.type = .union typedef.members := by
  obtain ⟨name, _, rest⟩ := (bind_ok_iff _ _ _).mp built
  split at rest
  · obtain ⟨_, _, rest⟩ := (bind_ok_iff _ _ _).mp rest
    obtain ⟨type, _, done⟩ := (bind_ok_iff _ _ _).mp rest
    cases done
    exact of_type_union name type
  · cases rest

theorem Typedef.merge_name (typedef other : Typedef) :
    (typedef.merge other).name = typedef.name := by
  unfold merge
  split <;> rfl

theorem Typedef.merge_union (typedef other : Typedef)
    (union : typedef.type = .union typedef.members) :
    typedef.merge other = ⟨typedef.name, .union (typedef.members ++ other.members)⟩ := by
  rw [merge, union]

theorem Typedef.fold_merge (typedef : Typedef) (rest : List Typedef)
    (union : typedef.type = .union typedef.members) :
    rest.foldl merge typedef =
      ⟨typedef.name, .union (typedef.members ++ rest.flatMap (·.members))⟩ := by
  induction rest generalizing typedef with
  | nil => rw [List.foldl_nil, List.flatMap_nil, List.append_nil, ← union]
  | cons other rest ih =>
      rw [List.foldl_cons, merge_union typedef other union, ih _ rfl, List.flatMap_cons,
        ← List.append_assoc]
      rfl

theorem Enumeration.merged_all (name : String) (several : List Enumeration)
    (declared : ∀ enumeration ∈ several,
      enumeration.name = name ∧ enumeration.values.Nodup) :
    Definitions.mergedAll merge several =
      (Table.group several).map fun several =>
        ⟨name, (several.flatMap (·.values)).eraseDups⟩ := by
  cases several with
  | nil => rfl
  | cons first rest =>
      obtain ⟨named, apart⟩ := declared first List.mem_cons_self
      rw [Definitions.mergedAll, fold_merge first rest first.values (distinct_keeps _ apart).symm,
        named, distinct_erase_dups, Table.group_some _ (List.cons_ne_nil first rest),
        Option.map_some, List.flatMap_cons]

theorem Typedef.merged_all (name : String) (several : List Typedef)
    (declared : ∀ typedef ∈ several,
      typedef.name = name ∧ typedef.type = .union typedef.members) :
    Definitions.mergedAll merge several =
      (Table.group several).map fun several => ⟨name, .union (several.flatMap (·.members))⟩ := by
  cases several with
  | nil => rfl
  | cons first rest =>
      obtain ⟨named, union⟩ := declared first List.mem_cons_self
      rw [Definitions.mergedAll, fold_merge first rest union, named,
        Table.group_some _ (List.cons_ne_nil first rest), Option.map_some, List.flatMap_cons]

namespace Definitions

theorem fold_members (dictionary : Dictionary) (fragments : List Dictionary) :
    fragments.foldl foldMembers dictionary =
      { dictionary with members := dictionary.members ++ fragments.flatMap (·.members) } := by
  induction fragments generalizing dictionary with
  | nil => rw [List.foldl_nil, List.flatMap_nil, List.append_nil]
  | cons fragment rest ih =>
      rw [List.foldl_cons, ih, List.flatMap_cons, ← List.append_assoc]
      rfl

section Units

variable {α : Type} (table : Definitions → Table α) (units : List Definitions)

def given (name : String) : List α := units.filterMap fun unit => (table unit).get? name

def bases (isFragment : α → Bool) (name : String) : List α :=
  (given table units name).filter (!isFragment ·)

def fragments (isFragment : α → Bool) (name : String) : List α :=
  (given table units name).filter (isFragment ·)

def Orphaned (isFragment : α → Bool) (name : String) : Prop :=
  fragments table units isFragment name ≠ [] ∧ bases table units isFragment name = []

def entries : List (String × α) := units.flatMap fun unit => (table unit).entries

theorem under_entries (name : String) :
    Table.under name (entries table units) = given table units name := by
  rw [entries, Table.under_flat_map, given, List.filterMap_eq_flatMap_toList]
  exact List.flatMap_congr fun unit _ => (table unit).under_entries name

theorem merged_given (merge : α → α → α) (name : String) :
    ((entries table units).foldl (takeMerged merge) .empty).get? name =
      mergedAll merge (given table units name) := by
  rw [take_merged_get, under_entries table units]
  rfl

theorem under_bases (isFragment : α → Bool) (name : String) :
    Table.under name ((entries table units).filter fun entry => !isFragment entry.2) =
      bases table units isFragment name := by
  rw [Table.under_filter name _ (!isFragment ·), under_entries, bases]

theorem under_fragments (isFragment : α → Bool) (name : String) :
    Table.under name ((entries table units).filter fun entry => isFragment entry.2) =
      fragments table units isFragment name := by
  rw [Table.under_filter name _ (isFragment ·), under_entries, fragments]

theorem once_iff_nodup (isFragment : α → Bool) :
    (∀ name, (bases table units isFragment name).length ≤ 1) ↔
      (((entries table units).filter fun entry => !isFragment entry.2).map (·.1)).Nodup := by
  refine (forall_congr' fun name => ?_).trans List.nodup_iff_count_le_one.symm
  rw [← under_bases, Table.under, List.length_map, List.count, List.countP_map,
    List.countP_eq_length_filter]
  rfl

def foldedUnits (isFragment : α → Bool) (fold : α → α → α) (missing : String → IdlError) :
    Attempt IdlError (Table α) :=
  Attempt.each (takeFolded isFragment fold missing)
    ((entries table units).filter (fun entry => !isFragment entry.2) ++
      (entries table units).filter fun entry => isFragment entry.2) .empty

theorem folded_units_spec (isFragment : α → Bool) (fold : α → α → α)
    (missing : String → IdlError) :
    match (foldedUnits table units isFragment fold missing).failure with
    | some error => ∃ name, Orphaned table units isFragment name ∧ error = missing name
    | none => (∀ name, ¬ Orphaned table units isFragment name) ∧
        ∀ name, (foldedUnits table units isFragment fold missing).state.get? name =
          (bases table units isFragment name).getLast?.map fun base =>
            (fragments table units isFragment name).foldl fold base := by
  have added : ∀ name, fragments table units isFragment name ≠ [] ↔
      ∃ entry ∈ (entries table units).filter (fun entry => isFragment entry.2), entry.1 = name := by
    intro name
    rw [← under_fragments, ne_eq, Table.under_eq_nil_iff, not_not, List.mem_map]
  have spec := take_bases_then_fragments isFragment fold missing
    ((entries table units).filter fun entry => !isFragment entry.2)
    ((entries table units).filter fun entry => isFragment entry.2)
    (fun entry member => by simpa using (List.mem_filter.mp member).2)
    (fun entry member => (List.mem_filter.mp member).2)
  rw [← foldedUnits] at spec
  cases ended : (foldedUnits table units isFragment fold missing).failure with
  | some error =>
      rw [ended] at spec
      obtain ⟨entry, member, absent, named⟩ := spec
      exact ⟨entry.1, ⟨(added entry.1).mpr ⟨entry, member, rfl⟩, under_bases table units isFragment entry.1 ▸ absent⟩, named⟩
  | none =>
      rw [ended] at spec
      obtain ⟨present, values⟩ := spec
      constructor
      · rintro name ⟨inhabited, absent⟩
        obtain ⟨entry, member, rfl⟩ := (added name).mp inhabited
        exact present entry member ((under_bases table units isFragment entry.1).trans absent)
      · intro name
        rw [values, under_bases, under_fragments]

end Units

def splitUnits (units : List Definitions) : List Definitions :=
  units.map (·.splitPartials.1) ++ units.map (·.splitPartials.2)

theorem merge_one_row (units : List Definitions) :
    merge units = (empty.updateAll (splitUnits units)).result := by
  unfold merge splitUnits updateAll
  rw [Attempt.each_append]

theorem split_interfaces (units : List Definitions) :
    Attempt.each takeInterface ((splitUnits units).flatMap (·.interfaces.entries)) .empty =
      foldedUnits (·.interfaces) units (·.isPartial) Interface.merge .noInterfaceToMerge := by
  simp [splitUnits, List.flatMap_map, splitPartials, Table.partition, foldedUnits, entries,
    List.filter_flatMap, takeInterface]

theorem split_dictionaries (units : List Definitions) :
    Attempt.each takeDictionary ((splitUnits units).flatMap (·.dictionaries.entries)) .empty =
      foldedUnits (·.dictionaries) units (·.isPartial) foldMembers .noDictionaryToMerge := by
  simp [splitUnits, List.flatMap_map, splitPartials, Table.partition, foldedUnits, entries,
    List.filter_flatMap, takeDictionary]

theorem split_others (units : List Definitions) :
    (splitUnits units).flatMap (·.enumerations.entries) = entries (·.enumerations) units ∧
      (splitUnits units).flatMap (·.typedefs.entries) = entries (·.typedefs) units ∧
      (splitUnits units).flatMap (·.callbacks.entries) = entries (·.callbacks) units ∧
      (splitUnits units).flatMap (·.includes) = units.flatMap (·.includes) ∧
      (splitUnits units).findSome? (·.firstName) = units.findSome? (·.firstName) := by
  have silent : units.findSome? (fun _ => (none : Option String)) = none :=
    List.findSome?_eq_none_iff.mpr fun _ _ => rfl
  simp [silent, splitUnits, List.flatMap_map, List.findSome?_append, List.findSome?_map,
    Function.comp_def, splitPartials, empty, entries]

theorem merge_spec (units : List Definitions) :
    match merge units with
    | .error error => ∃ name,
        Orphaned (·.interfaces) units (·.isPartial) name ∧ error = .noInterfaceToMerge name ∨
          Orphaned (·.dictionaries) units (·.isPartial) name ∧ error = .noDictionaryToMerge name
    | .ok whole => (∀ name, ¬ Orphaned (·.interfaces) units (·.isPartial) name ∧
          ¬ Orphaned (·.dictionaries) units (·.isPartial) name) ∧
        whole = empty.tableByTable (splitUnits units) ∧
        (∀ name, whole.interfaces.get? name =
          (bases (·.interfaces) units (·.isPartial) name).getLast?.map fun base =>
            (fragments (·.interfaces) units (·.isPartial) name).foldl Interface.merge base) ∧
        ∀ name, whole.dictionaries.get? name =
          (bases (·.dictionaries) units (·.isPartial) name).getLast?.map fun base =>
            (fragments (·.dictionaries) units (·.isPartial) name).foldl foldMembers base := by
  have interfaces := folded_units_spec (·.interfaces) units (·.isPartial) Interface.merge
    .noInterfaceToMerge
  have dictionaries := folded_units_spec (·.dictionaries) units (·.isPartial) foldMembers
    .noDictionaryToMerge
  rw [← split_interfaces] at interfaces
  rw [← split_dictionaries] at dictionaries
  have row := update_all_spec empty (splitUnits units)
  rw [merge_one_row, Attempt.result]
  cases ended : (empty.updateAll (splitUnits units)).failure with
  | some error =>
      rw [ended] at row
      rcases row with broke | broke
      · rw [empty] at broke
        rw [broke] at interfaces
        obtain ⟨name, orphaned, named⟩ := interfaces
        exact ⟨name, .inl ⟨orphaned, named⟩⟩
      · rw [empty] at broke
        rw [broke] at dictionaries
        obtain ⟨name, orphaned, named⟩ := dictionaries
        exact ⟨name, .inr ⟨orphaned, named⟩⟩
  | none =>
      rw [ended] at row
      obtain ⟨first, second, state⟩ := row
      rw [empty] at first second
      rw [first] at interfaces
      rw [second] at dictionaries
      refine ⟨fun name => ⟨interfaces.1 name, dictionaries.1 name⟩, state, ?_, ?_⟩
      · intro name
        rw [state]
        exact interfaces.2 name
      · intro name
        rw [state]
        exact dictionaries.2 name

theorem merge_fails_iff (units : List Definitions) :
    (∃ error, merge units = .error error) ↔
      ∃ name, Orphaned (·.interfaces) units (·.isPartial) name ∨
        Orphaned (·.dictionaries) units (·.isPartial) name := by
  have spec := merge_spec units
  cases done : merge units with
  | error error =>
      rw [done] at spec
      obtain ⟨name, orphaned⟩ := spec
      exact ⟨fun _ => ⟨name, orphaned.imp And.left And.left⟩, fun _ => ⟨error, rfl⟩⟩
  | ok whole =>
      rw [done] at spec
      refine ⟨by simp, ?_⟩
      rintro ⟨name, orphaned | orphaned⟩
      · exact absurd orphaned (spec.1 name).1
      · exact absurd orphaned (spec.1 name).2

theorem merged_callbacks (units : List Definitions) (name : String) :
    (empty.tableByTable (splitUnits units)).callbacks.get? name =
      (given (·.callbacks) units name).getLast? := by
  rw [tableByTable, (split_others units).2.2.1, Table.get_insert_all, under_entries]
  exact Option.or_none

section Built

variable (units : List Definitions) (built : ∀ unit ∈ units, ∃ root, ofNode root = .ok unit)

include built

theorem given_built {α : Type} (table : Definitions → Table α) (name : String) (value : α)
    (member : value ∈ given table units name) :
    ∃ root unit, ofNode root = .ok unit ∧ (table unit).get? name = some value := by
  obtain ⟨unit, present, found⟩ := List.mem_filterMap.mp member
  obtain ⟨root, read⟩ := built unit present
  exact ⟨root, unit, read, found⟩

theorem merged_enumerations (name : String) :
    (empty.tableByTable (splitUnits units)).enumerations.get? name =
      (Table.group (given (·.enumerations) units name)).map fun several =>
        ⟨name, (several.flatMap (·.values)).eraseDups⟩ := by
  have merged := merged_given (·.enumerations) units Enumeration.merge name
  rw [tableByTable, (split_others units).1]
  refine merged.trans (Enumeration.merged_all name _ ?_)
  intro enumeration member
  obtain ⟨root, unit, read, found⟩ := given_built units built (·.enumerations) name _ member
  have stands : unit.standing name .enumeration = some (.enumeration enumeration) := by
    rw [standing, found, Option.map_some]
  obtain ⟨named, child, _, made⟩ := standing_read root unit read name .enumeration _ stands
  exact ⟨named, Enumeration.of_node_nodup child enumeration made⟩

theorem merged_typedefs (name : String) :
    (empty.tableByTable (splitUnits units)).typedefs.get? name =
      (Table.group (given (·.typedefs) units name)).map fun several =>
        ⟨name, .union (several.flatMap (·.members))⟩ := by
  have merged := merged_given (·.typedefs) units Typedef.merge name
  rw [tableByTable, (split_others units).2.1]
  refine merged.trans (Typedef.merged_all name _ ?_)
  intro typedef member
  obtain ⟨root, unit, read, found⟩ := given_built units built (·.typedefs) name _ member
  have stands : unit.standing name .typedef = some (.typedef typedef) := by
    rw [standing, found, Option.map_some]
  obtain ⟨named, child, _, made⟩ := standing_read root unit read name .typedef _ stands
  exact ⟨named, Typedef.of_node_union child typedef made⟩

theorem base_no_partials (name : String) (base : Interface)
    (last : (bases (·.interfaces) units (·.isPartial) name).getLast? = some base) :
    base.partials = [] := by
  have member := (List.mem_filter.mp (List.mem_of_getLast? last)).1
  obtain ⟨root, unit, read, found⟩ := given_built units built (·.interfaces) name base member
  obtain ⟨_, child, _, _, made⟩ := interface_declared root unit read name base found
  exact Interface.of_node_no_partials child base made

theorem given_read (name : String) (interface : Interface)
    (member : interface ∈ given (·.interfaces) units name) :
    ∃ node, Interface.ofNode node = .ok interface := by
  obtain ⟨root, unit, read, found⟩ := given_built units built (·.interfaces) name _ member
  obtain ⟨_, child, _, _, made⟩ := interface_declared root unit read name interface found
  exact ⟨child, made⟩

theorem declared_gathered (whole : Definitions) (done : merge units = .ok whole) (name : String)
    (declared : Interface) (member : declared ∈ given (·.interfaces) units name) :
    ∃ base merged, (bases (·.interfaces) units (·.isPartial) name).getLast? = some base ∧
      whole.interfaces.get? name = some merged ∧
      base.Gathered (fragments (·.interfaces) units (·.isPartial) name) merged ∧
      ∀ part ∈ base :: fragments (·.interfaces) units (·.isPartial) name,
        ∃ node, Interface.ofNode node = .ok part := by
  have spec := merge_spec units
  rw [done] at spec
  obtain ⟨housed, _, interfaces, _⟩ := spec
  cases last : (bases (·.interfaces) units (·.isPartial) name).getLast? with
  | none =>
      have alone := List.getLast?_eq_none_iff.mp last
      have fragment : declared ∈ fragments (·.interfaces) units (·.isPartial) name := by
        have whole_or_part := List.filter_eq_nil_iff.mp alone declared member
        exact List.mem_filter.mpr ⟨member, by simpa using whole_or_part⟩
      exact absurd ⟨List.ne_nil_of_mem fragment, alone⟩ (housed name).1
  | some base =>
      refine ⟨base, _, rfl, by rw [interfaces, last, Option.map_some],
        Interface.fold_merge_gathered base _, List.forall_mem_cons.mpr ⟨?_, fun part among => ?_⟩⟩
      · exact given_read units built name base (List.mem_filter.mp (List.mem_of_getLast? last)).1
      · exact given_read units built name part (List.mem_filter.mp among).1

end Built

-- A base counts if it is the only one or the last one of its name.
structure Conserved (units : List Definitions) (whole : Definitions) : Prop where
  interfaces : ∀ name base,
    (bases (·.interfaces) units (·.isPartial) name).getLast? = some base →
      ∃ merged, whole.interfaces.get? name = some merged ∧
        base.Gathered (fragments (·.interfaces) units (·.isPartial) name) merged ∧
        merged.partials = fragments (·.interfaces) units (·.isPartial) name
  noInterface : ∀ name, bases (·.interfaces) units (·.isPartial) name = [] →
    whole.interfaces.get? name = none
  dictionaries : ∀ name, whole.dictionaries.get? name =
    (bases (·.dictionaries) units (·.isPartial) name).getLast?.map fun base =>
      { base with members := base.members ++
          (fragments (·.dictionaries) units (·.isPartial) name).flatMap (·.members) }
  enumerations : ∀ name, whole.enumerations.get? name =
    (Table.group (given (·.enumerations) units name)).map fun several =>
      ⟨name, (several.flatMap (·.values)).eraseDups⟩
  typedefs : ∀ name, whole.typedefs.get? name =
    (Table.group (given (·.typedefs) units name)).map fun several =>
      ⟨name, .union (several.flatMap (·.members))⟩
  callbacks : ∀ name, whole.callbacks.get? name = (given (·.callbacks) units name).getLast?
  includes : whole.includes = units.flatMap (·.includes)
  firstName : whole.firstName = units.findSome? (·.firstName)
  filePath : whole.filePath = none

theorem conserved_of_tables (units : List Definitions)
    (built : ∀ unit ∈ units, ∃ root, ofNode root = .ok unit) (whole : Definitions)
    (state : whole = empty.tableByTable (splitUnits units))
    (interfaces : ∀ name, whole.interfaces.get? name =
      (bases (·.interfaces) units (·.isPartial) name).getLast?.map fun base =>
        (fragments (·.interfaces) units (·.isPartial) name).foldl Interface.merge base)
    (dictionaries : ∀ name, whole.dictionaries.get? name =
      (bases (·.dictionaries) units (·.isPartial) name).getLast?.map fun base =>
        (fragments (·.dictionaries) units (·.isPartial) name).foldl foldMembers base) :
    Conserved units whole where
  interfaces := by
    intro name base last
    have gathered := Interface.fold_merge_gathered base
      (fragments (·.interfaces) units (·.isPartial) name)
    refine ⟨_, by rw [interfaces, last, Option.map_some], gathered, ?_⟩
    rw [gathered.partials, base_no_partials units built name base last, List.nil_append]
  noInterface := by
    intro name alone
    rw [interfaces, alone]
    rfl
  dictionaries := by
    intro name
    rw [dictionaries]
    simp only [fold_members]
  enumerations := by
    intro name
    rw [state, merged_enumerations units built]
  typedefs := by
    intro name
    rw [state, merged_typedefs units built]
  callbacks := by
    intro name
    rw [state, merged_callbacks units]
  includes := by
    rw [state, tableByTable, (split_others units).2.2.2.1]
    rfl
  firstName := by
    rw [state, tableByTable, (split_others units).2.2.2.2]
    rfl
  filePath := by
    rw [state]
    rfl

theorem merge_conserves (units : List Definitions)
    (built : ∀ unit ∈ units, ∃ root, ofNode root = .ok unit) :
    ((∃ error, merge units = .error error) ↔
      ∃ name, Orphaned (·.interfaces) units (·.isPartial) name ∨
        Orphaned (·.dictionaries) units (·.isPartial) name) ∧
    (∀ error, merge units = .error error → ∃ name,
      Orphaned (·.interfaces) units (·.isPartial) name ∧ error = .noInterfaceToMerge name ∨
        Orphaned (·.dictionaries) units (·.isPartial) name ∧ error = .noDictionaryToMerge name) ∧
    ∀ whole, merge units = .ok whole → Conserved units whole := by
  have spec := merge_spec units
  refine ⟨merge_fails_iff units, fun error done => ?_, fun whole done => ?_⟩
  · rwa [done] at spec
  · rw [done] at spec
    obtain ⟨_, state, interfaces, dictionaries⟩ := spec
    exact conserved_of_tables units built whole state interfaces dictionaries

theorem fragment_before_base_conserved :
    ∃ part whole base merged,
      ofNode (Node.fileOf [(Node.interfaceOf "Foo" ["y"]).asPartial]) = .ok part ∧
        ofNode (Node.fileOf [Node.interfaceOf "Foo" ["x"]]) = .ok whole ∧
        merge [part, whole] = .ok merged ∧ Conserved [part, whole] merged ∧
        bases (·.interfaces) [part, whole] (·.isPartial) "Foo" = [base] ∧
        (merged.interfaces.get? "Foo").map (·.attributes.list.map (·.name)) =
          some ["x", "y"] := by
  obtain ⟨part, first⟩ : ∃ part,
    ofNode (Node.fileOf [(Node.interfaceOf "Foo" ["y"]).asPartial]) = .ok part := ⟨_, rfl⟩
  obtain ⟨whole, second⟩ : ∃ whole,
    ofNode (Node.fileOf [Node.interfaceOf "Foo" ["x"]]) = .ok whole := ⟨_, rfl⟩
  have conserves := (merge_conserves [part, whole] (by
    simp only [List.forall_mem_cons]
    exact ⟨⟨_, first⟩, ⟨_, second⟩, by simp⟩)).2.2
  cases first
  cases second
  exact ⟨_, _, _, _, rfl, rfl, rfl, conserves _ rfl, rfl, rfl⟩

end Definitions

end WebIdl
