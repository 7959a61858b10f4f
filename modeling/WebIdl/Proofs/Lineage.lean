import Mathlib.Data.List.Nodup
import Mathlib.Logic.Relation
import WebIdl.Definitions.Resolve
import WebIdl.Proofs.AttributeIndex

set_option autoImplicit false

namespace WebIdl.Interface

def names (interface : Interface) : List String := interface.attributes.list.map (·.name)

-- Operations without a name are declared under no name, and count as a set of their own.
def declared (interface : Interface) (name : Option String) : List Operation :=
  interface.operations.filter (·.name == name)

def declares (interface : Interface) (name : Option String) : Bool :=
  interface.operations.any (·.name == name)

def unshadowed (nearer : List String) : List Interface → List Attribute
  | [] => []
  | interface :: above =>
      interface.attributes.list.filter (fun item => !nearer.contains item.name) ++
        unshadowed (nearer ++ interface.names) above

-- Extended attributes are absorbed from the top, each interface taking in what is above it.
def absorbed (interface : Interface) : List Interface → ExtAttrs
  | [] => interface.attrs
  | parent :: above => interface.attrs.absorb (absorbed parent above)

def withAbove (interface : Interface) : List Interface → Interface
  | [] => interface
  | parent :: above => interface.inherit (withAbove parent above)

theorem overloads_from (operations front : List Operation) (groups : Table (List Operation))
    (gathered : ∀ name, groups.get? name = Table.group (front.filter (·.name == some name)))
    (name : String) :
    (operations.foldl
      (fun groups operation =>
        match operation.name with
        | none => groups
        | some name => groups.insert name ((groups.get? name).getD [] ++ [operation]))
      groups).get? name = Table.group ((front ++ operations).filter (·.name == some name)) := by
  induction operations generalizing front groups with
  | nil => rw [List.foldl_nil, List.append_nil, gathered]
  | cons operation rest ih =>
      rw [List.foldl_cons, List.append_cons front operation rest]
      apply ih
      intro name
      cases declares : operation.name with
      | none => simp [declares, gathered]
      | some own =>
          rw [Table.get_insert, gathered, Table.group_get, List.filter_append]
          by_cases same : own = name
          · simp [declares, same, Table.group_append_one]
          · simp [declares, same, gathered]

theorem overloads_get (interface : Interface) (name : String) :
    interface.overloads.get? name = Table.group (interface.declared (some name)) :=
  overloads_from interface.operations [] .empty (fun _ => rfl) name

theorem declared_eq_nil_iff (interface : Interface) (name : Option String) :
    interface.declared name = [] ↔ interface.declares name = false := by
  rw [declared, List.filter_eq_nil_iff, declares, List.any_eq_false]

theorem inherit_declared (interface parent : Interface) (name : Option String) :
    (interface.inherit parent).declared name =
      if interface.declares name then interface.declared name else parent.declared name := by
  have own : (interface.operations.map (·.name)).contains name = interface.declares name := by
    rw [declares, List.contains_eq_any_beq, List.any_map]
    congr 1
    funext operation
    exact Bool.beq_comm
  have taken : (parent.operations.filter
      (fun operation => !(interface.operations.map (·.name)).contains operation.name)).filter
        (·.name == name) =
      if interface.declares name then [] else parent.declared name := by
    have tests : ∀ operation ∈ parent.operations,
        (operation.name == name &&
          !(interface.operations.map (·.name)).contains operation.name) =
        (operation.name == name && !interface.declares name) := by
      intro operation _
      by_cases same : operation.name = name
      · rw [same, own]
      · rw [beq_eq_false_iff_ne.mpr same, Bool.false_and, Bool.false_and]
    rw [List.filter_filter, List.filter_congr tests]
    cases interface.declares name <;> simp [declared]
  have split : (interface.inherit parent).declared name = interface.declared name ++
      if interface.declares name then [] else parent.declared name := by
    rw [← taken]
    exact List.filter_append _ _
  rw [split]
  by_cases present : interface.declares name = true
  · rw [if_pos present, if_pos present, List.append_nil]
  · rw [if_neg present, if_neg present,
      (declared_eq_nil_iff interface name).mpr (by simpa using present), List.nil_append]

theorem with_above_declared (interface : Interface) (above : List Interface)
    (name : Option String) :
    (interface.withAbove above).declared name =
      (((interface :: above).find? (·.declares name)).map (·.declared name)).getD [] := by
  induction above generalizing interface with
  | nil =>
      cases present : interface.declares name with
      | true => simp [withAbove, present]
      | false => simpa [withAbove, present] using (declared_eq_nil_iff interface name).mpr present
  | cons parent above ih =>
      rw [withAbove, inherit_declared, ih parent]
      cases present : interface.declares name with
      | true => simp [present]
      | false => simp [present]

theorem with_above_constants (interface : Interface) (above : List Interface) :
    (interface.withAbove above).constants = (interface :: above).flatMap (·.constants) := by
  induction above generalizing interface with
  | nil => simp [withAbove]
  | cons parent above ih =>
      rw [withAbove, List.flatMap_cons, ← ih parent]
      rfl

theorem with_above_stringifier (interface : Interface) (above : List Interface) :
    (interface.withAbove above).stringifier = (interface :: above).findSome? (·.stringifier) := by
  induction above generalizing interface with
  | nil => cases own : interface.stringifier <;> simp [withAbove, own]
  | cons parent above ih =>
      rw [List.findSome?_cons, ← ih parent]
      change interface.stringifier.or (parent.withAbove above).stringifier = _
      cases interface.stringifier <;> rfl

theorem with_above_event_handlers (interface : Interface) (above : List Interface) :
    (interface.withAbove above).eventHandlers =
      (interface :: above).flatMap (·.eventHandlers) := by
  induction above generalizing interface with
  | nil => simp [withAbove]
  | cons parent above ih =>
      rw [withAbove, List.flatMap_cons, ← ih parent]
      rfl

theorem with_above_attrs (interface : Interface) (above : List Interface) :
    (interface.withAbove above).attrs = interface.absorbed above := by
  induction above generalizing interface with
  | nil => rfl
  | cons parent above ih =>
      rw [absorbed, ← ih parent]
      rfl

theorem adopt_list_taken (table : AttributeTable) (items : List Attribute) :
    ∃ taken, taken.Sublist items ∧ (adopt table items).list = table.list ++ taken := by
  unfold adopt
  induction items generalizing table with
  | nil => exact ⟨[], .slnil, (List.append_nil _).symm⟩
  | cons item rest ih =>
      rw [List.foldl_cons]
      by_cases present : table.contains item.name = true
      · rw [if_pos present]
        obtain ⟨taken, part, listed⟩ := ih table
        exact ⟨taken, part.cons item, listed⟩
      · rw [if_neg present]
        obtain ⟨taken, part, listed⟩ := ih (table.push item)
        refine ⟨item :: taken, part.cons_cons item, ?_⟩
        rw [listed, AttributeTable.push_list, List.append_assoc, List.singleton_append]

theorem adopt_list (table : AttributeTable) (items : List Attribute)
    (unique : (items.map (·.name)).Nodup) :
    (adopt table items).list = table.list ++
      items.filter fun item => !(table.list.map (·.name)).contains item.name := by
  unfold adopt
  induction items generalizing table with
  | nil => simp
  | cons item rest ih =>
      rw [List.map_cons, List.nodup_cons] at unique
      have present := AttributeTable.contains_iff_member table item.name
      have listed : (table.list.map (·.name)).contains item.name = table.contains item.name := by
        rw [Bool.eq_iff_iff, present, List.contains_iff_mem, List.mem_map]
      rw [List.foldl_cons, List.filter_cons, listed]
      cases hit : table.contains item.name with
      | true => simpa [hit] using ih table unique.2
      | false =>
          -- No later attribute has the name that has just been pushed.
          have later : rest.filter (fun other =>
                !((table.push item).list.map (·.name)).contains other.name) =
              rest.filter fun other => !(table.list.map (·.name)).contains other.name := by
            apply List.filter_congr
            intro other member
            have different : other.name ≠ item.name := fun same =>
              unique.1 (same ▸ List.mem_map_of_mem member)
            simp [AttributeTable.push_list, different]
          have pushed := ih (table.push item) unique.2
          rw [later, AttributeTable.push_list, List.append_assoc, List.singleton_append] at pushed
          simpa only [hit, Bool.not_false, Bool.false_eq_true, if_true, if_false] using pushed

theorem adopt_names (table : AttributeTable) (items : List Attribute) (name : String) :
    name ∈ (adopt table items).list.map (·.name) ↔
      name ∈ table.list.map (·.name) ∨ name ∈ items.map (·.name) := by
  unfold adopt
  induction items generalizing table with
  | nil => simp
  | cons item rest ih =>
      rw [List.foldl_cons]
      by_cases present : table.contains item.name = true
      · rw [if_pos present, ih table, List.map_cons, List.mem_cons]
        have known : item.name ∈ table.list.map (·.name) :=
          List.mem_map.mpr ((AttributeTable.contains_iff_member table _).mp present)
        constructor
        · exact Or.imp_right .inr
        · rintro (own | rfl | later)
          · exact .inl own
          · exact .inl known
          · exact .inr later
      · rw [if_neg present, ih (table.push item), AttributeTable.push_list, List.map_append,
          List.mem_append, List.map_cons, List.map_cons, List.map_nil, List.mem_singleton,
          List.mem_cons, or_assoc]

theorem adopt_names_nodup (table : AttributeTable) (items : List Attribute)
    (own : (table.list.map (·.name)).Nodup)
    (unique : (items.map (·.name)).Nodup) : ((adopt table items).list.map (·.name)).Nodup := by
  rw [adopt_list table items unique, List.map_append, List.nodup_append]
  refine ⟨own, (List.filter_sublist.map _).nodup unique, ?_⟩
  intro name listed other added same
  obtain ⟨item, member, rfl⟩ := List.mem_map.mp added
  have absent := (List.mem_filter.mp member).2
  rw [← same, List.contains_iff_mem.mpr listed] at absent
  cases absent

theorem unshadowed_filter (own nearer : List String) (chain : List Interface) :
    (unshadowed nearer chain).filter (fun item => !own.contains item.name) =
      unshadowed (own ++ nearer) chain := by
  induction chain generalizing nearer with
  | nil => rfl
  | cons interface above ih =>
      rw [unshadowed, unshadowed, List.filter_append, ih, List.filter_filter, List.append_assoc]
      congr 1
      apply List.filter_congr
      intro item _
      rw [List.contains_append, Bool.not_or]

theorem with_above_attributes (interface : Interface) (above : List Interface)
    (unique : ∀ other ∈ interface :: above, other.names.Nodup) :
    (interface.withAbove above).names.Nodup ∧
      (interface.withAbove above).attributes.list = unshadowed [] (interface :: above) := by
  induction above generalizing interface with
  | nil =>
      refine ⟨unique interface List.mem_cons_self, ?_⟩
      simp [withAbove, unshadowed]
  | cons parent above ih =>
      obtain ⟨distinct, listed⟩ := ih parent
        fun other member => unique other (List.mem_cons_of_mem interface member)
      refine ⟨adopt_names_nodup _ _ (unique interface List.mem_cons_self) distinct, ?_⟩
      have hidden : (parent.withAbove above).attributes.list.filter
          (fun item => !interface.names.contains item.name) =
          unshadowed interface.names (parent :: above) := by
        rw [listed, unshadowed_filter, List.append_nil]
      have adopted := adopt_list interface.attributes _ distinct
      rw [unshadowed, List.nil_append, ← hidden]
      simpa [withAbove, inherit, names] using adopted

theorem with_above_name (interface : Interface) (above : List Interface) :
    (interface.withAbove above).name = interface.name := by
  cases above <;> rfl

theorem with_above_parent (interface : Interface) (above : List Interface) :
    (interface.withAbove above).parent = interface.parent := by
  cases above <;> rfl

structure AnswersNearest (interface : Interface) (above : List Interface) (resolved : Interface) :
    Prop where
  overloads : ∀ name nearest,
    (interface :: above).find? (·.declares (some name)) = some nearest →
      resolved.overloads.get? name = nearest.overloads.get? name ∧
        nearest.overloads.get? name = some (nearest.declared (some name))
  undeclared : ∀ name, (∀ other ∈ interface :: above, other.declares (some name) = false) →
    resolved.overloads.get? name = none
  unnamed : resolved.declared none =
    (((interface :: above).find? (·.declares none)).map (·.declared none)).getD []
  attributes : (∀ other ∈ interface :: above, other.names.Nodup) →
    resolved.attributes.list = unshadowed [] (interface :: above)
  constants : resolved.constants = (interface :: above).flatMap (·.constants)
  stringifier : resolved.stringifier = (interface :: above).findSome? (·.stringifier)
  eventHandlers : resolved.eventHandlers = (interface :: above).flatMap (·.eventHandlers)
  attrs : resolved.attrs = interface.absorbed above
  rest : resolved =
    { interface with
      attributes := resolved.attributes
      constants := resolved.constants
      operations := resolved.operations
      eventHandlers := resolved.eventHandlers
      attrs := resolved.attrs
      stringifier := resolved.stringifier }

theorem with_above_answers (interface : Interface) (above : List Interface) :
    AnswersNearest interface above (interface.withAbove above) where
  overloads name nearest found := by
    have declares : nearest.declares (some name) = true := by simpa using List.find?_some found
    have inhabited : nearest.declared (some name) ≠ [] := by
      rw [ne_eq, declared_eq_nil_iff, declares]
      simp
    have whole : nearest.overloads.get? name = some (nearest.declared (some name)) := by
      rw [overloads_get, Table.group_some _ inhabited]
    refine ⟨?_, whole⟩
    rw [whole, overloads_get, with_above_declared, found, Option.map_some, Option.getD_some,
      Table.group_some _ inhabited]
  undeclared name absent := by
    have nowhere : (interface :: above).find? (·.declares (some name)) = none :=
      List.find?_eq_none.mpr fun other member => by simp [absent other member]
    have sets := with_above_declared interface above (some name)
    rw [nowhere, Option.map_none, Option.getD_none] at sets
    rw [overloads_get, sets]
    rfl
  unnamed := with_above_declared interface above none
  attributes unique := (with_above_attributes interface above unique).2
  constants := with_above_constants interface above
  stringifier := with_above_stringifier interface above
  eventHandlers := with_above_event_handlers interface above
  attrs := with_above_attrs interface above
  rest := by
    cases above with
    | nil => cases interface; rfl
    | cons => rfl

end WebIdl.Interface

namespace WebIdl.Definitions

def parentName (table : Table Interface) (name : String) : Option String :=
  (table.get? name).bind (·.parent)

-- One step of the walk through a table. Only a name that has an entry has a step above it, so a
-- parent without an entry ends the walk.
def Above (table : Table Interface) (child parent : String) : Prop :=
  parentName table child = some parent

def Returns (table : Table Interface) (name : String) : Prop :=
  Relation.TransGen (Above table) name name

-- Some walk comes back to a name that it has passed, be it the one that it started from or not.
def Cyclic (table : Table Interface) : Prop :=
  ∃ start name, Relation.ReflTransGen (Above table) start name ∧ Returns table name

inductive Lineage (table : Table Interface) : Option String → List Interface → Prop
  | top : Lineage table none []
  | outside (name : String) (missing : table.get? name = none) : Lineage table (some name) []
  | entry (name : String) (interface : Interface) (above : List Interface)
      (found : table.get? name = some interface) (rest : Lineage table interface.parent above) :
      Lineage table (some name) (interface :: above)

theorem lineage_unique (table : Table Interface) (name : Option String) (a b : List Interface)
    (left : Lineage table name a) (right : Lineage table name b) : a = b := by
  induction left generalizing b with
  | top =>
      cases right
      rfl
  | outside name missing =>
      cases right with
      | outside => rfl
      | entry _ interface _ found => simp [missing] at found
  | entry name interface above found rest ih =>
      cases right with
      | outside _ missing => simp [missing] at found
      | entry _ other _ present later =>
          have same : interface = other := Option.some.inj (found.symm.trans present)
          subst other
          rw [ih _ later]

theorem lineage_all (table : Table Interface) (holds : Interface → Prop) (every : table.All holds)
    (name : Option String) (chain : List Interface) (lineage : Lineage table name chain) :
    ∀ interface ∈ chain, holds interface := by
  induction lineage with
  | top => exact List.forall_mem_nil _
  | outside => exact List.forall_mem_nil _
  | entry name interface above found _ ih =>
      exact List.forall_mem_cons.mpr ⟨Table.all_get holds table every name interface found, ih⟩

theorem lineage_above (table : Table Interface) (child parent : String) (chain : List Interface)
    (lineage : Lineage table (some child) chain) (step : Above table child parent) :
    ∃ shorter, Lineage table (some parent) shorter ∧ shorter.length < chain.length := by
  cases lineage with
  | outside _ missing => simp [Above, parentName, missing] at step
  | entry _ interface above found rest =>
      have named : interface.parent = some parent := by
        simpa [Above, parentName, found] using step
      exact ⟨above, named ▸ rest, by simp⟩

theorem lineage_far_above (table : Table Interface) (child ancestor : String)
    (chain : List Interface) (lineage : Lineage table (some child) chain)
    (walk : Relation.TransGen (Above table) child ancestor) :
    ∃ shorter, Lineage table (some ancestor) shorter ∧ shorter.length < chain.length := by
  induction walk with
  | single step => exact lineage_above table child _ chain lineage step
  | tail _ step ih =>
      obtain ⟨middle, reached, less⟩ := ih
      obtain ⟨shorter, last, fewer⟩ := lineage_above table _ _ middle reached step
      exact ⟨shorter, last, by omega⟩

theorem lineage_no_return (table : Table Interface) (name : String) (chain : List Interface)
    (lineage : Lineage table (some name) chain) : ¬ Returns table name := by
  intro walk
  obtain ⟨shorter, again, less⟩ := lineage_far_above table name name chain lineage walk
  have same := lineage_unique table (some name) shorter chain again lineage
  rw [same] at less
  exact Nat.lt_irrefl _ less

theorem returns_found (table : Table Interface) (name : String) (cycle : Returns table name) :
    ∃ interface, table.get? name = some interface := by
  obtain ⟨parent, step, _⟩ := Relation.TransGen.head'_iff.mp cycle
  cases found : table.get? name with
  | none => simp [Above, parentName, found] at step
  | some interface => exact ⟨interface, rfl⟩

theorem parent_of_some (table : Table Interface) (name : String) (interface parent : Interface)
    (related : parentOf table name = some (interface, parent)) :
    ∃ above, table.get? name = some interface ∧ interface.parent = some above ∧
      table.get? above = some parent := by
  unfold parentOf at related
  simp only [Option.bind_eq_bind, Option.bind_eq_some_iff, Option.pure_def, Option.some.injEq,
    Prod.mk.injEq] at related
  obtain ⟨_, found, above, named, _, present, rfl, rfl⟩ := related
  exact ⟨above, found, named, present⟩

end WebIdl.Definitions
