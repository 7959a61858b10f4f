import WebIdl.Definitions.Merge
import WebIdl.Proofs.Declarations
import WebIdl.Proofs.Lineage

set_option autoImplicit false

namespace WebIdl

namespace Definitions

structure Each (holds : String → Declaration → Prop) (definitions : Definitions) : Prop where
  interfaces : definitions.interfaces.Each fun name value => holds name (.interface value)
  dictionaries : definitions.dictionaries.Each fun name value => holds name (.dictionary value)
  enumerations : definitions.enumerations.Each fun name value => holds name (.enumeration value)
  typedefs : definitions.typedefs.Each fun name value => holds name (.typedef value)
  callbacks : definitions.callbacks.Each fun name value => holds name (.callback value)

structure Mergeable (holds : String → Declaration → Prop) : Prop where
  interfaces : ∀ name base fragment, holds name (.interface base) →
    holds name (.interface fragment) → holds name (.interface (base.merge fragment))
  dictionaries : ∀ name base fragment, holds name (.dictionary base) →
    holds name (.dictionary fragment) → holds name (.dictionary (foldMembers base fragment))
  enumerations : ∀ name known fresh, holds name (.enumeration known) →
    holds name (.enumeration fresh) → holds name (.enumeration (known.merge fresh))
  typedefs : ∀ name known fresh, holds name (.typedef known) →
    holds name (.typedef fresh) → holds name (.typedef (known.merge fresh))

def Inheritable (holds : String → Declaration → Prop) : Prop :=
  ∀ name interface parentName parent, holds name (.interface interface) →
    holds parentName (.interface parent) → holds name (.interface (interface.inherit parent))

theorem empty_each (holds : String → Declaration → Prop) : empty.Each holds :=
  ⟨Table.empty_each _, Table.empty_each _, Table.empty_each _, Table.empty_each _,
    Table.empty_each _⟩

theorem each_of_standing (holds : String → Declaration → Prop) (definitions : Definitions)
    (stands : ∀ name cls declaration, definitions.standing name cls = some declaration →
      holds name declaration) : definitions.Each holds := by
  constructor
  · intro entry member
    apply stands entry.1 .interface
    rw [standing, Table.get_of_mem _ _ _ member, Option.map_some]
  · intro entry member
    apply stands entry.1 .dictionary
    rw [standing, Table.get_of_mem _ _ _ member, Option.map_some]
  · intro entry member
    apply stands entry.1 .enumeration
    rw [standing, Table.get_of_mem _ _ _ member, Option.map_some]
  · intro entry member
    apply stands entry.1 .typedef
    rw [standing, Table.get_of_mem _ _ _ member, Option.map_some]
  · intro entry member
    apply stands entry.1 .callback
    rw [standing, Table.get_of_mem _ _ _ member, Option.map_some]

theorem of_node_each (holds : String → Declaration → Prop) (root : Node)
    (definitions : Definitions) (built : ofNode root = .ok definitions)
    (read : ∀ child ∈ root.children, ∀ declaration, Declaration.ofNode? child = some declaration →
      holds declaration.name declaration) : definitions.Each holds := by
  refine each_of_standing holds definitions ?_
  intro name cls declaration stands
  obtain ⟨rfl, child, member, made⟩ :=
    standing_declared root definitions built name cls declaration stands
  exact read child member declaration made

theorem take_folded_each {α : Type} (holds : String → α → Prop) (isFragment : α → Bool)
    (fold : α → α → α) (missing : String → IdlError)
    (folded : ∀ name base fragment, holds name base → holds name fragment →
      holds name (fold base fragment))
    (table : Table α) (entry : String × α) (every : table.Each holds)
    (fresh : holds entry.1 entry.2) :
    (takeFolded isFragment fold missing table entry).state.Each holds := by
  unfold takeFolded
  split
  · cases found : table.get? entry.1 with
    | none => exact every
    | some base =>
        have known := Table.each_get holds table every entry.1 base found
        exact Table.insert_each holds table entry.1 _ every (folded entry.1 base _ known fresh)
  · exact Table.insert_each holds table entry.1 entry.2 every fresh

theorem take_merged_each {α : Type} (holds : String → α → Prop) (merge : α → α → α)
    (merged : ∀ name known fresh, holds name known → holds name fresh →
      holds name (merge known fresh))
    (table : Table α) (entry : String × α) (every : table.Each holds)
    (fresh : holds entry.1 entry.2) : (takeMerged merge table entry).Each holds := by
  unfold takeMerged
  cases found : table.get? entry.1 with
  | none => exact Table.insert_each holds table entry.1 entry.2 every fresh
  | some base =>
      have known := Table.each_get holds table every entry.1 base found
      exact Table.insert_each holds table entry.1 _ every (merged entry.1 base _ known fresh)

theorem split_each (holds : String → Declaration → Prop) (definitions : Definitions)
    (every : definitions.Each holds) :
    definitions.splitPartials.1.Each holds ∧ definitions.splitPartials.2.Each holds := by
  have interfaces := Table.partition_each _ _ (·.isPartial) every.interfaces
  have dictionaries := Table.partition_each _ _ (·.isPartial) every.dictionaries
  exact ⟨{ every with interfaces := interfaces.2, dictionaries := dictionaries.2 },
    { empty_each holds with interfaces := interfaces.1, dictionaries := dictionaries.1 }⟩

section Merging

variable (holds : String → Declaration → Prop) (merged : Mergeable holds)

include merged

theorem take_others_each (definitions other : Definitions) (every : definitions.Each holds)
    (fresh : other.Each holds) : (definitions.takeOthers other).Each holds where
  interfaces := every.interfaces
  dictionaries := every.dictionaries
  enumerations := List.foldlRecOn _ _ every.enumerations fun table before entry member =>
    take_merged_each _ _ merged.enumerations table entry before (fresh.enumerations entry member)
  typedefs := List.foldlRecOn _ _ every.typedefs fun table before entry member =>
    take_merged_each _ _ merged.typedefs table entry before (fresh.typedefs entry member)
  callbacks := Table.insert_all_each _ _ _ every.callbacks fresh.callbacks

theorem update_each (definitions other : Definitions) (every : definitions.Each holds)
    (fresh : other.Each holds) : (definitions.update other).state.Each holds := by
  unfold update
  dsimp only
  apply Attempt.and_then_keeps _ _ (Each holds)
  · intro definitions before
    exact take_others_each holds merged definitions other before fresh
  · apply Attempt.and_then_keeps _ _ (Each holds)
    · intro definitions before
      exact { before with
        dictionaries := Attempt.each_keeps takeDictionary _ _
          (fun entry member table kept => take_folded_each _ _ _ _ merged.dictionaries table entry
            kept (fresh.dictionaries entry member)) _ before.dictionaries }
    · exact { every with
        interfaces := Attempt.each_keeps takeInterface _ _
          (fun entry member table kept => take_folded_each _ _ _ _ merged.interfaces table entry
            kept (fresh.interfaces entry member)) _ every.interfaces }

theorem update_all_each (definitions : Definitions) (others : List Definitions)
    (every : definitions.Each holds) (fresh : ∀ other ∈ others, other.Each holds) :
    (definitions.updateAll others).state.Each holds :=
  Attempt.each_keeps update (Each holds) others
    (fun other member definitions before =>
      update_each holds merged definitions other before (fresh other member)) definitions every

theorem merge_each (units : List Definitions) (whole : Definitions)
    (done : merge units = .ok whole) (every : ∀ unit ∈ units, unit.Each holds) :
    whole.Each holds := by
  obtain ⟨_, rfl⟩ := (Attempt.result_ok_iff _ _).mp done
  apply Attempt.and_then_keeps _ _ (Each holds)
  · intro definitions before
    refine update_all_each holds merged definitions _ before (List.forall_mem_map.mpr ?_)
    exact fun unit member => (split_each holds unit (every unit member)).2
  · refine update_all_each holds merged empty _ (empty_each holds) (List.forall_mem_map.mpr ?_)
    exact fun unit member => (split_each holds unit (every unit member)).1

end Merging

section Inheriting

variable (holds : String → Declaration → Prop) (inherited : Inheritable holds)

include inherited

theorem inherit_one_each (table : Table Interface) (name : String)
    (every : table.Each fun name value => holds name (.interface value)) :
    (inheritOne table name).Each fun name value => holds name (.interface value) := by
  unfold inheritOne
  cases related : parentOf table name with
  | none => exact every
  | some pair =>
      obtain ⟨interface, parent⟩ := pair
      obtain ⟨above, found, _, present⟩ := parent_of_some table name interface parent related
      have own := Table.each_get _ table every name interface found
      have theirs := Table.each_get _ table every above parent present
      have kept := inherited name interface above parent own theirs
      exact Table.insert_each _ table name _ every kept

theorem resolve_each (definitions : Definitions) (every : definitions.Each holds) :
    (resolveInheritance definitions).state.Each holds := by
  refine { every with interfaces := ?_ }
  apply Attempt.each_keeps resolveOne (fun state : Resolution =>
    state.table.Each fun name value => holds name (.interface value)) _ ?_ _ every.interfaces
  intro name _ state before
  unfold resolveOne
  cases chainOf state.table state.resolved name with
  | error error => exact before
  | ok chain =>
      exact List.foldlRecOn chain inheritOne before
        fun table kept name _ => inherit_one_each holds inherited table name kept

end Inheriting

def OnInterfaces (holds : Interface → Prop) : String → Declaration → Prop
  | _, .interface value => holds value
  | _, _ => True

section OnInterfaces

variable (holds : Interface → Prop)

theorem each_interfaces_iff (definitions : Definitions) :
    definitions.Each (OnInterfaces holds) ↔ definitions.interfaces.All holds := by
  constructor
  · intro every
    exact every.interfaces
  · intro every
    exact ⟨every, fun _ _ => trivial, fun _ _ => trivial, fun _ _ => trivial, fun _ _ => trivial⟩

theorem mergeable_interfaces
    (merged : ∀ base fragment, holds base → holds fragment → holds (base.merge fragment)) :
    Mergeable (OnInterfaces holds) where
  interfaces _ := merged
  dictionaries _ _ _ _ _ := trivial
  enumerations _ _ _ _ _ := trivial
  typedefs _ _ _ _ _ := trivial

theorem inheritable_interfaces
    (inherited : ∀ interface parent, holds interface → holds parent →
      holds (interface.inherit parent)) : Inheritable (OnInterfaces holds) :=
  fun _ interface _ parent own theirs => inherited interface parent own theirs

theorem merge_keeps
    (merged : ∀ base fragment, holds base → holds fragment → holds (base.merge fragment))
    (units : List Definitions) (whole : Definitions) (done : merge units = .ok whole)
    (every : ∀ unit ∈ units, unit.interfaces.All holds) : whole.interfaces.All holds := by
  rw [← each_interfaces_iff]
  exact merge_each _ (mergeable_interfaces holds merged) units whole done
    fun unit member => (each_interfaces_iff holds unit).mpr (every unit member)

end OnInterfaces

-- The definitions that come of reading, updating, splitting, merging and resolving, in any order.
-- An update or a resolution that breaks off leaves definitions behind, and these count as well.
inductive Assembled : Definitions → Prop
  | empty : Assembled .empty
  | read (root : Node) (definitions : Definitions) (built : ofNode root = .ok definitions) :
      Assembled definitions
  | update (definitions other : Definitions) (before : Assembled definitions)
      (fresh : Assembled other) : Assembled (definitions.update other).state
  | bases (definitions : Definitions) (before : Assembled definitions) :
      Assembled definitions.splitPartials.1
  | fragments (definitions : Definitions) (before : Assembled definitions) :
      Assembled definitions.splitPartials.2
  | merge (units : List Definitions) (whole : Definitions)
      (before : ∀ unit ∈ units, Assembled unit) (done : Definitions.merge units = .ok whole) :
      Assembled whole
  | resolve (definitions : Definitions) (before : Assembled definitions) :
      Assembled (resolveInheritance definitions).state

theorem assembled_each (holds : String → Declaration → Prop)
    (read : ∀ node declaration, Declaration.ofNode? node = some declaration →
      holds declaration.name declaration)
    (merged : Mergeable holds) (inherited : Inheritable holds) (definitions : Definitions)
    (assembled : Assembled definitions) : definitions.Each holds := by
  induction assembled with
  | empty => exact empty_each holds
  | read root definitions built =>
      exact of_node_each holds root definitions built fun child _ => read child
  | update definitions other _ _ every fresh =>
      exact update_each holds merged definitions other every fresh
  | bases definitions _ every => exact (split_each holds definitions every).1
  | fragments definitions _ every => exact (split_each holds definitions every).2
  | merge units whole _ done every => exact merge_each holds merged units whole done every
  | resolve definitions _ every => exact resolve_each holds inherited definitions every

end Definitions

end WebIdl
