import WebIdl.Proofs.Ancestry
import WebIdl.Proofs.DraftMembers
import WebIdl.Proofs.MergedUnits

set_option autoImplicit false

namespace WebIdl

inductive Member where
  | attributeMember (item : Attribute)
  | operation (operation : Operation)
  | constant (constant : Constant)

def Member.definedIn : Member → Option String
  | .attributeMember item => item.definedIn
  | .operation method => method.definedIn
  | .constant value => value.definedIn

namespace Interface

def Has (interface : Interface) : Member → Prop
  | .attributeMember item => item ∈ interface.attributes.list
  | .operation operation => operation ∈ interface.operations
  | .constant constant => constant ∈ interface.constants

theorem owns_members_iff (interface : Interface) :
    interface.OwnsMembers ↔
      ∀ member, interface.Has member → member.definedIn = some interface.name := by
  constructor
  · intro owns member has
    cases member with
    | attributeMember item => exact owns.attributes item has
    | operation operation => exact owns.operations operation has
    | constant constant => exact owns.constants constant has
  · intro every
    exact ⟨fun item => every (.attributeMember item), fun operation => every (.operation operation),
      fun constant => every (.constant constant)⟩

theorem gathered_has (base : Interface) (fragments : List Interface) (whole : Interface)
    (gathered : base.Gathered fragments whole) (member : Member) (has : whole.Has member) :
    ∃ part ∈ base :: fragments, part.Has member := by
  cases member with
  | attributeMember item =>
      rw [Has, gathered.attributes] at has
      change _ ∈ (base :: fragments).flatMap (·.attributes.list) at has
      exact List.mem_flatMap.mp has
  | operation operation =>
      rw [Has, gathered.operations] at has
      change _ ∈ (base :: fragments).flatMap (·.operations) at has
      exact List.mem_flatMap.mp has
  | constant constant =>
      rw [Has, gathered.constants] at has
      change _ ∈ (base :: fragments).flatMap (·.constants) at has
      exact List.mem_flatMap.mp has

theorem inherit_has (interface parent : Interface) (member : Member)
    (has : (interface.inherit parent).Has member) : interface.Has member ∨ parent.Has member := by
  cases member with
  | attributeMember item =>
      obtain ⟨taken, part, listed⟩ := adopt_list_taken interface.attributes parent.attributes.list
      rw [Has, inherit, listed, List.mem_append] at has
      exact has.imp_right fun added => part.subset added
  | operation operation =>
      exact (List.mem_append.mp has).imp_right fun added => (List.mem_filter.mp added).1
  | constant constant => exact List.mem_append.mp has

theorem with_above_has (interface : Interface) (above : List Interface) (member : Member)
    (has : (interface.withAbove above).Has member) :
    ∃ other ∈ interface :: above, other.Has member := by
  induction above generalizing interface with
  | nil => exact ⟨interface, List.mem_cons_self, has⟩
  | cons parent above ih =>
      rcases inherit_has interface _ member has with own | theirs
      · exact ⟨interface, List.mem_cons_self, own⟩
      · obtain ⟨other, higher, declares⟩ := ih parent theirs
        exact ⟨other, List.mem_cons_of_mem interface higher, declares⟩

end Interface

namespace Definitions

theorem given_owns (units : List Definitions)
    (built : ∀ unit ∈ units, ∃ root, ofNode root = .ok unit) (name : String)
    (interface : Interface) (member : interface ∈ given (·.interfaces) units name) :
    interface.name = name ∧ interface.OwnsMembers := by
  obtain ⟨root, unit, read, found⟩ := given_built units built (·.interfaces) name _ member
  obtain ⟨named, child, _, _, made⟩ := interface_declared root unit read name interface found
  exact ⟨named, (Interface.of_node_on_its_own child interface made).owns⟩

theorem merged_owns (units : List Definitions)
    (built : ∀ unit ∈ units, ∃ root, ofNode root = .ok unit) (merged : Definitions)
    (done : merge units = .ok merged) (name : String) (interface : Interface)
    (found : merged.interfaces.get? name = some interface) :
    interface.name = name ∧ interface.OwnsMembers := by
  have spec := merge_spec units
  rw [done] at spec
  rw [spec.2.2.1, Option.map_eq_some_iff] at found
  obtain ⟨base, last, rfl⟩ := found
  have gathered := Interface.fold_merge_gathered base
    (fragments (·.interfaces) units (·.isPartial) name)
  have parts : ∀ part ∈ base :: fragments (·.interfaces) units (·.isPartial) name,
      part.name = name ∧ part.OwnsMembers := by
    refine List.forall_mem_cons.mpr ⟨?_, fun part member => ?_⟩
    · exact given_owns units built name base
        (List.mem_filter.mp (List.mem_of_getLast? last)).1
    · exact given_owns units built name part (List.mem_filter.mp member).1
  have named : ((fragments (·.interfaces) units (·.isPartial) name).foldl Interface.merge
      base).name = name := by
    rw [gathered.rest]
    exact (parts base List.mem_cons_self).1
  refine ⟨named, (Interface.owns_members_iff _).mpr fun member has => ?_⟩
  obtain ⟨part, listed, declares⟩ := Interface.gathered_has base _ _ gathered member has
  obtain ⟨same, owns⟩ := parts part listed
  rw [named, ← same]
  exact (Interface.owns_members_iff part).mp owns member declares

theorem resolved_above (definitions : Definitions)
    (done : (resolveInheritance definitions).failure = none) :
    Above (resolveInheritance definitions).state.interfaces = Above definitions.interfaces := by
  have spec := resolve_inheritance_spec definitions
  rw [done] at spec
  funext child parent
  unfold Above parentName
  cases found : definitions.interfaces.get? child with
  | none => rw [resolved_missing definitions done child found]
  | some interface =>
      obtain ⟨above, _, value⟩ := spec.2 child interface found
      rw [value, Option.bind_some, Option.bind_some, Interface.with_above_parent]

-- A member of an interface comes, as it is, from the interface that it names, and this is the
-- interface itself or one that it inherits from.
structure OriginatesIn (merged resolved : Table Interface) (interface : Interface)
    (member : Member) (origin : String) : Prop where
  definedIn : member.definedIn = some origin
  key : origin ∈ resolved.keys
  ancestor : origin = interface.name ∨ interface.isSubclassOf origin resolved = true
  declared : ∃ declaring, merged.get? origin = some declaring ∧ declaring.name = origin ∧
    declaring.Has member

theorem members_keep_their_origin (units : List Definitions) (merged resolved : Definitions)
    (built : ∀ unit ∈ units, ∃ root, ofNode root = .ok unit) (first : merge units = .ok merged)
    (second : (resolveInheritance merged).result = .ok resolved) (name : String)
    (interface : Interface) (found : resolved.interfaces.get? name = some interface)
    (member : Member) (has : interface.Has member) :
    interface.name = name ∧
      ∃ origin, OriginatesIn merged.interfaces resolved.interfaces interface member origin := by
  obtain ⟨done, rfl⟩ := (Attempt.result_ok_iff _ _).mp second
  have spec := resolve_inheritance_spec merged
  rw [done] at spec
  have owned := merged_owns units built merged first
  cases before : merged.interfaces.get? name with
  | none =>
      rw [resolved_missing merged done name before] at found
      cases found
  | some original =>
      obtain ⟨above, lineage, value⟩ := spec.2 name original before
      obtain rfl := Option.some.inj (found.symm.trans value)
      have named : (original.withAbove above).name = name := by
        rw [Interface.with_above_name, (owned name original before).1]
      obtain ⟨declaring, higher, declares⟩ :=
        Interface.with_above_has original above member has
      obtain ⟨origin, present, walk⟩ := lineage_above_start merged.interfaces name _
        (.entry name original above before lineage) declaring higher
      obtain ⟨same, owns⟩ := owned origin declaring present
      refine ⟨named, origin, ?_, ?_, ?_, declaring, present, same, declares⟩
      · rw [← same]
        exact (Interface.owns_members_iff declaring).mp owns member declares
      · rw [spec.1, ← Table.contains_iff, Table.contains, present]
        rfl
      · rw [is_subclass_of_iff _ _ (by rw [named, found]), named, resolved_above merged done]
        rcases Relation.reflTransGen_iff_eq_or_transGen.mp walk with here | far
        · exact .inl here
        · by_cases here : origin = name
          · exact .inl here
          · exact .inr ⟨here, far⟩

theorem fragment_member_keeps_origin :
    ∃ whole part merged resolved leaf item,
      ofNode (Node.fileOf [(Node.interfaceOf "Leaf" ["z"]).inheriting "Root",
        Node.interfaceOf "Root" ["x"]]) = .ok whole ∧
      ofNode (Node.fileOf [(Node.interfaceOf "Root" ["y"]).asPartial]) = .ok part ∧
      merge [whole, part] = .ok merged ∧ (resolveInheritance merged).result = .ok resolved ∧
      resolved.interfaces.get? "Leaf" = some leaf ∧
      leaf.attributes.list.map (·.name) = ["z", "x", "y"] ∧
      leaf.attributes.list.getLast? = some item ∧ item.definedIn = some "Root" ∧
      leaf.name = "Leaf" ∧ ∃ origin,
        OriginatesIn merged.interfaces resolved.interfaces leaf (.attributeMember item) origin := by
  obtain ⟨whole, first⟩ : ∃ whole,
    ofNode (Node.fileOf [(Node.interfaceOf "Leaf" ["z"]).inheriting "Root",
      Node.interfaceOf "Root" ["x"]]) = .ok whole := ⟨_, rfl⟩
  obtain ⟨part, second⟩ : ∃ part,
    ofNode (Node.fileOf [(Node.interfaceOf "Root" ["y"]).asPartial]) = .ok part := ⟨_, rfl⟩
  have built : ∀ unit ∈ [whole, part], ∃ root, ofNode root = .ok unit :=
    List.forall_mem_cons.mpr ⟨⟨_, first⟩, List.forall_mem_singleton.mpr ⟨_, second⟩⟩
  have keeps := fun merged resolved => members_keep_their_origin _ merged resolved built
  cases first
  cases second
  exact ⟨_, _, _, _, _, _, rfl, rfl, rfl, rfl, rfl, rfl, rfl, rfl,
    keeps _ _ rfl rfl "Leaf" _ rfl _ (List.mem_of_getLast? rfl)⟩

end Definitions

end WebIdl
