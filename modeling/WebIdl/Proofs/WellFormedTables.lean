import WebIdl.Proofs.Produced
import WebIdl.Proofs.Resolution
import WebIdl.Proofs.UnitOrder

set_option autoImplicit false

namespace WebIdl

namespace Definitions

def Declares (definitions : Definitions) (name : String) : Prop :=
  name ∈ definitions.interfaces.keys ∨ name ∈ definitions.dictionaries.keys

def FirstKnown (definitions : Definitions) : Prop :=
  ∀ first ∈ definitions.firstName, definitions.Declares first

structure WellFormed (definitions : Definitions) : Prop where
  named : definitions.Each fun name declaration => declaration.name = name
  distinct : definitions.enumerations.All fun enumeration => enumeration.values.Nodup
  unions : definitions.typedefs.All fun typedef => typedef.type = .union typedef.members
  firstKnown : definitions.FirstKnown

def Proper : Declaration → Prop
  | .enumeration value => value.values.Nodup
  | .typedef value => value.type = .union value.members
  | _ => True

theorem named_mergeable : Mergeable fun name declaration => declaration.name = name where
  interfaces _ _ _ own _ := own
  dictionaries _ _ _ own _ := own
  enumerations _ _ _ own _ := own
  typedefs _ known fresh own _ := (known.merge_name fresh).trans own

theorem proper_mergeable : Mergeable fun _ => Proper where
  interfaces _ _ _ _ _ := trivial
  dictionaries _ _ _ _ _ := trivial
  enumerations _ _ _ _ _ := distinct_nodup _
  typedefs _ known fresh own _ := by
    rw [known.merge_union fresh own]
    rfl

theorem read_proper (node : Node) (declaration : Declaration)
    (read : Declaration.ofNode? node = some declaration) : Proper declaration := by
  have made := Declaration.of_node_reads node _ read
  cases declaration with
  | enumeration value => exact Enumeration.of_node_nodup node value made
  | typedef value => exact Typedef.of_node_union node value made
  | _ => trivial

theorem noted_first (definitions : Definitions) (name : String) (known : definitions.FirstKnown) :
    ∀ first ∈ (definitions.noteFirst name).firstName,
      first = name ∨ definitions.Declares first := by
  intro first noted
  cases earlier : definitions.firstName with
  | none =>
      rw [noteFirst, earlier] at noted
      exact .inl (Option.some.inj noted).symm
  | some standing =>
      rw [noteFirst, earlier] at noted
      exact .inr (known first (earlier.trans noted))

theorem put_first_known (definitions : Definitions) (declaration : Declaration)
    (known : definitions.FirstKnown) : (definitions.put declaration).FirstKnown := by
  cases declaration with
  | interface value =>
      intro first noted
      rcases noted_first definitions value.name known first noted with rfl | interface | dictionary
      · exact .inl ((Table.mem_keys_insert _ _ _ value).mpr (.inl rfl))
      · exact .inl ((Table.mem_keys_insert _ _ _ value).mpr (.inr interface))
      · exact .inr dictionary
  | dictionary value =>
      intro first noted
      rcases noted_first definitions value.name known first noted with rfl | interface | dictionary
      · exact .inr ((Table.mem_keys_insert _ _ _ value).mpr (.inl rfl))
      · exact .inl interface
      · exact .inr ((Table.mem_keys_insert _ _ _ value).mpr (.inr dictionary))
  | _ => exact known

theorem of_node_first_known (root : Node) (definitions : Definitions)
    (built : ofNode root = .ok definitions) : definitions.FirstKnown := by
  obtain ⟨_, taken⟩ := (of_node_ok_iff root definitions).mp built
  apply take_all_keeps FirstKnown ?_ _ definitions root.children taken
  · intro first noted
    cases noted
  · intro definitions child next step known
    cases step with
    | declaration declaration => exact put_first_known definitions declaration known
    | inclusion => exact known

theorem declared_base {α : Type} (table : Definitions → Table α) (isFragment : α → Bool)
    (units : List Definitions) (unit : Definitions) (member : unit ∈ units) (name : String)
    (declared : name ∈ (table unit).keys) (whole : ¬ Orphaned table units isFragment name) :
    ∃ base, (bases table units isFragment name).getLast? = some base := by
  obtain ⟨value, found⟩ := Option.isSome_iff_exists.mp ((Table.contains_iff _ name).mpr declared)
  have given : value ∈ given table units name := List.mem_filterMap.mpr ⟨unit, member, found⟩
  cases last : (bases table units isFragment name).getLast? with
  | some base => exact ⟨base, rfl⟩
  | none =>
      have none := List.getLast?_eq_none_iff.mp last
      have part : value ∈ fragments table units isFragment name := by
        refine List.mem_filter.mpr ⟨given, ?_⟩
        simpa using List.filter_eq_nil_iff.mp none value given
      exact absurd ⟨List.ne_nil_of_mem part, none⟩ whole

theorem merge_first_known (units : List Definitions)
    (known : ∀ unit ∈ units, unit.FirstKnown) (whole : Definitions)
    (done : merge units = .ok whole) : whole.FirstKnown := by
  have spec := merge_spec units
  rw [done] at spec
  obtain ⟨nothing, state, interfaces, dictionaries⟩ := spec
  have names : whole.firstName = units.findSome? (·.firstName) := by
    rw [state, tableByTable, (split_others units).2.2.2.2]
    rfl
  intro first noted
  obtain ⟨unit, member, own⟩ := List.exists_of_findSome?_eq_some (names.symm.trans noted)
  rcases known unit member first own with interface | dictionary
  · obtain ⟨base, last⟩ :=
      declared_base (·.interfaces) _ units unit member first interface (nothing first).1
    exact .inl (Table.mem_keys_of_get _ first _ (by rw [interfaces, last, Option.map_some]))
  · obtain ⟨base, last⟩ :=
      declared_base (·.dictionaries) _ units unit member first dictionary (nothing first).2
    exact .inr (Table.mem_keys_of_get _ first _ (by rw [dictionaries, last, Option.map_some]))

theorem resolve_keys (definitions : Definitions) :
    (resolveInheritance definitions).state.interfaces.keys = definitions.interfaces.keys := by
  apply Attempt.each_keeps resolveOne (fun state : Resolution =>
    state.table.keys = definitions.interfaces.keys) _ ?_ _ rfl
  intro name _ state same
  unfold resolveOne
  cases chainOf state.table state.resolved name with
  | error error => exact same
  | ok chain =>
      exact List.foldlRecOn chain inheritOne same
        fun table kept name _ => (inherit_one_keys table name).trans kept

theorem resolve_first_known (definitions : Definitions) (known : definitions.FirstKnown) :
    (resolveInheritance definitions).state.FirstKnown := by
  intro first noted
  rw [Declares, resolve_keys]
  exact known first noted

theorem produced_first_known (files : List Node) (definitions : Definitions)
    (produced : Produced files definitions) : definitions.FirstKnown := by
  induction produced with
  | read root definitions _ built =>
      exact of_node_first_known root definitions built
  | merge units whole _ done parts => exact merge_first_known units parts whole done
  | resolve definitions _ before => exact resolve_first_known definitions before

theorem produced_well_formed (files : List Node) (definitions : Definitions)
    (produced : Produced files definitions) : definitions.WellFormed := by
  have named := produced_each files _ (fun _ _ _ _ _ _ => rfl) named_mergeable
    (fun _ _ _ _ own _ => own) definitions produced
  have proper := produced_each files _ (fun _ _ child _ => read_proper child) proper_mergeable
    (fun _ _ _ _ _ _ => trivial) definitions produced
  exact ⟨named, proper.enumerations, proper.typedefs,
    produced_first_known files definitions produced⟩

def fooPart : Node := Node.fileOf [(Node.interfaceOf "Foo" ["y"]).asPartial]

def fooWhole : Node :=
  Node.fileOf [Node.interfaceOf "Bar" [], Node.interfaceOf "Foo" ["x"],
    ((Node.leaf "Enum").named "Color").withChildren
      (["red", "blue", "red"].map (Node.leaf "EnumItem").named),
    ((Node.leaf "Typedef").named "Id").withChild (Node.typeOf "PrimitiveType" "long")]

theorem fragment_first_well_formed :
    ∃ part whole merged,
      ofNode fooPart = .ok part ∧ ofNode fooWhole = .ok whole ∧
        merge [part, whole] = .ok merged ∧
        part.splitPartials.1.firstName = some "Foo" ∧
        ¬ part.splitPartials.1.Declares "Foo" ∧
        (resolveInheritance merged).state.firstName = some "Foo" ∧
        (resolveInheritance merged).state.WellFormed := by
  obtain ⟨part, first⟩ : ∃ part, ofNode fooPart = .ok part := ⟨_, rfl⟩
  obtain ⟨whole, second⟩ : ∃ whole, ofNode fooWhole = .ok whole := ⟨_, rfl⟩
  have parts : ∀ unit ∈ [part, whole], Produced [fooPart, fooWhole] unit :=
    List.forall_mem_cons.mpr ⟨.read fooPart part List.mem_cons_self first,
      List.forall_mem_singleton.mpr
        (.read fooWhole whole (List.mem_cons_of_mem _ List.mem_cons_self) second)⟩
  have merged := fun whole => Produced.merge _ whole parts
  cases first
  cases second
  refine ⟨_, _, _, rfl, rfl, rfl, rfl, ?_, rfl,
    produced_well_formed _ _ (.resolve _ (merged _ rfl))⟩
  rintro (interface | dictionary)
  · exact List.not_mem_nil interface
  · exact List.not_mem_nil dictionary

end Definitions

end WebIdl
