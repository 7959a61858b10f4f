import WebIdl.Projection
import WebIdl.Proofs.Absorbing
import WebIdl.Proofs.Constructors
import WebIdl.Proofs.UnitOrder

set_option autoImplicit false

namespace WebIdl

theorem Table.filter_name {α : Type} (table : Table α) (name : String) (value : α)
    (found : table.get? name = some value) :
    table.entries.filter (·.1 == name) = [(name, value)] := by
  have only := under_entries table name
  rw [found] at only
  obtain ⟨entry, single, held⟩ := List.map_eq_singleton_iff.mp only
  have member : entry ∈ table.entries.filter (·.1 == name) := single ▸ List.mem_singleton_self _
  rw [single, ← held, ← beq_iff_eq.mp (List.mem_filter.mp member).2]

namespace Projection

theorem arguments_from_eq (position : Nat) (arguments : List Argument) :
    argumentsFrom position arguments = arguments.mapIdx fun index argument =>
      ⟨TypeRecord.ofType argument.type, defaultOf argument.default, argument.isOptional,
        index + position⟩ := by
  induction arguments generalizing position with
  | nil => rfl
  | cons argument rest ih =>
      rw [argumentsFrom, ih, List.mapIdx_cons, Nat.zero_add]
      simp only [Nat.add_assoc, Nat.add_comm 1]

def InterfaceRecord.Shows (record : InterfaceRecord) (name : String)
    (arguments : List Argument) : Prop :=
  ⟨name, arguments.mapIdx fun index argument =>
    ⟨TypeRecord.ofType argument.type, defaultOf argument.default, argument.isOptional,
      index + 1⟩⟩ ∈ record.constructors

theorem shows_iff (key : String) (interface : Interface) (name : String)
    (arguments : List Argument) :
    (interfaceOf (key, interface)).Shows name arguments ↔
      ∃ constructor ∈ interface.constructors,
        constructorOf interface constructor = ⟨name, argumentsOf arguments⟩ := by
  rw [InterfaceRecord.Shows, ← arguments_from_eq]
  exact List.mem_map

theorem interface_record (definitions : Definitions) (name : String) (interface : Interface)
    (found : definitions.interfaces.get? name = some interface) :
    (ofDefinitions definitions).interfaces.filter (·.name == name) =
      [interfaceOf (name, interface)] := by
  rw [ofDefinitions, List.filter_map]
  exact congrArg (List.map interfaceOf) (Table.filter_name _ name interface found)

end Projection

namespace Interface

theorem named_alone (part : Interface) (read : ∃ node, ofNode node = .ok part)
    (value : ExtAttrValue) (found : part.attrs.get? "NamedConstructor" = some value) :
    value.StandsAlone := by
  obtain ⟨node, built⟩ := read
  obtain ⟨name, named, rfl⟩ := of_node_constructor_name node part built value found
  exact ExtAttrValue.text_stands_alone name named

theorem gathered_name (base merged : Interface) (fragments : List Interface)
    (gathered : base.Gathered fragments merged)
    (read : ∀ part ∈ base :: fragments, ∃ node, ofNode node = .ok part) :
    merged.attrs.get? "NamedConstructor" =
      (base :: fragments).findSome? (·.attrs.get? "NamedConstructor") := by
  rw [gathered.attrs, ExtAttrs.get_absorb_all, ← List.map_cons, List.findSome?_map]
  · rfl
  · rw [← List.map_cons]
    exact List.forall_mem_map.mpr fun part listed => named_alone part (read part listed)

theorem first_name (parts : List Interface) (read : ∀ part ∈ parts, ∃ node, ofNode node = .ok part)
    (declared : Interface) (listed : declared ∈ parts) (value : ExtAttrValue)
    (named : declared.attrs.get? "NamedConstructor" = some value) :
    ∃ first, parts.findSome? (·.attrs.get? "NamedConstructor") = some (.text first) := by
  have present : (parts.findSome? (·.attrs.get? "NamedConstructor")).isSome = true :=
    List.findSome?_isSome_iff.mpr ⟨declared, listed, by rw [named, Option.isSome_some]⟩
  obtain ⟨chosen, found⟩ := Option.isSome_iff_exists.mp present
  obtain ⟨part, among, own⟩ := List.exists_of_findSome?_eq_some found
  obtain ⟨node, built⟩ := read part among
  obtain ⟨first, _, rfl⟩ := of_node_constructor_name node part built chosen own
  exact ⟨first, found⟩

-- Another constructor of the interface is shown under this name with these arguments.
def LooksLike (interface : Interface) (name : String) (arguments : List Argument) : Prop :=
  ∃ constructor ∈ interface.constructors, constructor.name ≠ some "NamedConstructor" ∧
    Projection.constructorOf interface constructor =
      ⟨name, Projection.argumentsOf arguments⟩

theorem named_constructor_of (interface : Interface) (first : String) (constructor : Operation)
    (kept : interface.attrs.get? "NamedConstructor" = some (.text first))
    (called : constructor.name = some "NamedConstructor") :
    Projection.constructorOf interface constructor =
      ⟨first, Projection.argumentsOf constructor.arguments⟩ := by
  simp [Projection.constructorOf, Projection.constructorName, called, ExtAttrs.shownAt, kept,
    ExtAttrValue.shown]

theorem named_shown_iff (key : String) (interface : Interface) (first own : String)
    (arguments : List Argument)
    (kept : interface.attrs.get? "NamedConstructor" = some (.text first))
    (member : Operation.ofConstructor "NamedConstructor" arguments ∈ interface.constructors) :
    (Projection.interfaceOf (key, interface)).Shows first arguments ∧
      ((Projection.interfaceOf (key, interface)).Shows own arguments ↔
        own = first ∨ interface.LooksLike own arguments) := by
  have shown : (Projection.interfaceOf (key, interface)).Shows first arguments :=
    (Projection.shows_iff key interface first arguments).mpr
      ⟨_, member, named_constructor_of interface first _ kept rfl⟩
  refine ⟨shown, ?_, ?_⟩
  · intro also
    obtain ⟨constructor, present, same⟩ :=
      (Projection.shows_iff key interface own arguments).mp also
    by_cases called : constructor.name = some "NamedConstructor"
    · rw [named_constructor_of interface first constructor kept called] at same
      exact .inl (congrArg (·.name) same).symm
    · exact .inr ⟨constructor, present, called, same⟩
  · rintro (rfl | ⟨constructor, present, _, same⟩)
    · exact shown
    · exact (Projection.shows_iff key interface own arguments).mpr ⟨constructor, present, same⟩

end Interface

namespace Definitions

theorem only_base (units : List Definitions) (name : String) (base : Interface)
    (oneBase : (bases (·.interfaces) units (·.isPartial) name).length ≤ 1)
    (last : (bases (·.interfaces) units (·.isPartial) name).getLast? = some base) :
    bases (·.interfaces) units (·.isPartial) name = [base] := by
  match bases (·.interfaces) units (·.isPartial) name, oneBase, last with
  | [one], _, last =>
      cases last
      rfl

theorem given_base_or_fragment (units : List Definitions) (name : String) (declared : Interface)
    (member : declared ∈ given (·.interfaces) units name) :
    declared ∈ bases (·.interfaces) units (·.isPartial) name ++
      fragments (·.interfaces) units (·.isPartial) name := by
  rw [List.mem_append, bases, fragments, List.mem_filter, List.mem_filter]
  cases declared.isPartial <;> simp [member]

theorem named_constructor_shown_iff (units : List Definitions)
    (built : ∀ unit ∈ units, ∃ root, ofNode root = .ok unit)
    (oneBase : ∀ name, (bases (·.interfaces) units (·.isPartial) name).length ≤ 1)
    (whole : Definitions) (done : merge units = .ok whole) (unit : Definitions)
    (member : unit ∈ units) (name : String) (declared : Interface)
    (found : unit.interfaces.get? name = some declared) (node : Node)
    (read : Interface.ofNode node = .ok declared) (own : String) (arguments : List Argument)
    (named : node.NamesConstructor own arguments) :
    ∃ merged record first, whole.interfaces.get? name = some merged ∧
      (Projection.ofDefinitions whole).interfaces.filter (·.name == name) = [record] ∧
      (bases (·.interfaces) units (·.isPartial) name ++
        fragments (·.interfaces) units (·.isPartial) name).findSome?
          (·.attrs.get? "NamedConstructor") = some (.text first) ∧
      record.Shows first arguments ∧
      (record.Shows own arguments ↔ own = first ∨ merged.LooksLike own arguments) := by
  obtain ⟨ownName, ownConstructor⟩ := Interface.of_node_named node declared read own arguments named
  have stands : declared ∈ given (·.interfaces) units name :=
    List.mem_filterMap.mpr ⟨unit, member, found⟩
  obtain ⟨base, merged, last, present, gathered, parts⟩ :=
    declared_gathered units built whole done name declared stands
  have only : bases (·.interfaces) units (·.isPartial) name = [base] :=
    only_base units name base (oneBase name) last
  have listed : declared ∈ base :: fragments (·.interfaces) units (·.isPartial) name := by
    rw [← List.singleton_append, ← only]
    exact given_base_or_fragment units name declared stands
  obtain ⟨first, chosen⟩ := Interface.first_name _ parts declared listed _ ownName
  have kept := (Interface.gathered_name base merged _ gathered parts).trans chosen
  have constructor : Operation.ofConstructor "NamedConstructor" arguments ∈
      merged.constructors := by
    rw [gathered.constructors, ← List.flatMap_cons]
    exact List.mem_flatMap.mpr ⟨declared, listed, ownConstructor ▸ List.mem_singleton_self _⟩
  rw [only]
  exact ⟨merged, _, first, present, Projection.interface_record whole name merged present,
    chosen, Interface.named_shown_iff name merged first own arguments kept constructor⟩

def mediaMadeAs (constructor argument : String) : Node :=
  (Node.interfaceOf "Media" []).withChild
    ((Node.leaf "ExtAttributes").withChild
      (((Node.leaf "ExtAttribute").named "NamedConstructor").withChild
        (((Node.leaf "Call").named constructor).withChild
          ((Node.leaf "Arguments").withChild
            (((Node.leaf "Argument").named argument).withChild
              (Node.typeOf "PrimitiveType" "long"))))))

theorem base_name_shown :
    ∃ whole part merged declared record arguments,
      ofNode (Node.fileOf [mediaMadeAs "Image" "width"]) = .ok whole ∧
        ofNode (Node.fileOf [(mediaMadeAs "Audio" "rate").asPartial]) = .ok part ∧
        merge [part, whole] = .ok merged ∧
        whole.interfaces.get? "Media" = some declared ∧
        Interface.ofNode (mediaMadeAs "Image" "width") = .ok declared ∧
        (mediaMadeAs "Image" "width").NamesConstructor "Image" arguments ∧
        (Projection.ofDefinitions merged).interfaces.filter (·.name == "Media") = [record] ∧
        record.Shows "Image" arguments := by
  obtain ⟨whole, first⟩ : ∃ whole,
    ofNode (Node.fileOf [mediaMadeAs "Image" "width"]) = .ok whole := ⟨_, rfl⟩
  obtain ⟨part, second⟩ : ∃ part,
    ofNode (Node.fileOf [(mediaMadeAs "Audio" "rate").asPartial]) = .ok part := ⟨_, rfl⟩
  have built : ∀ unit ∈ [part, whole], ∃ root, ofNode root = .ok unit :=
    List.forall_mem_cons.mpr ⟨⟨_, second⟩, List.forall_mem_singleton.mpr ⟨_, first⟩⟩
  have shown := named_constructor_shown_iff _ built
  have once := once_iff_nodup (·.interfaces) [part, whole] (·.isPartial)
  cases first
  cases second
  have oneBase := shown (once.mpr (by decide +kernel))
  obtain ⟨_, record, name, _, only, chosen, shows, _⟩ :=
    oneBase _ rfl _ (List.mem_cons_of_mem _ List.mem_cons_self) "Media" _ rfl
      (mediaMadeAs "Image" "width") rfl "Image" _ ⟨_, rfl, rfl⟩
  cases chosen
  exact ⟨_, _, _, _, record, _, rfl, rfl, rfl, rfl, rfl, ⟨_, rfl, rfl⟩, only, shows⟩

theorem name_of_fragment_lost :
    ∃ whole part merged declared record arguments,
      ofNode (Node.fileOf [mediaMadeAs "Image" "width"]) = .ok whole ∧
        ofNode (Node.fileOf [(mediaMadeAs "Audio" "rate").asPartial]) = .ok part ∧
        merge [whole, part] = .ok merged ∧
        part.interfaces.get? "Media" = some declared ∧
        Interface.ofNode (mediaMadeAs "Audio" "rate").asPartial = .ok declared ∧
        (mediaMadeAs "Audio" "rate").asPartial.NamesConstructor "Audio" arguments ∧
        (Projection.ofDefinitions merged).interfaces = [record] ∧ record.name = "Media" ∧
        record.constructors.map (·.name) = ["Image", "Image"] ∧
        ¬ record.Shows "Audio" arguments := by
  refine ⟨_, _, _, _, _, _, rfl, rfl, rfl, rfl, rfl, ⟨_, rfl, rfl⟩, rfl, rfl, rfl, fun shown => ?_⟩
  have named := List.mem_map_of_mem (f := (·.name)) shown
  exact absurd named (by decide)

end Definitions

end WebIdl
