import WebIdl.Proofs.InheritedAttributes
import WebIdl.Proofs.NamedConstructors

set_option autoImplicit false

namespace WebIdl.Projection

open ExtAttrValue (standing)
open Interface (valuesOf)

def chainName (chain : List Interface) : String :=
  match standing (valuesOf "NamedConstructor" chain) with
  | some value => value.shown
  | none => ""

def chainAlias (chain : List Interface) : String :=
  match standing (valuesOf "LegacyWindowAlias" chain) with
  | some value => if value.isSet then value.shown else ""
  | none => ""

-- A constructor without a name of its own goes by the alias as soon as one interface of the chain
-- is not visible itself.
def plainName (own : String) (chain : List Interface) : String :=
  if chain.any (·.attrs.contains "NoInterfaceObject") && chainAlias chain != "" then
    chainAlias chain
  else own

def IsNamed (constructor : Operation) : Prop := constructor.name = some "NamedConstructor"

instance (constructor : Operation) : Decidable (IsNamed constructor) :=
  inferInstanceAs (Decidable (constructor.name = some "NamedConstructor"))

theorem with_above_contains (interface : Interface) (above : List Interface) (key : String) :
    (interface.withAbove above).attrs.contains key =
      (interface :: above).any (·.attrs.contains key) := by
  rw [Table.contains, interface.with_above_get above key]
  generalize interface :: above = chain
  induction chain with
  | nil => rfl
  | cons nearest rest ih =>
      rw [Interface.standing_cons, ExtAttrValue.layered_is_some, ih, List.any_cons, Table.contains]

theorem with_above_alias (interface : Interface) (above : List Interface) :
    legacyAliasOf (interface.withAbove above) = chainAlias (interface :: above) := by
  rw [legacyAliasOf, ExtAttrs.isSet, ExtAttrs.shownAt, interface.with_above_get above, chainAlias]
  cases standing (valuesOf "LegacyWindowAlias" (interface :: above)) <;> rfl

theorem with_above_constructor_name (interface : Interface) (above : List Interface)
    (constructor : Operation) :
    (IsNamed constructor →
      constructorName (interface.withAbove above) constructor = chainName (interface :: above)) ∧
    (¬ IsNamed constructor →
      constructorName (interface.withAbove above) constructor =
        plainName interface.name (interface :: above)) := by
  unfold IsNamed constructorName
  constructor
  · intro named
    rw [if_pos named, ExtAttrs.shownAt, interface.with_above_get above]
    rfl
  · intro plain
    rw [if_neg plain, with_above_contains, with_above_alias, Interface.with_above_name, plainName]

def chainConstructor (interface : Interface) (above : List Interface) (constructor : Operation) :
    ConstructorRecord :=
  ⟨if IsNamed constructor then chainName (interface :: above)
    else plainName interface.name (interface :: above),
    argumentsOf constructor.arguments⟩

theorem with_above_constructors (interface : Interface) (above : List Interface) (name : String) :
    (interfaceOf (name, interface.withAbove above)).constructors =
      interface.constructors.map (chainConstructor interface above) := by
  have own : (interface.withAbove above).constructors = interface.constructors := by
    cases above <;> rfl
  rw [interfaceOf, own]
  apply List.map_congr_left
  intro constructor _
  obtain ⟨named, plain⟩ := with_above_constructor_name interface above constructor
  rw [constructorOf, chainConstructor]
  by_cases called : IsNamed constructor
  · rw [if_pos called, named called]
  · rw [if_neg called, plain called]

theorem chain_constructors_eq_iff (interface : Interface) (above : List Interface) :
    interface.constructors.map (chainConstructor interface above) =
        interface.constructors.map (chainConstructor interface []) ↔
      ((∃ constructor ∈ interface.constructors, IsNamed constructor) →
        chainName (interface :: above) = chainName [interface]) ∧
      ((∃ constructor ∈ interface.constructors, ¬ IsNamed constructor) →
        plainName interface.name (interface :: above) = plainName interface.name [interface]) := by
  rw [List.map_inj_left]
  constructor
  · intro same
    constructor
    · rintro ⟨constructor, listed, called⟩
      have names := congrArg (·.name) (same constructor listed)
      simpa only [chainConstructor, if_pos called] using names
    · rintro ⟨constructor, listed, called⟩
      have names := congrArg (·.name) (same constructor listed)
      simpa only [chainConstructor, if_neg called] using names
  · rintro ⟨named, plain⟩ constructor listed
    unfold chainConstructor
    by_cases called : IsNamed constructor
    · rw [if_pos called, if_pos called, named ⟨constructor, listed, called⟩]
    · rw [if_neg called, if_neg called, plain ⟨constructor, listed, called⟩]

theorem chain_name_kept (interface : Interface) (above : List Interface) (own : ExtAttrValue)
    (stands : interface.attrs.get? "NamedConstructor" = some own) (alone : own.StandsAlone) :
    chainName (interface :: above) = chainName [interface] := by
  rw [chainName, chainName, Interface.standing_cons, Interface.standing_cons, stands,
    ExtAttrValue.layered_alone own _ alone, ExtAttrValue.layered_alone own _ alone]

end WebIdl.Projection

namespace WebIdl.Definitions

open Projection (IsNamed chainName plainName chainConstructor)

-- Resolving neither adds nor removes a constructor and leaves their order and arguments alone. It
-- gives the constructors without a name of their own another name where an alias comes down.
theorem constructors_renamed_iff (definitions : Definitions)
    (done : (resolveInheritance definitions).failure = none) (name : String)
    (interface : Interface) (found : definitions.interfaces.get? name = some interface) :
    ∃ above before after, Lineage definitions.interfaces interface.parent above ∧
      (Projection.ofDefinitions definitions).interfaces.filter (·.name == name) = [before] ∧
      (Projection.ofDefinitions (resolveInheritance definitions).state).interfaces.filter
        (·.name == name) = [after] ∧
      before.constructors = interface.constructors.map (chainConstructor interface []) ∧
      after.constructors = interface.constructors.map (chainConstructor interface above) ∧
      (after.constructors = before.constructors ↔
        ((∃ constructor ∈ interface.constructors, IsNamed constructor) →
          chainName (interface :: above) = chainName [interface]) ∧
        ((∃ constructor ∈ interface.constructors, ¬ IsNamed constructor) →
          plainName interface.name (interface :: above) =
            plainName interface.name [interface])) ∧
      ∀ own, interface.attrs.get? "NamedConstructor" = some own → own.StandsAlone →
        chainName (interface :: above) = chainName [interface] := by
  have spec := resolve_inheritance_spec definitions
  rw [done] at spec
  obtain ⟨above, lineage, value⟩ := spec.2 name interface found
  have before := Projection.with_above_constructors interface [] name
  have after := Projection.with_above_constructors interface above name
  refine ⟨above, _, _, lineage, Projection.interface_record definitions name interface found,
    Projection.interface_record _ name _ value, before, after, ?_,
    Projection.chain_name_kept interface above⟩
  rw [after, ← Projection.chain_constructors_eq_iff]
  exact Eq.congr_right before

def hiddenAs (name known : String) : Node :=
  (Node.interfaceOf name []).withChild
    ((Node.leaf "ExtAttributes").withChildren
      [(Node.leaf "ExtAttribute").named "NoInterfaceObject",
        ((Node.leaf "ExtAttribute").named "LegacyWindowAlias").withProperty "VALUE"
          (.text known)])

def constructible (name : String) : Node :=
  (Node.interfaceOf name []).withChild ((Node.leaf "Constructor").withChild (Node.leaf "Arguments"))

theorem named_below_alias :
    ∃ definitions after,
      ofNode (Node.fileOf [hiddenAs "Parent" "Old",
        (mediaMadeAs "Image" "width").inheriting "Parent"]) = .ok definitions ∧
      (resolveInheritance definitions).failure = none ∧
      (Projection.ofDefinitions (resolveInheritance definitions).state).interfaces.filter
        (·.name == "Media") = [after] ∧
      after.constructors.map (·.name) = ["Image"] := by
  obtain ⟨definitions, built⟩ : ∃ definitions, ofNode (Node.fileOf [hiddenAs "Parent" "Old",
    (mediaMadeAs "Image" "width").inheriting "Parent"]) = .ok definitions := ⟨_, rfl⟩
  have renamed := constructors_renamed_iff definitions
  cases built
  obtain ⟨above, before, after, _, first, last, own, _, unchanged, kept⟩ :=
    renamed rfl "Media" _ rfl
  have same := unchanged.mpr ⟨fun _ => kept _ rfl ⟨rfl, rfl⟩, by
    rintro ⟨constructor, listed, plain⟩
    rw [List.mem_singleton.mp listed] at plain
    exact absurd rfl plain⟩
  refine ⟨_, after, rfl, rfl, last, ?_⟩
  rw [same, own]
  rfl

theorem renamed_to_alias :
    ∃ definitions before after,
      ofNode (Node.fileOf [hiddenAs "Parent" "Old",
        (constructible "Child").inheriting "Parent"]) = .ok definitions ∧
      (resolveInheritance definitions).failure = none ∧
      (Projection.ofDefinitions definitions).interfaces.filter (·.name == "Child") = [before] ∧
      (Projection.ofDefinitions (resolveInheritance definitions).state).interfaces.filter
        (·.name == "Child") = [after] ∧
      before.constructors.map (·.name) = ["Child"] ∧
      after.constructors.map (·.name) = ["Old"] :=
  ⟨_, _, _, rfl, rfl, rfl, rfl, rfl, rfl⟩

end WebIdl.Definitions
