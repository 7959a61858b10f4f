import WebIdl.Proofs.ConstructionRules
import WebIdl.Proofs.SoundMembers
import WebIdl.Proofs.SummaryFields

set_option autoImplicit false

namespace WebIdl

namespace Interface

structure DeclaresSound (interface : Interface) : Prop where
  attributes : ∀ item ∈ interface.attributes.list, item.Sound
  constants : ∀ constant ∈ interface.constants, constant.Fits
  operations : ∀ operation ∈ interface.operations, operation.Sound
  constructors : ∀ constructor ∈ interface.constructors, constructor.Sound
  customConstructors : ∀ constructor ∈ interface.customConstructors, constructor.Sound
  stringifier : ∀ stringifier ∈ interface.stringifier, stringifier.Sound

structure MembersSound (interface : Interface) : Prop extends DeclaresSound interface where
  eventHandlers : ∀ item ∈ interface.eventHandlers, item.Sound
  handleEvent : ∀ operation ∈ interface.handleEvent, operation.Sound

inductive Sound : Interface → Prop
  | intro (interface : Interface) (members : interface.MembersSound)
      (partials : ∀ fragment ∈ interface.partials, Sound fragment) : Sound interface

theorem Sound.members (interface : Interface) (sound : interface.Sound) :
    interface.MembersSound := by
  cases sound with
  | intro _ members _ => exact members

theorem Sound.partials (interface : Interface) (sound : interface.Sound) :
    ∀ fragment ∈ interface.partials, fragment.Sound := by
  cases sound with
  | intro _ _ partials => exact partials

namespace Draft

theorem append_sound {α : Type} (holds : α → Prop) (members : List α) (added : α)
    (before : ∀ member ∈ members, holds member) (fresh : holds added) :
    ∀ member ∈ members ++ [added], holds member :=
  List.forall_mem_append.mpr ⟨before, List.forall_mem_singleton.mpr fresh⟩

structure Sound (draft : Draft) : Prop where
  declared : draft.interface.DeclaresSound
  constructors : ∀ constructor ∈ draft.constructors, constructor.Sound
  customConstructors : ∀ constructor ∈ draft.customConstructors, constructor.Sound

theorem push_attribute_sound (draft : Draft) (item : Attribute) (sound : draft.Sound)
    (fresh : item.Sound) : (draft.pushAttribute (draft.owned item)).Sound := by
  refine { sound with declared := { sound.declared with attributes := ?_ } }
  have owned : (draft.owned item).Sound := { fresh with }
  rw [pushAttribute, AttributeTable.push_list]
  exact append_sound _ _ _ sound.declared.attributes owned

theorem add_operation_sound (draft : Draft) (owner : Option String) (operation : Operation)
    (sound : draft.Sound) (fresh : operation.Sound) :
    (draft.addOperation { operation with definedIn := owner }).Sound := by
  refine { sound with declared := { sound.declared with operations := ?_ } }
  exact append_sound _ _ _ sound.declared.operations { fresh with }

theorem noted_sound (draft noted : Draft) (operation : Operation) (sound : draft.Sound)
    (note : (draft.noteGetter operation).noteHandleEvent operation = .ok noted) : noted.Sound := by
  obtain ⟨_, _, same⟩ := noted_interface draft noted operation note
  obtain ⟨plain, custom, _⟩ := noted_constructors draft noted operation note
  constructor
  · rw [same]
    exact { sound.declared with }
  · rw [plain]
    exact sound.constructors
  · rw [custom]
    exact sound.customConstructors

theorem taken_sound (draft : Draft) (child : Node) (next : Draft)
    (taken : Taken draft child next) (sound : draft.Sound) : next.Sound := by
  cases taken with
  | attributeMember item _ read =>
      exact push_attribute_sound (draft.noteLength item) item { sound with }
        (Attribute.of_node_sound child item read)
  | constant constant _ read =>
      have fits := Constant.of_node_fits child constant read
      exact { sound with declared := { sound.declared with
        constants := append_sound _ _ _ sound.declared.constants fits } }
  | extAttrs attrs named constructors _ read split =>
      have every := ExtAttrs.of_node_read child attrs read
      exact { sound with declared := { sound.declared with
        constructors := named_constructors_sound attrs named constructors every split
        customConstructors := List.forall_mem_nil _ } }
  | operation operation noted _ read note =>
      exact add_operation_sound noted _ operation (noted_sound draft noted _ sound note)
        (Operation.of_node_sound child operation read)
  | customConstructor declaration _ read =>
      have fresh := ConstructorDeclaration.of_node_sound child declaration read
      exact { sound with
        customConstructors := append_sound _ _ _ sound.customConstructors fresh }
  | plainConstructor declaration _ read =>
      have fresh := ConstructorDeclaration.of_node_sound child declaration read
      exact { sound with constructors := append_sound _ _ _ sound.constructors fresh }
  | parent => exact { sound with declared := { sound.declared with } }
  | stringifier stringifier placed _ read place =>
      have own := Stringifier.of_node_sound child stringifier read
      have before : placed.Sound := by
        cases place with
        | attributeMember item holds =>
            exact push_attribute_sound draft item sound (own.attributeMember item holds)
        | operation operation _ holds =>
            exact add_operation_sound draft _ operation sound (own.operationMember operation holds)
        | nothing => exact sound
      refine { before with declared := { before.declared with stringifier := ?_ } }
      rintro _ ⟨⟩
      exact own
  | iteration => exact { sound with declared := { sound.declared with } }

theorem start_sound (node : Node) (name : String) : (start node name).Sound := by
  refine ⟨⟨?_, ?_, ?_, ?_, ?_, ?_⟩, ?_, ?_⟩
  all_goals
    rintro _ ⟨⟩

end Draft

theorem of_node_declares_sound (node : Node) (interface : Interface)
    (built : ofNode node = .ok interface) : interface.DeclaresSound := by
  obtain ⟨name, draft, _, taken, finished⟩ := (of_node_ok_iff node interface).mp built
  have sound := Draft.take_all_keeps Draft.Sound Draft.taken_sound _ draft node.children taken
    (Draft.start_sound node name)
  obtain ⟨_, _, _, _, constructed⟩ := Draft.finish_finished draft interface finished
  cases constructed with
  | without => exact { sound.declared with }
  | operations =>
      exact { sound.declared with
        constructors := sound.constructors
        customConstructors := sound.customConstructors }

theorem of_node_sound (node : Node) (interface : Interface)
    (built : ofNode node = .ok interface) : interface.Sound := by
  have declared := of_node_declares_sound node interface built
  constructor
  · refine { declared with eventHandlers := ?_, handleEvent := ?_ }
    · rw [(of_node_on_its_own node interface built).handlers]
      exact fun item noted => declared.attributes item (List.mem_of_mem_filter noted)
    · have summary := summarised_sound interface node.children
        (of_node_summarises node interface built)
      exact fun operation noted =>
        declared.operations operation (summary.handleEvent operation noted).1
  · rw [of_node_no_partials node interface built]
    exact List.forall_mem_nil _

theorem either_sound (own other : Option Stringifier)
    (first : ∀ stringifier ∈ own, stringifier.Sound)
    (second : ∀ stringifier ∈ other, stringifier.Sound) :
    ∀ stringifier ∈ own.or other, stringifier.Sound := by
  cases own with
  | none => exact second
  | some => exact first

theorem merge_sound (interface fragment : Interface) (sound : interface.Sound)
    (part : fragment.Sound) : (interface.merge fragment).Sound := by
  have own := sound.members
  have others := part.members
  refine .intro _ { own with
    attributes := ?_
    constants := List.forall_mem_append.mpr ⟨own.constants, others.constants⟩
    operations := List.forall_mem_append.mpr ⟨own.operations, others.operations⟩
    constructors := List.forall_mem_append.mpr ⟨own.constructors, others.constructors⟩
    stringifier := either_sound _ _ own.stringifier others.stringifier
    eventHandlers := List.forall_mem_append.mpr ⟨own.eventHandlers, others.eventHandlers⟩ } ?_
  · rw [merge, AttributeTable.push_all_list]
    exact List.forall_mem_append.mpr ⟨own.attributes, others.attributes⟩
  · exact List.forall_mem_append.mpr ⟨sound.partials, List.forall_mem_singleton.mpr part⟩

theorem inherit_sound (interface parent : Interface) (sound : interface.Sound)
    (above : parent.Sound) : (interface.inherit parent).Sound := by
  have own := sound.members
  have others := above.members
  refine .intro _ { own with
    attributes := ?_
    constants := List.forall_mem_append.mpr ⟨own.constants, others.constants⟩
    operations := List.forall_mem_append.mpr ⟨own.operations, fun operation taken =>
      others.operations operation (List.mem_of_mem_filter taken)⟩
    stringifier := either_sound _ _ own.stringifier others.stringifier
    eventHandlers := List.forall_mem_append.mpr ⟨own.eventHandlers, others.eventHandlers⟩ }
    sound.partials
  obtain ⟨taken, part, listed⟩ := adopt_list_taken interface.attributes parent.attributes.list
  rw [inherit, listed]
  exact List.forall_mem_append.mpr ⟨own.attributes, fun item member =>
    others.attributes item (part.mem member)⟩

end Interface

def Declaration.Sound : Declaration → Prop
  | .interface value => value.Sound
  | .dictionary value => ∀ member ∈ value.members, member.Fits
  | .callback value => ∀ argument ∈ value.arguments, argument.Fits
  | .enumeration _ => True
  | .typedef _ => True

theorem Declaration.read_sound (node : Node) (declaration : Declaration)
    (read : ofNode? node = some declaration) : declaration.Sound := by
  have made := of_node_reads node declaration read
  cases declaration with
  | interface value => exact Interface.of_node_sound node value made
  | dictionary value => exact Dictionary.of_node_fit node value made
  | callback value => exact Callback.of_node_fit node value made
  | enumeration => trivial
  | typedef => trivial

namespace Definitions

theorem sound_mergeable : Mergeable fun _ => Declaration.Sound where
  interfaces _ := Interface.merge_sound
  dictionaries _ _ _ own others := List.forall_mem_append.mpr ⟨own, others⟩
  enumerations _ _ _ _ _ := trivial
  typedefs _ _ _ _ _ := trivial

theorem assembled_sound (definitions : Definitions) (assembled : Assembled definitions) :
    definitions.Each fun _ => Declaration.Sound :=
  assembled_each _ Declaration.read_sound sound_mergeable
    (fun _ interface _ => Interface.inherit_sound interface) definitions assembled

def gauge : Node :=
  (Node.interfaceOf "Gauge" []).withChildren
    [(Node.longAttribute "level").withChild
      ((Node.leaf "ExtAttributes").withChild
        (((Node.leaf "ExtAttribute").named "NumberRange").withProperty "VALUE"
          (.text "[0, 10]"))),
      (Node.leaf "Stringifier").withChildren
        [Node.longAttribute "label", Node.attrsOf ["Unforgeable"]]]

def gaugePart : Node :=
  (Node.interfaceOf "Gauge" []).asPartial.withChild
    ((Node.longAttribute "count").withProperty "STATIC" (.flag true))

theorem gauge_sound :
    ∃ whole part merged resolved,
      ofNode (Node.fileOf [gauge]) = .ok whole ∧ ofNode (Node.fileOf [gaugePart]) = .ok part ∧
        merge [part, whole] = .ok merged ∧
        (resolveInheritance merged).state.interfaces.get? "Gauge" = some resolved ∧
        resolved.Sound ∧ resolved.names = ["level", "label", "count"] ∧
        resolved.attributes.list.map (·.numeric.range.isSome) = [true, false, false] ∧
        resolved.attributes.list.map (·.attrs.contains "Unforgeable") = [false, true, false] ∧
        resolved.attributes.list.map (·.isStatic) = [false, false, true] := by
  obtain ⟨whole, first⟩ : ∃ whole, ofNode (Node.fileOf [gauge]) = .ok whole := ⟨_, rfl⟩
  obtain ⟨part, second⟩ : ∃ part, ofNode (Node.fileOf [gaugePart]) = .ok part := ⟨_, rfl⟩
  have parts : ∀ unit ∈ [part, whole], Assembled unit :=
    List.forall_mem_cons.mpr ⟨.read _ part second,
      List.forall_mem_singleton.mpr (.read _ whole first)⟩
  have merged := fun whole => Assembled.merge _ whole parts
  cases first
  cases second
  have sound := assembled_sound _ (.resolve _ (merged _ rfl))
  exact ⟨_, _, _, _, rfl, rfl, rfl, rfl, Table.each_get _ _ sound.interfaces "Gauge" _ rfl,
    rfl, rfl, rfl, rfl⟩

end Definitions

end WebIdl
