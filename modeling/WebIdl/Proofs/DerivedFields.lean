import WebIdl.Proofs.DraftMembers
import WebIdl.Proofs.PendingCalls

set_option autoImplicit false

namespace WebIdl

structure Attribute.Follows (item : Attribute) (attrs : ExtAttrs) : Prop where
  isEventHandler : item.isEventHandler = attrs.contains "EventHandler"
  eventType : item.eventType = eventTypeOf attrs
  numeric : NumericConstraints.ofAttrs item.type attrs = .ok item.numeric

structure Operation.Follows (operation : Operation) (attrs : ExtAttrs) : Prop where
  weight : weightOf attrs = .ok operation.weight
  callAfter : operation.callAfter = callAfterOf attrs

def ExtAttrs.derivedNames : List String :=
  ["EventHandler", "EventType", "NumberRange", "NumberEnum", "Weight", "CallAfter"]

theorem Attribute.follows_congr (item : Attribute) (attrs other : ExtAttrs)
    (same : ∀ name ∈ ExtAttrs.derivedNames, other.get? name = attrs.get? name)
    (follows : item.Follows attrs) : item.Follows other := by
  have handler : other.contains "EventHandler" = attrs.contains "EventHandler" :=
    congrArg Option.isSome (same _ (by decide))
  constructor
  · rw [handler, follows.isEventHandler]
  · rw [eventTypeOf, ExtAttrs.shownAt, handler, same _ (by decide)]
    exact follows.eventType
  · rw [NumericConstraints.ofAttrs, same _ (by decide), same _ (by decide)]
    exact follows.numeric

theorem Operation.follows_congr (operation : Operation) (attrs other : ExtAttrs)
    (same : ∀ name ∈ ExtAttrs.derivedNames, other.get? name = attrs.get? name)
    (follows : operation.Follows attrs) : operation.Follows other := by
  constructor
  · rw [weightOf, same _ (by decide)]
    exact follows.weight
  · rw [callAfterOf, same _ (by decide)]
    exact follows.callAfter

theorem Attribute.of_node_follows (node : Node) (item : Attribute)
    (read : ofNode node = .ok item) : item.Follows item.attrs := by
  obtain ⟨⟨_, attrs⟩, _, rest⟩ := (bind_ok_iff _ _ _).mp read
  obtain ⟨type, _, rest⟩ := (bind_ok_iff _ _ _).mp rest
  obtain ⟨_, _, rest⟩ := (bind_ok_iff _ _ _).mp rest
  obtain ⟨numeric, constrained, done⟩ := (bind_ok_iff _ _ _).mp rest
  cases done
  exact ⟨rfl, rfl, constrained⟩

theorem Operation.of_node_follows (node : Node) (operation : Operation)
    (read : ofNode node = .ok operation) : operation.Follows operation.attrs := by
  obtain ⟨parts, given⟩ := of_node_given node operation read
  rw [given.attrs]
  exact ⟨given.weighed, given.callAfter⟩

namespace Stringifier

-- The member has the fields that it would have, had the attributes of the stringifier been its own
-- from the beginning.
structure Harmless (bare : Stringifier) : Prop where
  attributeMember : ∀ item ∈ bare.attributeMember, item.Follows (item.attrs.extend bare.attrs)
  operationMember : ∀ operation ∈ bare.loneOperation,
    operation.Follows (operation.attrs.extend bare.attrs)

structure DeclaresFollowing (stringifier : Stringifier) : Prop where
  attributeMember : ∀ item ∈ stringifier.attributeMember, item.Follows item.attrs
  operationMember : ∀ operation ∈ stringifier.operationMember, operation.Follows operation.attrs

theorem gathered_follows (parts : Parts) (gathered : Gathered parts) :
    parts.stringifier.DeclaresFollowing where
  attributeMember item member := by
    obtain ⟨⟨child, read⟩, _⟩ := gathered.attributeMember item member
    exact Attribute.of_node_follows child item read
  operationMember operation member := by
    obtain ⟨⟨child, read⟩, _⟩ := gathered.operationMember operation member
    exact Operation.of_node_follows child operation read

theorem harmless_without (bare : Stringifier) (follows : bare.DeclaresFollowing)
    (without : ∀ name ∈ ExtAttrs.derivedNames, name ∉ bare.attrs.keys) : bare.Harmless := by
  have same : ∀ attrs : ExtAttrs, ∀ name ∈ ExtAttrs.derivedNames,
      (attrs.extend bare.attrs).get? name = attrs.get? name :=
    fun attrs name derived => ExtAttrs.extend_other attrs bare.attrs name (without name derived)
  constructor
  · intro item holds
    exact item.follows_congr _ _ (same item.attrs) (follows.attributeMember item holds)
  · intro operation holds
    exact operation.follows_congr _ _ (same operation.attrs)
      (follows.operationMember operation (bare.lone_operation_declared operation holds))

end Stringifier

namespace Node

def bareStringifier? (child : Node) : Option Stringifier :=
  if child.kind = "Stringifier" then
    (Stringifier.gather (Stringifier.start child) child.children).toOption.map (·.stringifier)
  else none

structure BringsFollowing (child : Node) : Prop where
  attributes : ∀ item ∈ child.memberAttribute?, item.Follows item.attrs
  operations : ∀ operation ∈ child.memberOperation?, operation.Follows operation.attrs

theorem bare_stringifier_some (child : Node) (bare : Stringifier)
    (declared : child.bareStringifier? = some bare) :
    ∃ parts, Stringifier.gather (Stringifier.start child) child.children = .ok parts ∧
      parts.stringifier = bare := by
  unfold bareStringifier? at declared
  split at declared
  · obtain ⟨parts, read, rfl⟩ := Option.map_eq_some_iff.mp declared
    exact ⟨parts, (to_option_eq_some_iff _ parts).mp read, rfl⟩
  · cases declared

theorem bare_stringifier_follows (child : Node) (bare : Stringifier)
    (declared : child.bareStringifier? = some bare) : bare.DeclaresFollowing := by
  obtain ⟨parts, gathered, rfl⟩ := child.bare_stringifier_some bare declared
  exact Stringifier.gathered_follows parts (Stringifier.gather_gathered _ parts child.children
    gathered (Stringifier.start_gathered child))

theorem plain_brings_following (child : Node) (other : child.kind ≠ "Stringifier") :
    child.BringsFollowing := by
  have bare : child.stringifier? = none := if_neg other
  constructor
  · intro item brought
    rw [memberAttribute?, bare, Option.bind_none, Option.or_none, attribute?] at brought
    split at brought
    · exact Attribute.of_node_follows child item ((to_option_eq_some_iff _ item).mp brought)
    · cases brought
  · intro operation brought
    rw [memberOperation?, bare, Option.bind_none, Option.or_none, operation?] at brought
    split at brought
    · exact Operation.of_node_follows child operation
        ((to_option_eq_some_iff _ operation).mp brought)
    · cases brought

theorem stringifier_brings_following_iff (child : Node) (stringifier : Stringifier)
    (kind : child.kind = "Stringifier") (read : Stringifier.ofNode child = .ok stringifier) :
    child.BringsFollowing ↔ ∀ bare ∈ child.bareStringifier?, bare.Harmless := by
  obtain ⟨item, operation, _⟩ := child.brings_stringifier stringifier kind read
  obtain ⟨parts, gathered, _, rfl⟩ := Stringifier.of_node_passed_on child stringifier read
  have declared : child.bareStringifier? = some parts.stringifier := by
    rw [bareStringifier?, if_pos kind, gathered]
    rfl
  rw [Stringifier.passed_on_attribute] at item
  rw [Stringifier.passed_on_lone_operation] at operation
  constructor
  · rintro ⟨attributes, operations⟩ bare present
    obtain rfl := Option.some.inj (declared.symm.trans present)
    constructor
    · intro own holds
      have follows := attributes { own with attrs := own.attrs.extend parts.stringifier.attrs }
        (by rw [item, holds]; rfl)
      exact { follows with }
    · intro own holds
      have follows := operations { own with attrs := own.attrs.extend parts.stringifier.attrs }
        (by rw [operation, holds]; rfl)
      exact { follows with }
  · intro harmless
    have kept := harmless _ declared
    constructor
    · intro passed brought
      rw [item] at brought
      obtain ⟨own, holds, rfl⟩ := Option.map_eq_some_iff.mp brought
      exact { kept.attributeMember own holds with }
    · intro passed brought
      rw [operation] at brought
      obtain ⟨own, holds, rfl⟩ := Option.map_eq_some_iff.mp brought
      exact { kept.operationMember own holds with }

end Node

namespace Interface

structure FieldsFollow (interface : Interface) : Prop where
  attributes : ∀ item ∈ interface.attributes.list, item.Follows item.attrs
  operations : ∀ operation ∈ interface.operations, operation.Follows operation.attrs

theorem collected_follow_iff (interface : Interface) (children : List Node)
    (collects : interface.Collects children) :
    interface.FieldsFollow ↔ ∀ child ∈ children, child.BringsFollowing := by
  constructor
  · rintro ⟨attributes, operations⟩ child listed
    rw [collects.attributes] at attributes
    rw [collects.operations] at operations
    constructor
    · intro item brought
      have follows := attributes _ (List.mem_map_of_mem (List.mem_filterMap.mpr
        ⟨child, listed, brought⟩))
      exact { follows with }
    · intro operation brought
      have follows := operations _ (List.mem_map_of_mem (List.mem_filterMap.mpr
        ⟨child, listed, brought⟩))
      exact { follows with }
  · intro follow
    constructor
    · intro item listed
      rw [collects.attributes] at listed
      obtain ⟨own, gathered, rfl⟩ := List.mem_map.mp listed
      obtain ⟨child, member, brought⟩ := List.mem_filterMap.mp gathered
      exact { (follow child member).attributes own brought with }
    · intro operation listed
      rw [collects.operations] at listed
      obtain ⟨own, gathered, rfl⟩ := List.mem_map.mp listed
      obtain ⟨child, member, brought⟩ := List.mem_filterMap.mp gathered
      exact { (follow child member).operations own brought with }

theorem Draft.taken_stringifier_read (draft next : Draft) (child : Node)
    (taken : Taken draft child next) (kind : child.kind = "Stringifier") :
    ∃ stringifier, Stringifier.ofNode child = .ok stringifier := by
  cases taken with
  | stringifier stringifier _ _ read => exact ⟨stringifier, read⟩
  | iteration iteration _ read =>
      have other : child.kind ≠ "Stringifier" :=
        ne_of_mem_of_not_mem (reads_iteration_kind child iteration read) (by decide)
      exact absurd kind other
  | _ => simp_all

-- Members that are declared by themselves always follow their attributes. Those of a stringifier
-- do unless it passes something on that a field would have been read off.
theorem fields_follow_iff (node : Node) (interface : Interface)
    (built : ofNode node = .ok interface) :
    (interface.FieldsFollow ↔
      ∀ child ∈ node.children, ∀ bare ∈ child.bareStringifier?, bare.Harmless) ∧
    ∀ child ∈ node.children, ∀ bare ∈ child.bareStringifier?,
      (∀ name ∈ ExtAttrs.derivedNames, name ∉ bare.attrs.keys) → bare.Harmless := by
  constructor
  · rw [collected_follow_iff interface node.children (of_node_collects node interface built)]
    apply forall₂_congr
    intro child listed
    by_cases kind : child.kind = "Stringifier"
    · obtain ⟨draft, next, taken⟩ := of_node_taken node interface built child listed
      obtain ⟨stringifier, read⟩ := Draft.taken_stringifier_read draft next child taken kind
      exact child.stringifier_brings_following_iff stringifier kind read
    · refine iff_of_true (child.plain_brings_following kind) fun bare declared => ?_
      rw [Node.bareStringifier?, if_neg kind] at declared
      cases declared
  · intro child _ bare declared without
    exact bare.harmless_without (child.bare_stringifier_follows bare declared) without

def hrefAsText (names : List String) : Node :=
  (Node.leaf "Stringifier").withChildren [Node.longAttribute "href", Node.attrsOf names]

def weighed (member : Node) (weight : String) : Node :=
  (Node.stringifierOf member).withChild ((Node.leaf "ExtAttributes").withChild
    (((Node.leaf "ExtAttribute").named "Weight").withProperty "VALUE" (.text weight)))

theorem unforgeable_text_follows :
    ∃ interface, ofNode ((Node.interfaceOf "Link" []).withChild (hrefAsText ["Unforgeable"])) =
        .ok interface ∧
      interface.attributes.list.map (·.attrs.keys) = [["Unforgeable"]] ∧
      interface.FieldsFollow := by
  obtain ⟨interface, built⟩ : ∃ interface,
    ofNode ((Node.interfaceOf "Link" []).withChild (hrefAsText ["Unforgeable"])) =
      .ok interface := ⟨_, rfl⟩
  obtain ⟨follow, without⟩ := fields_follow_iff _ interface built
  have harmless : interface.FieldsFollow := by
    refine follow.mpr fun child listed bare declared => without child listed bare declared ?_
    obtain rfl := List.mem_singleton.mp listed
    cases declared
    decide
  cases built
  exact ⟨_, rfl, rfl, harmless⟩

theorem passed_on_too_late :
    (∃ interface, ofNode ((Node.interfaceOf "Link" []).withChild (hrefAsText ["EventHandler"])) =
          .ok interface ∧
        interface.attributes.list.map (·.attrs.contains "EventHandler") = [true] ∧
        interface.attributes.list.map (·.isEventHandler) = [false] ∧ ¬ interface.FieldsFollow) ∧
    (∃ interface, ofNode ((Node.interfaceOf "Link" []).withChild
          (weighed (Node.operationOf "toString") "3")) = .ok interface ∧
        interface.operations.map (·.weight) = [Operation.defaultWeight] ∧
        ¬ interface.FieldsFollow) ∧
    ∃ interface, ofNode ((Node.interfaceOf "Link" []).withChild
          (weighed (Node.operationOf "toString") "high")) = .ok interface ∧
        ¬ interface.FieldsFollow := by
  refine ⟨⟨_, rfl, rfl, rfl, fun follow => ?_⟩, ⟨_, rfl, rfl, fun follow => ?_⟩,
    ⟨_, rfl, fun follow => ?_⟩⟩
  · cases (follow.attributes _ List.mem_cons_self).isEventHandler
  · cases (follow.operations _ List.mem_cons_self).weight
  · cases (follow.operations _ List.mem_cons_self).weight

end Interface

end WebIdl
