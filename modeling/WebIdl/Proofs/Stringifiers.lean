import WebIdl.Attempt
import WebIdl.Interface.OfNode

set_option autoImplicit false

namespace WebIdl.Stringifier

def loneOperation (stringifier : Stringifier) : Option Operation :=
  match stringifier.attributeMember with
  | some _ => none
  | none => stringifier.operationMember

def start (node : Node) : Parts := ⟨⟨none, none, .empty⟩, node.flag "STATIC"⟩

structure Gathered (parts : Parts) : Prop where
  attributeMember : ∀ item ∈ parts.stringifier.attributeMember,
    (∃ child, Attribute.ofNode child = .ok item) ∧ (item.isStatic = true → parts.isStatic = true)
  operationMember : ∀ operation ∈ parts.stringifier.operationMember,
    (∃ child, Operation.ofNode child = .ok operation) ∧ operation.name.isSome = true ∧
      (operation.isStatic = true → parts.isStatic = true)

theorem start_gathered (node : Node) : Gathered (start node) := by
  constructor
  all_goals
    rintro _ ⟨⟩

theorem gathered_grown (parts : Parts) (more : Bool) (gathered : Gathered parts) :
    Gathered ⟨parts.stringifier, parts.isStatic || more⟩ where
  attributeMember item member := by
    obtain ⟨read, covered⟩ := gathered.attributeMember item member
    exact ⟨read, fun static => Bool.or_eq_true_iff.mpr (.inl (covered static))⟩
  operationMember operation member := by
    obtain ⟨read, named, covered⟩ := gathered.operationMember operation member
    exact ⟨read, named, fun static => Bool.or_eq_true_iff.mpr (.inl (covered static))⟩

theorem gather_gathered (parts final : Parts) (children : List Node)
    (read : gather parts children = .ok final) (gathered : Gathered parts) : Gathered final := by
  induction children generalizing parts with
  | nil =>
      cases read
      exact gathered
  | cons child rest ih =>
      rw [gather] at read
      split at read
      · obtain ⟨item, found, later⟩ := (bind_ok_iff _ _ _).mp read
        refine ih _ later ⟨?_, (gathered_grown parts item.isStatic gathered).operationMember⟩
        rintro _ ⟨⟩
        exact ⟨⟨child, found⟩, fun static => Bool.or_eq_true_iff.mpr (.inr static)⟩
      · obtain ⟨operation, found, later⟩ := (bind_ok_iff _ _ _).mp read
        have grown := gathered_grown parts operation.isStatic gathered
        apply ih _ later
        -- An operation without a name is dropped, but the flag still covers it.
        by_cases named : (operation.name.getD "" != "") = true
        · rw [if_pos named]
          refine ⟨grown.attributeMember, ?_⟩
          rintro _ ⟨⟩
          refine ⟨⟨child, found⟩, ?_, fun static => Bool.or_eq_true_iff.mpr (.inr static)⟩
          cases called : operation.name with
          | none => simp [called] at named
          | some name => rfl
        · rwa [if_neg named]
      · obtain ⟨attrs, _, later⟩ := (bind_ok_iff _ _ _).mp read
        exact ih _ later { gathered with }
      · cases read

theorem of_node_passed_on (node : Node) (stringifier : Stringifier)
    (read : ofNode node = .ok stringifier) :
    ∃ parts, gather (start node) node.children = .ok parts ∧
      ¬ (parts.isStatic = true ∧ parts.stringifier.attrs.contains "Unforgeable" = true) ∧
      stringifier = parts.stringifier.passOn := by
  obtain ⟨parts, gathered, rest⟩ := (bind_ok_iff _ _ _).mp read
  split at rest
  · cases rest
  · rename_i forgeable
    cases rest
    exact ⟨parts, gathered, by rwa [Bool.and_eq_true] at forgeable, rfl⟩

theorem passed_on_attribute (bare : Stringifier) :
    bare.passOn.attributeMember = bare.attributeMember.map fun item =>
      { item with attrs := item.attrs.extend bare.attrs } := by
  unfold passOn
  split <;> simp [*]

theorem passed_on_lone_operation (bare : Stringifier) :
    bare.passOn.loneOperation = bare.loneOperation.map fun operation =>
      { operation with attrs := operation.attrs.extend bare.attrs } := by
  unfold passOn
  split <;> simp [loneOperation, *]

theorem lone_operation_declared (stringifier : Stringifier) (operation : Operation)
    (lone : operation ∈ stringifier.loneOperation) : operation ∈ stringifier.operationMember := by
  unfold loneOperation at lone
  split at lone
  · cases lone
  · exact lone

theorem of_node_names (node : Node) (stringifier : Stringifier)
    (read : ofNode node = .ok stringifier) :
    ∀ operation ∈ stringifier.operationMember, operation.name.isSome = true := by
  obtain ⟨parts, gathered, _, rfl⟩ := of_node_passed_on node stringifier read
  have named := (gather_gathered _ parts node.children gathered
    (start_gathered node)).operationMember
  unfold passOn
  split
  · exact fun operation holds => (named operation holds).2.1
  · rename_i own _ holds
    rintro _ ⟨⟩
    exact (named own holds).2.1
  · exact fun operation holds => (named operation holds).2.1

end WebIdl.Stringifier
