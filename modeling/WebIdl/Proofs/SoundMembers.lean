import WebIdl.Definitions.OfNode
import WebIdl.Proofs.PendingCalls
import WebIdl.Proofs.Stringifiers

set_option autoImplicit false

namespace WebIdl

inductive IdlType.Wraps (core : IdlType) : IdlType → Prop
  | here : Wraps core core
  | nullable (type : IdlType) (below : Wraps core type) : Wraps core (.nullable type)
  | annotated (type : IdlType) (attrs : ExtAttrs) (below : Wraps core type) :
      Wraps core (.annotated type attrs)

def NumberRange.isInteger : NumberRange → Bool
  | .integer _ => true
  | .floating _ => false

def NumberEnum.isInteger : NumberEnum → Bool
  | .integer _ => true
  | .floating _ => false

-- A range stands on numeric types only, and all numbers are integers if and only if the type is.
structure NumericConstraints.Fits (constraints : NumericConstraints) (type : IdlType) : Prop where
  numeric : constraints.range.isSome = true → type.isNumeric = true
  range : ∀ range ∈ constraints.range, range.isInteger = type.isInteger
  enumeration : ∀ numbers ∈ constraints.enumeration, numbers.isInteger = type.isInteger

def Forgeable (attrs : ExtAttrs) (isStatic : Bool) : Prop :=
  ¬ (isStatic = true ∧ attrs.contains "Unforgeable" = true)

def Argument.Fits (argument : Argument) : Prop := argument.numeric.Fits argument.type

structure Attribute.Sound (item : Attribute) : Prop where
  forgeable : Forgeable item.attrs item.isStatic
  noSequence : ∀ element, ¬ IdlType.Wraps (.sequence element) item.type
  noRecord : ∀ key value, ¬ IdlType.Wraps (.record key value) item.type
  numeric : item.numeric.Fits item.type

def Constant.Fits (constant : Constant) : Prop := constant.numeric.Fits constant.type

structure Operation.Sound (operation : Operation) : Prop where
  forgeable : Forgeable operation.attrs operation.isStatic
  arguments : ∀ argument ∈ operation.arguments, argument.Fits

structure Stringifier.Sound (stringifier : Stringifier) : Prop where
  attributeMember : ∀ item ∈ stringifier.attributeMember, item.Sound
  operationMember : ∀ operation ∈ stringifier.operationMember, operation.Sound

def DictionaryMember.Fits (member : DictionaryMember) : Prop := member.numeric.Fits member.type

namespace IdlType

theorem wraps_inner (core type : IdlType) (wraps : Wraps core type) : type.inner = core.inner := by
  induction wraps with
  | here => rfl
  | nullable type _ ih => rw [inner, ih]
  | annotated type attrs _ ih => rw [inner, ih]

theorem no_sequence (type : IdlType) (other : type.isSequence = false) (element : IdlType) :
    ¬ Wraps (.sequence element) type := by
  intro wraps
  rw [isSequence, wraps_inner _ type wraps] at other
  cases other

theorem no_record (type : IdlType) (other : type.isRecord = false) (key : String)
    (value : IdlType) : ¬ Wraps (.record key value) type := by
  intro wraps
  rw [isRecord, wraps_inner _ type wraps] at other
  cases other

theorem integer_not_floating (type : IdlType) (integer : type.isInteger = true) :
    type.isFloating = false := by
  have apart : ∀ name ∈ integerNames, floatingNames.contains name = false := by decide
  unfold isInteger at integer
  split at integer
  · rename_i name _ shape
    rw [isFloating, shape]
    exact apart name (List.contains_iff_mem.mp integer)
  · cases integer

theorem integer_of_numeric (type : IdlType) (numeric : type.isNumeric = true) :
    type.isInteger = !type.isFloating := by
  cases integer : type.isInteger with
  | true => rw [integer_not_floating type integer, Bool.not_false]
  | false =>
      rw [isNumeric, integer, Bool.false_or] at numeric
      rw [numeric, Bool.not_true]

end IdlType

namespace NumericConstraints

theorem of_text_kind (text : String) (floating : Bool) (range : NumberRange)
    (read : NumberRange.ofText text floating = .ok range) : range.isInteger = !floating := by
  unfold NumberRange.ofText at read
  cases floating with
  | false =>
      cases found : Interval.read Decimal.readInt128 text.toList with
      | none => simp [found] at read
      | some interval =>
          simp only [found, Bool.false_eq_true, if_false, Option.map_some, Except.ok.injEq] at read
          rw [← read]
          rfl
  | true =>
      cases found : Interval.read Decimal.readFloat text.toList with
      | none => simp [found] at read
      | some interval =>
          simp only [found, if_true, Option.map_some, Except.ok.injEq] at read
          rw [← read]
          rfl

theorem of_items_kind (items : List (List Char)) (integer : Bool) (numbers : NumberEnum)
    (read : NumberEnum.ofItems items integer = .ok numbers) : numbers.isInteger = integer := by
  unfold NumberEnum.ofItems at read
  cases integer with
  | false =>
      obtain ⟨_, _, rfl⟩ := (map_ok_iff _ _ _).mp read
      rfl
  | true =>
      obtain ⟨_, _, rfl⟩ := (map_ok_iff _ _ _).mp read
      rfl

theorem of_value_kind (value : ExtAttrValue) (integer : Bool) (numbers : NumberEnum)
    (read : NumberEnum.ofValue value integer = .ok numbers) : numbers.isInteger = integer := by
  unfold NumberEnum.ofValue at read
  split at read
  · split at read
    · exact of_items_kind _ integer numbers read
    · cases read
  · exact of_items_kind _ integer numbers read
  · cases read

theorem range_of_kind (type : IdlType) (value : Option ExtAttrValue) (range : NumberRange)
    (read : rangeOf type value = .ok (some range)) :
    type.isNumeric = true ∧ range.isInteger = type.isInteger := by
  unfold rangeOf at read
  split at read
  · cases read
  · split at read
    · rename_i numeric
      split at read
      · obtain ⟨_, found, same⟩ := (map_ok_iff _ _ _).mp read
        cases same
        rw [IdlType.integer_of_numeric type numeric]
        exact ⟨numeric, of_text_kind _ _ range found⟩
      · cases read
    · cases read

theorem enum_of_kind (type : IdlType) (value : Option ExtAttrValue) (numbers : NumberEnum)
    (read : enumOf type value = .ok (some numbers)) : numbers.isInteger = type.isInteger := by
  unfold enumOf at read
  split at read
  · cases read
  · obtain ⟨_, found, same⟩ := (map_ok_iff _ _ _).mp read
    cases same
    exact of_value_kind _ _ numbers found

theorem of_attrs_fits (type : IdlType) (attrs : ExtAttrs) (numeric : NumericConstraints)
    (read : ofAttrs type attrs = .ok numeric) : numeric.Fits type := by
  obtain ⟨range, ranged, rest⟩ := (bind_ok_iff _ _ _).mp read
  obtain ⟨enumeration, listed, done⟩ := (bind_ok_iff _ _ _).mp rest
  cases done
  constructor
  · intro present
    obtain ⟨interval, rfl⟩ := Option.isSome_iff_exists.mp present
    exact (range_of_kind type _ interval ranged).1
  · rintro interval rfl
    exact (range_of_kind type _ interval ranged).2
  · rintro numbers rfl
    exact enum_of_kind type _ numbers listed

end NumericConstraints

namespace Argument

theorem of_parts_fits (name : String) (properties : Table PropertyValue) (parts : ArgumentParts)
    (argument : Argument) (read : ofParts name properties parts = .ok argument) :
    argument.Fits := by
  obtain ⟨type, _, rest⟩ := (bind_ok_iff _ _ _).mp read
  obtain ⟨numeric, constrained, done⟩ := (bind_ok_iff _ _ _).mp rest
  cases done
  exact NumericConstraints.of_attrs_fits type parts.attrs numeric constrained

theorem of_nodes_fit (nodes : List Node) (arguments : List Argument)
    (read : ofNodes nodes = .ok arguments) : ∀ argument ∈ arguments, argument.Fits := by
  induction nodes generalizing arguments with
  | nil =>
      rw [ofNodes] at read
      cases read
      exact List.forall_mem_nil _
  | cons node rest ih =>
      obtain ⟨_, name, properties, children⟩ := node
      rw [ofNodes] at read
      obtain ⟨argument, first, read⟩ := (bind_ok_iff _ _ _).mp read
      obtain ⟨others, later, done⟩ := (bind_ok_iff _ _ _).mp read
      rw [ofNode] at first
      obtain ⟨parts, _, made⟩ := (bind_ok_iff _ _ _).mp first
      cases done
      have fits := of_parts_fits _ properties parts argument made
      exact List.forall_mem_cons.mpr ⟨fits, ih others later⟩

theorem of_parent_fit (parent : Node) (arguments : List Argument)
    (read : ofParent parent = .ok arguments) : ∀ argument ∈ arguments, argument.Fits := by
  obtain ⟨_, _, _, children⟩ := parent
  rw [ofParent] at read
  exact of_nodes_fit children arguments read

end Argument

theorem Operation.of_constructor_sound (name : String) (arguments : List Argument)
    (fit : ∀ argument ∈ arguments, argument.Fits) : (ofConstructor name arguments).Sound where
  forgeable declared := Bool.false_ne_true declared.1
  arguments := fit

namespace Attribute

theorem check_ok (type : IdlType) (attrs : ExtAttrs) (isStatic : Bool)
    (passed : check type attrs isStatic = .ok ()) :
    Forgeable attrs isStatic ∧ type.isSequence = false ∧ type.isRecord = false := by
  unfold check at passed
  split at passed
  · cases passed
  · rename_i forgeable
    split at passed
    · cases passed
    · rename_i other
      rw [Bool.or_eq_true, not_or, Bool.not_eq_true, Bool.not_eq_true] at other
      rw [Bool.and_eq_true, and_comm] at forgeable
      exact ⟨forgeable, other⟩

theorem of_node_sound (node : Node) (item : Attribute) (read : ofNode node = .ok item) :
    item.Sound := by
  obtain ⟨⟨_, attrs⟩, _, rest⟩ := (bind_ok_iff _ _ _).mp read
  obtain ⟨type, _, rest⟩ := (bind_ok_iff _ _ _).mp rest
  obtain ⟨_, checked, rest⟩ := (bind_ok_iff _ _ _).mp rest
  obtain ⟨numeric, constrained, done⟩ := (bind_ok_iff _ _ _).mp rest
  cases done
  obtain ⟨forgeable, noSequence, noRecord⟩ := check_ok type attrs _ checked
  exact ⟨forgeable, type.no_sequence noSequence, type.no_record noRecord,
    NumericConstraints.of_attrs_fits type attrs numeric constrained⟩

end Attribute

namespace Constant

theorem of_parts_fits (name : String) (type value : Node) (attrs : Option Node)
    (constant : Constant) (read : ofParts name type value attrs = .ok constant) :
    constant.Fits := by
  obtain ⟨_, _, rest⟩ := (bind_ok_iff _ _ _).mp read
  obtain ⟨type, _, rest⟩ := (bind_ok_iff _ _ _).mp rest
  cases attrs
  all_goals
    obtain ⟨attrs, _, rest⟩ := (bind_ok_iff _ _ _).mp rest
    obtain ⟨numeric, constrained, done⟩ := (bind_ok_iff _ _ _).mp rest
    cases done
    exact NumericConstraints.of_attrs_fits type attrs numeric constrained

theorem of_node_fits (node : Node) (constant : Constant) (read : ofNode node = .ok constant) :
    constant.Fits := by
  unfold ofNode at read
  split at read
  · exact of_parts_fits _ _ _ _ constant read
  · exact of_parts_fits _ _ _ _ constant read
  · cases read

end Constant

namespace Operation

theorem gather_fit (name : Option String) (parts final : Parts) (children : List Node)
    (read : gather name parts children = .ok final)
    (fit : ∀ argument ∈ parts.arguments, argument.Fits) :
    ∀ argument ∈ final.arguments, argument.Fits := by
  induction children generalizing parts with
  | nil =>
      cases read
      exact fit
  | cons child rest ih =>
      rw [gather] at read
      split at read
      · obtain ⟨arguments, found, later⟩ := (bind_ok_iff _ _ _).mp read
        exact ih _ later (Argument.of_parent_fit child arguments found)
      · obtain ⟨type, _, later⟩ := (bind_ok_iff _ _ _).mp read
        exact ih _ later fit
      · obtain ⟨attrs, _, later⟩ := (bind_ok_iff _ _ _).mp read
        exact ih _ later fit
      · cases read

theorem of_node_sound (node : Node) (operation : Operation) (read : ofNode node = .ok operation) :
    operation.Sound := by
  obtain ⟨parts, given⟩ := of_node_given node operation read
  have fit := gather_fit node.name .empty parts node.children given.gathered (List.forall_mem_nil _)
  have forgeable := given.forgeable
  rw [Bool.and_eq_true, and_comm, ← given.isStatic, ← given.attrs] at forgeable
  exact ⟨forgeable, given.arguments ▸ fit⟩

end Operation

theorem extend_forgeable (attrs other : ExtAttrs) (isStatic : Bool)
    (own : Forgeable attrs isStatic) (passed : Forgeable other isStatic) :
    Forgeable (attrs.extend other) isStatic := by
  rintro ⟨static, present⟩
  by_cases listed : "Unforgeable" ∈ other.keys
  · exact passed ⟨static, (Table.contains_iff other _).mpr listed⟩
  · rw [Table.contains, ExtAttrs.extend_other attrs other _ listed] at present
    exact own ⟨static, present⟩

namespace Stringifier

theorem gathered_sound (parts : Parts) (gathered : Gathered parts) : parts.stringifier.Sound where
  attributeMember item member := by
    obtain ⟨⟨child, read⟩, _⟩ := gathered.attributeMember item member
    exact Attribute.of_node_sound child item read
  operationMember operation member := by
    obtain ⟨⟨child, read⟩, _⟩ := gathered.operationMember operation member
    exact Operation.of_node_sound child operation read

theorem pass_on_sound (parts : Parts) (gathered : Gathered parts)
    (forgeable : Forgeable parts.stringifier.attrs parts.isStatic) :
    parts.stringifier.passOn.Sound := by
  have sound := gathered_sound parts gathered
  unfold passOn
  split
  · rename_i item holds
    obtain ⟨_, covered⟩ := gathered.attributeMember item holds
    have own := sound.attributeMember item holds
    refine ⟨?_, sound.operationMember⟩
    rintro _ ⟨⟩
    refine { own with forgeable := extend_forgeable _ _ _ own.forgeable ?_ }
    exact fun declared => forgeable ⟨covered declared.1, declared.2⟩
  · rename_i operation free holds
    obtain ⟨_, _, covered⟩ := gathered.operationMember operation holds
    have own := sound.operationMember operation holds
    refine ⟨sound.attributeMember, ?_⟩
    rintro _ ⟨⟩
    refine { own with forgeable := extend_forgeable _ _ _ own.forgeable ?_ }
    exact fun declared => forgeable ⟨covered declared.1, declared.2⟩
  · exact sound

theorem of_node_sound (node : Node) (stringifier : Stringifier)
    (read : ofNode node = .ok stringifier) : stringifier.Sound := by
  obtain ⟨parts, gathered, forgeable, rfl⟩ := of_node_passed_on node stringifier read
  exact pass_on_sound parts (gather_gathered _ parts node.children gathered (start_gathered node))
    forgeable

end Stringifier

theorem ConstructorDeclaration.of_node_sound (node : Node) (declaration : ConstructorDeclaration)
    (read : ofNode node = .ok declaration) : declaration.constructor.Sound := by
  obtain ⟨⟨arguments, attrs⟩, _, rest⟩ := (bind_ok_iff _ _ _).mp read
  cases arguments with
  | none => cases rest
  | some parent =>
      obtain ⟨arguments, found, rest⟩ := (bind_ok_iff _ _ _).mp rest
      obtain ⟨isCustom, _, done⟩ := (bind_ok_iff _ _ _).mp rest
      cases done
      exact Operation.of_constructor_sound _ arguments
        (Argument.of_parent_fit parent arguments found)

theorem Interface.Draft.named_constructors_sound (attrs named : ExtAttrs)
    (constructors : List Operation) (read : attrs.Each ExtAttrs.ReadAs)
    (split : namedConstructors attrs = .ok (constructors, named)) :
    ∀ constructor ∈ constructors, constructor.Sound := by
  cases named_constructors_splits attrs named constructors split with
  | unnamed => exact List.forall_mem_nil _
  | named name arguments pending =>
      obtain ⟨_, _, _, nodes, same, _, given⟩ := Table.each_get _ attrs read _ _ pending rfl
      cases same
      exact List.forall_mem_singleton.mpr (Operation.of_constructor_sound _ arguments
        (Argument.of_nodes_fit nodes arguments given))

theorem DictionaryMember.of_node_fits (node : Node) (member : DictionaryMember)
    (read : ofNode node = .ok member) : member.Fits := by
  obtain ⟨parts, _, rest⟩ := (bind_ok_iff _ _ _).mp read
  obtain ⟨type, _, rest⟩ := (bind_ok_iff _ _ _).mp rest
  obtain ⟨valueOnly, _, rest⟩ := (bind_ok_iff _ _ _).mp rest
  obtain ⟨numeric, constrained, done⟩ := (bind_ok_iff _ _ _).mp rest
  cases done
  exact NumericConstraints.of_attrs_fits type parts.attrs numeric constrained

namespace Dictionary

theorem gather_fit (dictionary final : Dictionary) (children : List Node)
    (read : gather dictionary children = .ok final)
    (fit : ∀ member ∈ dictionary.members, member.Fits) : ∀ member ∈ final.members, member.Fits := by
  induction children generalizing dictionary with
  | nil =>
      cases read
      exact fit
  | cons child rest ih =>
      rw [gather] at read
      split at read
      · exact ih _ read fit
      · obtain ⟨member, found, later⟩ := (bind_ok_iff _ _ _).mp read
        refine ih _ later (List.forall_mem_append.mpr ⟨fit, ?_⟩)
        exact List.forall_mem_singleton.mpr (DictionaryMember.of_node_fits child member found)
      · obtain ⟨attrs, _, later⟩ := (bind_ok_iff _ _ _).mp read
        exact ih _ later fit
      · cases read

theorem of_node_fit (node : Node) (dictionary : Dictionary) (read : ofNode node = .ok dictionary) :
    ∀ member ∈ dictionary.members, member.Fits := by
  obtain ⟨name, _, gathered⟩ := (bind_ok_iff _ _ _).mp read
  exact gather_fit _ dictionary node.children gathered (List.forall_mem_nil _)

end Dictionary

namespace Callback

theorem of_parts_fit (name : String) (type parent : Node) (attrs : Option Node)
    (callback : Callback) (read : ofParts name type parent attrs = .ok callback) :
    ∀ argument ∈ callback.arguments, argument.Fits := by
  obtain ⟨_, _, rest⟩ := (bind_ok_iff _ _ _).mp read
  obtain ⟨_, _, rest⟩ := (bind_ok_iff _ _ _).mp rest
  obtain ⟨arguments, found, rest⟩ := (bind_ok_iff _ _ _).mp rest
  cases attrs
  all_goals
    obtain ⟨_, _, done⟩ := (bind_ok_iff _ _ _).mp rest
    cases done
    exact Argument.of_parent_fit parent arguments found

theorem of_node_fit (node : Node) (callback : Callback) (read : ofNode node = .ok callback) :
    ∀ argument ∈ callback.arguments, argument.Fits := by
  obtain ⟨name, _, rest⟩ := (bind_ok_iff _ _ _).mp read
  split at rest
  · exact of_parts_fit name _ _ _ callback rest
  · exact of_parts_fit name _ _ _ callback rest
  · cases rest

end Callback

end WebIdl
