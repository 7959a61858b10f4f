import WebIdl.Attempt
import WebIdl.IdlType.OfNode

set_option autoImplicit false

namespace WebIdl

theorem Node.below_induction (holds : Node → Prop)
    (step : ∀ node : Node, (∀ child ∈ node.children, holds child) → holds node) :
    ∀ node, holds node
  | ⟨_, _, _, children⟩ => step _ fun child (_ : child ∈ children) =>
      Node.below_induction holds step child

theorem Node.required_name_iff (datum : Datum) (found : Option String) (name : String) :
    requiredName datum found = .ok name ↔ found = some name ∧ name ≠ "" := by
  cases found with
  | none => simp [requiredName]
  | some found =>
      by_cases empty : found = ""
      · simp [requiredName, empty]
      · have some : found.isEmpty = false := by simpa using empty
        simp only [requiredName, some]
        constructor
        · rintro ⟨⟩
          exact ⟨rfl, empty⟩
        · rintro ⟨⟨⟩, _⟩
          rfl

theorem Node.expect_kind_iff (kind : String) (place : Place) (found : String) (done : Unit) :
    expectKind kind place found = .ok done ↔ found = kind := by
  by_cases same : found = kind <;> simp [expectKind, same]

namespace IdlType

mutual
-- How a type is written. `allowed` are the kinds of the nodes that a union or a promise may hold.
inductive Written (allowed : String → Prop) : Node → IdlType → Prop
  | plain (kind : String) (name : Option String) (properties : Table PropertyValue) (inner : Node)
      (type : IdlType) (below : Inner allowed inner type) :
      Written allowed ⟨kind, name, properties, [inner]⟩
        (nullableIf (flagIn properties "NULLABLE") type)
  | annotated (kind : String) (name : Option String) (properties : Table PropertyValue)
      (inner attributes : Node) (type : IdlType) (attrs : ExtAttrs)
      (below : Inner allowed inner type) (noted : attributes.kind = "ExtAttributes")
      (read : ExtAttrs.ofNode attributes = .ok attrs) :
      Written allowed ⟨kind, name, properties, [inner, attributes]⟩
        (nullableIf (flagIn properties "NULLABLE") (.annotated type attrs))
inductive Inner (allowed : String → Prop) : Node → IdlType → Prop
  | primitive (name : String) (properties : Table PropertyValue) (children : List Node)
      (named : name ≠ "") :
      Inner allowed ⟨"PrimitiveType", some name, properties, children⟩
        (.primitive name (flagIn properties "UNRESTRICTED"))
  | stringLike (name : String) (properties : Table PropertyValue) (children : List Node)
      (named : name ≠ "") :
      Inner allowed ⟨"StringType", some name, properties, children⟩ (.stringLike name)
  | typeref (name : String) (properties : Table PropertyValue) (children : List Node)
      (named : name ≠ "") :
      Inner allowed ⟨"Typeref", some name, properties, children⟩ (.typeref name)
  | any (name : Option String) (properties : Table PropertyValue) (children : List Node) :
      Inner allowed ⟨"Any", name, properties, children⟩ .any
  | sequence (name : Option String) (properties : Table PropertyValue) (element : Node)
      (type : IdlType) (kind : element.kind = "Type") (below : Written allowed element type) :
      Inner allowed ⟨"Sequence", name, properties, [element]⟩
        (nullableIf (flagIn properties "NULLABLE") (.sequence type))
  | frozenArray (name : Option String) (properties : Table PropertyValue) (element : Node)
      (type : IdlType) (kind : element.kind = "Type") (below : Written allowed element type) :
      Inner allowed ⟨"FrozenArray", name, properties, [element]⟩
        (nullableIf (flagIn properties "NULLABLE") (.frozenArray type))
  | union (name : Option String) (properties : Table PropertyValue) (members : List Node)
      (types : List IdlType) (below : Members allowed members types) :
      Inner allowed ⟨"UnionType", name, properties, members⟩ (.union types)
  | promise (name : Option String) (properties : Table PropertyValue) (members : List Node)
      (types : List IdlType) (below : Members allowed members types) :
      Inner allowed ⟨"Promise", name, properties, members⟩ (.promise types)
  | record (name : Option String) (properties : Table PropertyValue) (key value : Node)
      (keyName : String) (type : IdlType) (keyKind : key.kind = "StringType")
      (keyNamed : key.name = some keyName ∧ keyName ≠ "") (kind : value.kind = "Type")
      (below : Written allowed value type) :
      Inner allowed ⟨"Record", name, properties, [key, value]⟩ (.record keyName type)
inductive Members (allowed : String → Prop) : List Node → List IdlType → Prop
  | nil : Members allowed [] []
  | cons (node : Node) (type : IdlType) (rest : List Node) (types : List IdlType)
      (kind : allowed node.kind) (first : Written allowed node type)
      (later : Members allowed rest types) : Members allowed (node :: rest) (type :: types)
end

def anyKind (_ : String) : Prop := True

section Reading

variable (children : List Node)
  (below : ∀ child ∈ children,
    (∀ type, IdlType.ofNode child = .ok type ↔ Written anyKind child type) ∧
      ∀ type, IdlType.ofInner child = .ok type ↔ Inner anyKind child type)

include below

theorem of_nodes_iff (types : List IdlType) :
    IdlType.ofNodes children = .ok types ↔ Members anyKind children types := by
  induction children generalizing types with
  | nil =>
      constructor
      · rintro ⟨⟩
        exact .nil
      · rintro ⟨⟩
        rfl
  | cons node rest ih =>
      obtain ⟨first, later⟩ := List.forall_mem_cons.mp below
      rw [IdlType.ofNodes, bind_ok_iff]
      simp only [bind_ok_iff, first.1, ih later]
      constructor
      · rintro ⟨type, written, types, others, ⟨⟩⟩
        exact .cons node type rest types trivial written others
      · rintro (_ | ⟨_, type, _, types, _, written, others⟩)
        exact ⟨type, written, types, others, rfl⟩

theorem of_element_iff (kind : String) (type : IdlType) :
    IdlType.ofElement kind children = .ok type ↔
      ∃ element, children = [element] ∧ element.kind = "Type" ∧ Written anyKind element type := by
  match children, below with
  | [element], below =>
      have each := (below element List.mem_cons_self).1
      simp [IdlType.ofElement, bind_ok_iff, Node.expect_kind_iff, each]
  | [], _ => simp [IdlType.ofElement]
  | _ :: _ :: _, _ => simp [IdlType.ofElement]

theorem of_record_iff (type : IdlType) :
    IdlType.ofRecord children = .ok type ↔
      ∃ key value name inner, children = [key, value] ∧ key.kind = "StringType" ∧
        (key.name = some name ∧ name ≠ "") ∧ value.kind = "Type" ∧
        Written anyKind value inner ∧ type = .record name inner := by
  match children, below with
  | [key, value], below =>
      have each := (below value (by simp)).1
      simp only [IdlType.ofRecord, bind_ok_iff, Node.expect_kind_iff, Node.required_name_iff, each]
      constructor
      · rintro ⟨_, keyKind, _, kind, name, named, inner, written, ⟨⟩⟩
        exact ⟨key, value, name, inner, rfl, keyKind, named, kind, written, rfl⟩
      · rintro ⟨_, _, name, inner, ⟨⟩, keyKind, named, kind, written, rfl⟩
        exact ⟨(), keyKind, (), kind, name, named, inner, written, rfl⟩
  | [], _ => simp [IdlType.ofRecord]
  | [_], _ => simp [IdlType.ofRecord]
  | _ :: _ :: _ :: _, _ => simp [IdlType.ofRecord]

theorem of_parts_iff (name : Option String) (kind : String) (properties : Table PropertyValue)
    (type : IdlType) :
    IdlType.ofNode ⟨kind, name, properties, children⟩ = .ok type ↔
      Written anyKind ⟨kind, name, properties, children⟩ type := by
  rw [IdlType.ofNode, map_ok_iff]
  constructor
  · rintro ⟨bare, read, rfl⟩
    match children, below, read with
    | [inner], below, read =>
        exact .plain _ _ _ _ _ (((below inner (by simp)).2 bare).mp read)
    | [inner, attributes], below, read =>
        simp only [IdlType.ofParts, bind_ok_iff, Node.expect_kind_iff] at read
        obtain ⟨type, first, _, noted, attrs, accepted, ⟨⟩⟩ := read
        exact .annotated _ _ _ _ _ _ _ (((below inner (by simp)).2 type).mp first) noted accepted
    | [], _, read => simp [IdlType.ofParts] at read
    | _ :: _ :: _ :: _, _, read => simp [IdlType.ofParts] at read
  · rintro (⟨_, _, _, inner, bare, written⟩ |
      ⟨_, _, _, inner, attributes, bare, attrs, written, noted, accepted⟩)
    · exact ⟨bare, ((below inner (by simp)).2 bare).mpr written, rfl⟩
    · refine ⟨_, ?_, rfl⟩
      have read := ((below inner (by simp)).2 bare).mpr written
      simp only [IdlType.ofParts, bind_ok_iff, Node.expect_kind_iff]
      exact ⟨bare, read, (), noted, attrs, accepted, rfl⟩

theorem of_inner_parts_iff (kind : String) (name : Option String)
    (properties : Table PropertyValue) (type : IdlType) :
    IdlType.ofInner ⟨kind, name, properties, children⟩ = .ok type ↔
      Inner anyKind ⟨kind, name, properties, children⟩ type := by
  constructor
  · intro read
    simp only [IdlType.ofInner] at read
    split at read
    · obtain ⟨name, required, ⟨⟩⟩ := (bind_ok_iff _ _ _).mp read
      obtain ⟨rfl, named⟩ := (Node.required_name_iff _ _ _).mp required
      exact .primitive _ _ _ named
    · obtain ⟨name, required, rfl⟩ := (map_ok_iff _ _ _).mp read
      obtain ⟨rfl, named⟩ := (Node.required_name_iff _ _ _).mp required
      exact .stringLike _ _ _ named
    · obtain ⟨name, required, rfl⟩ := (map_ok_iff _ _ _).mp read
      obtain ⟨rfl, named⟩ := (Node.required_name_iff _ _ _).mp required
      exact .typeref _ _ _ named
    · cases read
      exact .any _ _ _
    · obtain ⟨inner, element, ⟨⟩⟩ := (bind_ok_iff _ _ _).mp read
      obtain ⟨element, rfl, kind, written⟩ := (of_element_iff children below _ _).mp element
      exact .sequence _ _ _ _ kind written
    · obtain ⟨inner, element, ⟨⟩⟩ := (bind_ok_iff _ _ _).mp read
      obtain ⟨element, rfl, kind, written⟩ := (of_element_iff children below _ _).mp element
      exact .frozenArray _ _ _ _ kind written
    · obtain ⟨types, members, rfl⟩ := (map_ok_iff _ _ _).mp read
      exact .union _ _ _ _ ((of_nodes_iff children below _).mp members)
    · obtain ⟨types, members, rfl⟩ := (map_ok_iff _ _ _).mp read
      exact .promise _ _ _ _ ((of_nodes_iff children below _).mp members)
    · obtain ⟨key, value, keyName, inner, rfl, keyKind, keyNamed, kind, written, rfl⟩ :=
        (of_record_iff children below _).mp read
      exact .record _ _ _ _ _ _ keyKind keyNamed kind written
    · cases read
  · intro written
    cases written with
    | primitive name _ _ named =>
        have required := (Node.required_name_iff .typeName _ name).mpr ⟨rfl, named⟩
        simp only [IdlType.ofInner, required]
        rfl
    | stringLike name _ _ named =>
        simp [IdlType.ofInner, map_ok_iff, Node.required_name_iff, named]
    | typeref name _ _ named =>
        simp [IdlType.ofInner, map_ok_iff, Node.required_name_iff, named]
    | any => rfl
    | sequence _ _ element type kind written =>
        have read := (of_element_iff _ below "Sequence" type).mpr ⟨element, rfl, kind, written⟩
        simp only [IdlType.ofInner, read]
        rfl
    | frozenArray _ _ element type kind written =>
        have read := (of_element_iff _ below "FrozenArray" type).mpr ⟨element, rfl, kind, written⟩
        simp only [IdlType.ofInner, read]
        rfl
    | union _ _ _ types members =>
        simp only [IdlType.ofInner, (of_nodes_iff _ below types).mpr members]
        rfl
    | promise _ _ _ types members =>
        simp only [IdlType.ofInner, (of_nodes_iff _ below types).mpr members]
        rfl
    | record _ _ key value keyName type keyKind keyNamed kind written =>
        simp only [IdlType.ofInner]
        exact (of_record_iff _ below _).mpr
          ⟨key, value, keyName, type, rfl, keyKind, keyNamed, kind, written, rfl⟩

end Reading

theorem read_iff (node : Node) :
    (∀ type, IdlType.ofNode node = .ok type ↔ Written anyKind node type) ∧
      ∀ type, IdlType.ofInner node = .ok type ↔ Inner anyKind node type := by
  induction node using Node.below_induction with
  | step node below =>
      obtain ⟨kind, name, properties, children⟩ := node
      exact ⟨of_parts_iff children below name kind properties,
        of_inner_parts_iff children below kind name properties⟩

end IdlType

def Node.alternatives (node : Node) : List Node :=
  if node.kind = "UnionType" ∨ node.kind = "Promise" then node.children else []

def Node.nested (node : Node) : List Node :=
  if node.kind = "Record" then node.children.drop 1
  else if node.kind = "Sequence" ∨ node.kind = "FrozenArray" then node.children
  else node.alternatives

inductive Node.HasMember : Node → Node → Prop
  | here (node inner member : Node) (first : node.children.head? = some inner)
      (held : member ∈ inner.alternatives) : HasMember node member
  | deeper (node inner type member : Node) (first : node.children.head? = some inner)
      (inside : type ∈ inner.nested) (there : HasMember type member) : HasMember node member

def Node.Regular (node : Node) : Prop :=
  ∀ member, node.HasMember member → member.kind = "Type"

theorem Node.regular_iff (node inner : Node) (first : node.children.head? = some inner) :
    node.Regular ↔
      (∀ member ∈ inner.alternatives, member.kind = "Type") ∧
        ∀ type ∈ inner.nested, type.Regular := by
  constructor
  · intro regular
    exact ⟨fun member held => regular member (.here node inner member first held),
      fun type inside member there =>
        regular member (.deeper node inner type member first inside there)⟩
  · rintro ⟨kinds, regulars⟩ member
      (⟨_, _, _, again, held⟩ | ⟨_, _, type, _, again, inside, there⟩)
    · cases first.symm.trans again
      exact kinds member held
    · cases first.symm.trans again
      exact regulars type inside member there

namespace IdlType

section Members

variable (children : List Node)
  (below : ∀ child ∈ children,
    (∀ type, Written (· = "Type") child type ↔ Written anyKind child type ∧ child.Regular) ∧
      ∀ type, Inner (· = "Type") child type ↔ Inner anyKind child type ∧
        (∀ member ∈ child.alternatives, member.kind = "Type") ∧ ∀ type ∈ child.nested, type.Regular)

include below

theorem members_iff (types : List IdlType) :
    Members (· = "Type") children types ↔
      Members anyKind children types ∧
        (∀ child ∈ children, child.kind = "Type") ∧ ∀ child ∈ children, child.Regular := by
  induction children generalizing types with
  | nil =>
      constructor
      · rintro ⟨⟩
        exact ⟨.nil, by simp, by simp⟩
      · rintro ⟨⟨⟩, _⟩
        exact .nil
  | cons node rest ih =>
      obtain ⟨first, later⟩ := List.forall_mem_cons.mp below
      simp only [List.forall_mem_cons]
      constructor
      · rintro (_ | ⟨_, type, _, types, kind, written, others⟩)
        obtain ⟨written, regular⟩ := (first.1 type).mp written
        obtain ⟨others, kinds, regulars⟩ := (ih later types).mp others
        exact ⟨.cons node type rest types trivial written others, ⟨kind, kinds⟩, regular, regulars⟩
      · rintro ⟨_ | ⟨_, type, _, types, _, written, others⟩, ⟨kind, kinds⟩, regular, regulars⟩
        exact .cons node type rest types kind ((first.1 type).mpr ⟨written, regular⟩)
          ((ih later types).mpr ⟨others, kinds, regulars⟩)

theorem regular_parts_iff (kind : String) (name : Option String)
    (properties : Table PropertyValue) (type : IdlType) :
    Written (· = "Type") ⟨kind, name, properties, children⟩ type ↔
      Written anyKind ⟨kind, name, properties, children⟩ type ∧
        Node.Regular ⟨kind, name, properties, children⟩ := by
  constructor
  · rintro (⟨_, _, _, inner, bare, written⟩ |
      ⟨_, _, _, inner, attributes, bare, attrs, written, noted, accepted⟩)
    all_goals
      obtain ⟨written, regular⟩ := ((below inner (by simp)).2 bare).mp written
    · exact ⟨.plain _ _ _ _ _ written, (Node.regular_iff _ inner rfl).mpr regular⟩
    · exact ⟨.annotated _ _ _ _ _ _ _ written noted accepted,
        (Node.regular_iff _ inner rfl).mpr regular⟩
  · rintro ⟨⟨_, _, _, inner, bare, written⟩ |
      ⟨_, _, _, inner, attributes, bare, attrs, written, noted, accepted⟩, regular⟩
    all_goals
      have regular := (Node.regular_iff _ inner rfl).mp regular
      have written := ((below inner (by simp)).2 bare).mpr ⟨written, regular⟩
    · exact .plain _ _ _ _ _ written
    · exact .annotated _ _ _ _ _ _ _ written noted accepted

theorem regular_inner_iff (kind : String) (name : Option String)
    (properties : Table PropertyValue) (type : IdlType) :
    Inner (· = "Type") ⟨kind, name, properties, children⟩ type ↔
      Inner anyKind ⟨kind, name, properties, children⟩ type ∧
        (∀ member ∈ Node.alternatives ⟨kind, name, properties, children⟩, member.kind = "Type") ∧
          ∀ type ∈ Node.nested ⟨kind, name, properties, children⟩, type.Regular := by
  constructor
  · intro written
    cases written with
    | primitive name _ _ named =>
        refine ⟨.primitive name _ _ named, ?_⟩
        simp [Node.alternatives, Node.nested]
    | stringLike name _ _ named =>
        refine ⟨.stringLike name _ _ named, ?_⟩
        simp [Node.alternatives, Node.nested]
    | typeref name _ _ named =>
        refine ⟨.typeref name _ _ named, ?_⟩
        simp [Node.alternatives, Node.nested]
    | any =>
        refine ⟨.any _ _ _, ?_⟩
        simp [Node.alternatives, Node.nested]
    | sequence _ _ element type kind written =>
        obtain ⟨written, regular⟩ := ((below element (by simp)).1 type).mp written
        refine ⟨.sequence _ _ _ _ kind written, ?_⟩
        simpa [Node.alternatives, Node.nested] using regular
    | frozenArray _ _ element type kind written =>
        obtain ⟨written, regular⟩ := ((below element (by simp)).1 type).mp written
        refine ⟨.frozenArray _ _ _ _ kind written, ?_⟩
        simpa [Node.alternatives, Node.nested] using regular
    | union _ _ _ types members =>
        obtain ⟨members, kinds, regulars⟩ := (members_iff _ below types).mp members
        refine ⟨.union _ _ _ _ members, ?_⟩
        simpa [Node.alternatives, Node.nested] using And.intro kinds regulars
    | promise _ _ _ types members =>
        obtain ⟨members, kinds, regulars⟩ := (members_iff _ below types).mp members
        refine ⟨.promise _ _ _ _ members, ?_⟩
        simpa [Node.alternatives, Node.nested] using And.intro kinds regulars
    | record _ _ key value keyName type keyKind keyNamed kind written =>
        obtain ⟨written, regular⟩ := ((below value (by simp)).1 type).mp written
        refine ⟨.record _ _ _ _ _ _ keyKind keyNamed kind written, ?_⟩
        simpa [Node.alternatives, Node.nested] using regular
  · rintro ⟨written, kinds, regulars⟩
    cases written with
    | primitive name _ _ named => exact .primitive name _ _ named
    | stringLike name _ _ named => exact .stringLike name _ _ named
    | typeref name _ _ named => exact .typeref name _ _ named
    | any => exact .any _ _ _
    | sequence _ _ element type kind written =>
        have regular : element.Regular := by simpa [Node.nested] using regulars
        exact .sequence _ _ _ _ kind (((below element (by simp)).1 type).mpr ⟨written, regular⟩)
    | frozenArray _ _ element type kind written =>
        have regular : element.Regular := by simpa [Node.nested] using regulars
        exact .frozenArray _ _ _ _ kind (((below element (by simp)).1 type).mpr ⟨written, regular⟩)
    | union _ _ _ types members =>
        have kinds : ∀ member ∈ children, member.kind = "Type" := by
          simpa [Node.alternatives] using kinds
        have regulars : ∀ type ∈ children, type.Regular := by
          simpa [Node.nested, Node.alternatives] using regulars
        exact .union _ _ _ _ ((members_iff _ below types).mpr ⟨members, kinds, regulars⟩)
    | promise _ _ _ types members =>
        have kinds : ∀ member ∈ children, member.kind = "Type" := by
          simpa [Node.alternatives] using kinds
        have regulars : ∀ type ∈ children, type.Regular := by
          simpa [Node.nested, Node.alternatives] using regulars
        exact .promise _ _ _ _ ((members_iff _ below types).mpr ⟨members, kinds, regulars⟩)
    | record _ _ key value keyName type keyKind keyNamed kind written =>
        have regular : value.Regular := by simpa [Node.nested] using regulars
        exact .record _ _ _ _ _ _ keyKind keyNamed kind
          (((below value (by simp)).1 type).mpr ⟨written, regular⟩)

end Members

theorem regular_written_iff (node : Node) :
    (∀ type, Written (· = "Type") node type ↔ Written anyKind node type ∧ node.Regular) ∧
      ∀ type, Inner (· = "Type") node type ↔ Inner anyKind node type ∧
        (∀ member ∈ node.alternatives, member.kind = "Type") ∧
          ∀ type ∈ node.nested, type.Regular := by
  induction node using Node.below_induction with
  | step node below =>
      obtain ⟨kind, name, properties, children⟩ := node
      exact ⟨regular_parts_iff children below kind name properties,
        regular_inner_iff children below kind name properties⟩

-- What is read as a type is what is written as one, but for the kinds of the members of unions and
-- promises.
theorem of_node_iff_written (node : Node) :
    (∀ type, IdlType.ofNode node = .ok type ↔ Written anyKind node type) ∧
      ((∃ type, Written (· = "Type") node type) ↔
        (∃ type, IdlType.ofNode node = .ok type) ∧
          ∀ member, node.HasMember member → member.kind = "Type") := by
  refine ⟨(read_iff node).1, ?_⟩
  simp only [(regular_written_iff node).1, (read_iff node).1, exists_and_right]
  rfl

def memberOfNoType : Node :=
  (Node.leaf "Type").withChild ((Node.leaf "UnionType").withChild
    ((Node.leaf "Mystery").withChild ((Node.leaf "PrimitiveType").named "long")))

theorem member_of_no_type_read :
    IdlType.ofNode memberOfNoType = .ok (.union [.primitive "long" false]) ∧
      ¬ ∃ type, Written (· = "Type") memberOfNoType type := by
  refine ⟨rfl, ?_⟩
  rintro ⟨type, written⟩
  have regular := ((regular_written_iff memberOfNoType).1 type |>.mp written).2
  have held := ((Node.regular_iff memberOfNoType _ rfl).mp regular).1
  exact absurd (held _ (.head _)) (by decide)

end IdlType

end WebIdl
