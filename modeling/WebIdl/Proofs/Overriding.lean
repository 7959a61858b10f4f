import WebIdl.Proofs.Entries

set_option autoImplicit false

namespace WebIdl

namespace AttributeTable

def first? (table : AttributeTable) (name : String) : Option Attribute :=
  table.list.find? (·.name == name)

theorem get_push (table : AttributeTable) (item : Attribute) (name : String) :
    (table.push item).get? name = if item.name = name then some item else table.get? name := by
  rw [get_last, get_last, push_list, List.filter_append]
  by_cases same : item.name = name <;> simp [same]

theorem contains_is_some (table : AttributeTable) (name : String) :
    table.contains name = (table.get? name).isSome := by
  rw [Bool.eq_iff_iff, contains_iff_member, get_last, List.getLast?_isSome, ne_eq,
    List.filter_eq_nil_iff]
  simp

theorem first_is_last (table : AttributeTable) (name : String)
    (once : (table.list.filter (·.name == name)).length ≤ 1) :
    table.first? name = table.get? name := by
  rw [first?, get_last, ← List.head?_filter]
  cases named : table.list.filter (·.name == name) with
  | nil => rfl
  | cons item rest =>
      have alone : rest = [] := by simpa [named] using once
      rw [alone]
      rfl

-- An attribute that is adopted keeps out all later ones of its name, so the first one counts.
theorem get_adopt (table : AttributeTable) (items : List Attribute) (name : String) :
    (Interface.adopt table items).get? name =
      (table.get? name).or (items.find? (·.name == name)) := by
  unfold Interface.adopt
  induction items generalizing table with
  | nil => simp
  | cons item rest ih =>
      rw [List.foldl_cons]
      by_cases present : table.contains item.name = true
      · rw [if_pos present, ih table]
        by_cases same : item.name = name
        · rw [contains_is_some, same] at present
          obtain ⟨own, found⟩ := Option.isSome_iff_exists.mp present
          rw [found, Option.some_or, Option.some_or]
        · rw [List.find?_cons_of_neg (by simpa using same)]
      · rw [if_neg present, ih (table.push item), get_push]
        by_cases same : item.name = name
        · rw [contains_is_some, same, Option.not_isSome_iff_eq_none] at present
          rw [if_pos same, present, List.find?_cons_of_pos (by simpa using same), Option.none_or,
            Option.some_or]
        · rw [if_neg same, List.find?_cons_of_neg (by simpa using same)]

end AttributeTable

namespace Interface

-- What the interface declares answers as before. Else the first declaration of the parent answers,
-- and this is the one the parent answers with unless it declares the name again, in another way.
theorem inherited_answer_iff (interface parent : Interface) (name : String) :
    (interface.inherit parent).attributes.get? name =
        (interface.attributes.get? name).or (parent.attributes.first? name) ∧
      ((interface.inherit parent).attributes.get? name =
          (interface.attributes.get? name).or (parent.attributes.get? name) ↔
        interface.attributes.contains name = true ∨
          parent.attributes.first? name = parent.attributes.get? name) ∧
      ((parent.attributes.list.filter (·.name == name)).length ≤ 1 →
        parent.attributes.first? name = parent.attributes.get? name) := by
  have taken : (interface.inherit parent).attributes.get? name =
      (interface.attributes.get? name).or (parent.attributes.first? name) :=
    AttributeTable.get_adopt interface.attributes parent.attributes.list name
  refine ⟨taken, ?_, AttributeTable.first_is_last _ name⟩
  rw [taken, AttributeTable.contains_is_some]
  cases interface.attributes.get? name <;> simp

def redeclaredText : Node :=
  (((Node.leaf "Interface").named "Parent").withChildren
    [((Node.leaf "Attribute").named "x").withChild (Node.typeOf "StringType" "DOMString"),
      Node.longAttribute "z"]).asPartial

theorem own_answer_over_redeclared :
    ∃ child base fragment,
      ofNode (Node.interfaceOf "Child" ["x"]) = .ok child ∧
      ofNode (Node.interfaceOf "Parent" ["x"]) = .ok base ∧
      ofNode redeclaredText = .ok fragment ∧
      (child.inherit (base.merge fragment)).attributes.get? "x" = child.attributes.get? "x" ∧
      (child.inherit (base.merge fragment)).attributes.get? "z" =
        (base.merge fragment).attributes.get? "z" := by
  obtain ⟨child, childBuilt⟩ : ∃ child, ofNode (Node.interfaceOf "Child" ["x"]) = .ok child :=
    ⟨_, rfl⟩
  obtain ⟨base, baseBuilt⟩ : ∃ base, ofNode (Node.interfaceOf "Parent" ["x"]) = .ok base :=
    ⟨_, rfl⟩
  obtain ⟨fragment, fragmentBuilt⟩ : ∃ fragment, ofNode redeclaredText = .ok fragment := ⟨_, rfl⟩
  obtain ⟨_, own, _⟩ := inherited_answer_iff child (base.merge fragment) "x"
  obtain ⟨_, taken, once⟩ := inherited_answer_iff child (base.merge fragment) "z"
  cases childBuilt
  cases baseBuilt
  cases fragmentBuilt
  exact ⟨_, _, _, rfl, rfl, rfl, own.mpr (.inl rfl), taken.mpr (.inr (once (by decide)))⟩

theorem first_declaration_taken_over :
    ∃ child base fragment,
      ofNode (Node.interfaceOf "Child" []) = .ok child ∧
      ofNode (Node.interfaceOf "Parent" ["x"]) = .ok base ∧
      ofNode redeclaredText = .ok fragment ∧
      child.attributes.get? "x" = none ∧
      ((base.merge fragment).attributes.get? "x").map (·.type.text) = some "DOMString" ∧
      ((child.inherit (base.merge fragment)).attributes.get? "x").map (·.type.text) =
        some "long" :=
  ⟨_, _, _, rfl, rfl, rfl, rfl, rfl, rfl⟩

def hasAnonymous (interface : Interface) : Bool := interface.operations.any (·.name.isNone)

def unhidden (interface parent : Interface) : List Operation :=
  parent.operations.filter fun operation =>
    operation.name.all fun name => !interface.hasOperation name

theorem own_name_contains (interface : Interface) (operation : Operation) :
    (interface.operations.map (·.name)).contains operation.name =
      match operation.name with
      | some name => interface.hasOperation name
      | none => interface.hasAnonymous := by
  rw [Bool.eq_iff_iff, List.contains_iff_mem, List.mem_map]
  cases operation.name <;> simp [hasOperation, hasAnonymous]

-- A declared name hides the operations of that name and no others, but what has no name is hidden
-- by whatever has no name.
theorem inherited_operations_iff (interface parent : Interface) :
    (interface.inherit parent).operations = interface.operations ++
        (interface.unhidden parent).filter
          (fun operation => operation.name.isSome || !interface.hasAnonymous) ∧
      ((interface.inherit parent).operations =
          interface.operations ++ interface.unhidden parent ↔
        interface.hasAnonymous = false ∨ parent.hasAnonymous = false) := by
  have taken : (interface.inherit parent).operations = interface.operations ++
      (interface.unhidden parent).filter
        (fun operation => operation.name.isSome || !interface.hasAnonymous) := by
    rw [unhidden, List.filter_filter]
    refine congrArg (interface.operations ++ ·) (List.filter_congr fun operation _ => ?_)
    rw [own_name_contains]
    cases operation.name <;> simp
  refine ⟨taken, ?_⟩
  rw [taken, List.append_cancel_left_eq, List.filter_eq_self]
  constructor
  · intro kept
    refine (Bool.eq_false_or_eq_true interface.hasAnonymous).symm.imp_right fun anonymous => ?_
    refine List.any_eq_false.mpr fun operation listed => ?_
    cases named : operation.name with
    | some name => simp
    | none =>
        have free : operation ∈ interface.unhidden parent :=
          List.mem_filter.mpr ⟨listed, by rw [named]; rfl⟩
        simpa [named, anonymous] using kept operation free
  · rintro (bare | bare) operation free
    · rw [bare, Bool.not_false, Bool.or_true]
    · have named := List.any_eq_false.mp bare operation (List.mem_filter.mp free).1
      rw [Bool.or_eq_true]
      exact .inl (by simpa [Option.isSome_iff_ne_none] using named)

def specialOf (property : String) (type : Node) : Node :=
  ((Node.leaf "Operation").withProperty property (.flag true)).withChild
    ((Node.leaf "Arguments").withChild ((Node.leaf "Argument").withChild type))

theorem deleter_hidden_by_getter :
    ∃ child parent deleter,
      ofNode ((Node.interfaceOf "Child" []).withChild
        (specialOf "GETTER" (Node.typeOf "PrimitiveType" "unsigned long"))) = .ok child ∧
      ofNode ((Node.interfaceOf "Parent" []).withChildren
        [specialOf "DELETER" (Node.typeOf "StringType" "DOMString"),
          Node.operationOf "clear"]) = .ok parent ∧
      deleter ∈ parent.operations ∧ deleter.name = none ∧ deleter.specials = [.deleter] ∧
      (child.inherit parent).operations.map (fun operation =>
        (operation.name, operation.specials)) = [(none, [.getter]), (some "clear", [])] ∧
      deleter ∉ (child.inherit parent).operations := by
  refine ⟨_, _, _, rfl, rfl, .head _, rfl, rfl, rfl, fun listed => ?_⟩
  have special : [Special.deleter] ∈ [[.getter], []] :=
    List.mem_map_of_mem (f := (·.specials)) listed
  simp at special

end Interface

end WebIdl
