import Mathlib.Data.List.Nodup
import WebIdl.Proofs.PendingCalls

set_option autoImplicit false

namespace WebIdl

def Node.lastOf (kind : String) (children : List Node) : Option Node :=
  (children.filter (·.kind == kind)).getLast?

def Node.lastAttrs (children : List Node) : Except IdlError ExtAttrs :=
  match (children.filter (·.kind == "ExtAttributes")).getLast? with
  | none => .ok .empty
  | some child => ExtAttrs.ofNode child

theorem Node.last_of_append_one (kind : String) (front : List Node) (child : Node) :
    lastOf kind (front ++ [child]) = if child.kind = kind then some child else lastOf kind front := by
  unfold lastOf
  rw [List.filter_append, List.filter_cons]
  by_cases same : child.kind = kind
  · rw [if_pos (beq_iff_eq.mpr same), if_pos same, List.filter_nil, List.getLast?_append]
    rfl
  · rw [if_neg (by rwa [beq_iff_eq]), if_neg same, List.filter_nil, List.append_nil]

theorem Node.last_attrs_append_one (front : List Node) (child : Node) :
    lastAttrs (front ++ [child]) =
      if child.kind = "ExtAttributes" then ExtAttrs.ofNode child else lastAttrs front := by
  unfold lastAttrs
  rw [← lastOf, ← lastOf, last_of_append_one]
  by_cases kind : child.kind = "ExtAttributes"
  · rw [if_pos kind, if_pos kind]
  · rw [if_neg kind, if_neg kind]

theorem Node.last_attrs_read (children : List Node) (attrs : ExtAttrs)
    (read : lastAttrs children = .ok attrs) :
    attrs = .empty ∨ ∃ node, ExtAttrs.ofNode node = .ok attrs := by
  unfold lastAttrs at read
  split at read
  · cases read
    exact .inl rfl
  · exact .inr ⟨_, read⟩

theorem Node.last_attrs_calls (children : List Node) (attrs : ExtAttrs)
    (read : lastAttrs children = .ok attrs) : attrs.CallsNamed := by
  rcases last_attrs_read children attrs read with rfl | ⟨node, found⟩
  · exact fun entry member => nomatch member
  · exact ExtAttrs.of_node_calls node attrs found

namespace ConstructorDeclaration

-- A constructor operation as it is written. `[Custom]` says what it is called and is no attribute
-- of it any more.
structure Written (declaration : ConstructorDeclaration) (node : Node) : Prop where
  made : ∃ parent arguments, Node.lastOf "Arguments" node.children = some parent ∧
    Argument.ofParent parent = .ok arguments ∧
    declaration.constructor = Operation.ofConstructor
      (if declaration.isCustom then "CustomConstructor" else "Constructor") arguments
  attributed : ∃ attrs, Node.lastAttrs node.children = .ok attrs ∧
    declaration.attrs = attrs.erase "Custom" ∧ declaration.isCustom = attrs.contains "Custom"

theorem gather_last (front children : List Node) (arguments : Option Node) (attrs : ExtAttrs)
    (parts : Option Node × ExtAttrs) (read : gather arguments attrs children = .ok parts)
    (given : Node.lastOf "Arguments" front = arguments) (attributed : Node.lastAttrs front = .ok attrs) :
    Node.lastOf "Arguments" (front ++ children) = parts.1 ∧
      Node.lastAttrs (front ++ children) = .ok parts.2 := by
  induction children generalizing front arguments attrs with
  | nil =>
      cases read
      rw [List.append_nil]
      exact ⟨given, attributed⟩
  | cons child rest ih =>
      rw [List.append_cons]
      rw [gather] at read
      split at read
      · rename_i kind
        refine ih (front ++ [child]) (some child) attrs read ?_ ?_
        · rw [Node.last_of_append_one, if_pos kind]
        · rw [Node.last_attrs_append_one, if_neg (by simp [kind]), attributed]
      · rename_i kind
        obtain ⟨fresh, found, later⟩ := (bind_ok_iff _ _ _).mp read
        refine ih (front ++ [child]) arguments fresh later ?_ ?_
        · rw [Node.last_of_append_one, if_neg (by simp [kind]), given]
        · rw [Node.last_attrs_append_one, if_pos kind, found]
      · cases read

theorem custom_of_ok (attrs : ExtAttrs) (isCustom : Bool) (found : customOf attrs = .ok isCustom) :
    isCustom = attrs.contains "Custom" := by
  unfold customOf at found
  rw [Table.contains]
  split at found
  · rename_i absent
    cases found
    rw [absent, Option.isSome_none]
  · rename_i value present
    split at found
    · cases found
    · cases found
      rw [present, Option.isSome_some]

theorem of_node_written (node : Node) (declaration : ConstructorDeclaration)
    (read : ofNode node = .ok declaration) : declaration.Written node := by
  obtain ⟨⟨arguments, attrs⟩, gathered, rest⟩ := (bind_ok_iff _ _ _).mp read
  obtain ⟨given, attributed⟩ := gather_last [] node.children none .empty _ gathered rfl rfl
  cases arguments with
  | none => cases rest
  | some parent =>
      obtain ⟨arguments, listed, rest⟩ := (bind_ok_iff _ _ _).mp rest
      obtain ⟨isCustom, custom, done⟩ := (bind_ok_iff _ _ _).mp rest
      cases done
      exact ⟨⟨parent, arguments, given, listed, rfl⟩,
        ⟨attrs, attributed, rfl, custom_of_ok attrs isCustom custom⟩⟩

section Written

variable (node : Node) (declaration : ConstructorDeclaration) (written : declaration.Written node)

include written

theorem written_name :
    declaration.constructor.name =
      some (if declaration.isCustom then "CustomConstructor" else "Constructor") := by
  obtain ⟨_, _, _, _, made⟩ := written.made
  rw [made]
  rfl

theorem written_unowned : declaration.constructor.definedIn = none := by
  obtain ⟨_, _, _, _, made⟩ := written.made
  rw [made]
  rfl

theorem written_calls : declaration.attrs.CallsNamed := by
  obtain ⟨attrs, attributed, erased, _⟩ := written.attributed
  intro entry member
  rw [erased, Table.erase_entries] at member
  exact Node.last_attrs_calls node.children attrs attributed entry
    (Table.mem_drop attrs.entries "Custom" entry member)

end Written

def metadataNames : List String := ["CallWith", "RaisesException", "MeasureAs", "Measure"]

def liftedName : String → String
  | "CallWith" => "ConstructorCallWith"
  | name => name

def liftedValue (name : String) (value : ExtAttrValue) : ExtAttrValue :=
  match name with
  | "RaisesException" => .text "Constructor"
  | "Measure" => .valueless
  | _ => value

def lifted (entry : String × ExtAttrValue) : String × ExtAttrValue :=
  (liftedName entry.1, liftedValue entry.1 entry.2)

structure Liftable (name : String) (value : ExtAttrValue) : Prop where
  known : name ∈ metadataNames
  unvalued : name = "RaisesException" → value.isSet = false

theorem lifted_name_inj :
    ∀ one ∈ metadataNames, ∀ other ∈ metadataNames, liftedName one = liftedName other →
      one = other := by
  decide

theorem convert_iff (name : String) (value : ExtAttrValue) (converted : String × ExtAttrValue) :
    convert name value = .ok converted ↔ Liftable name value ∧ converted = lifted (name, value) := by
  constructor
  · intro done
    unfold convert at done
    split at done
    · cases done
      exact ⟨⟨by decide, fun same => absurd same (by decide)⟩, rfl⟩
    · split at done
      · cases done
      · rename_i unset
        cases done
        exact ⟨⟨by decide, fun _ => by simpa using unset⟩, rfl⟩
    · cases done
      exact ⟨⟨by decide, fun same => absurd same (by decide)⟩, rfl⟩
    · cases done
      exact ⟨⟨by decide, fun same => absurd same (by decide)⟩, rfl⟩
    · cases done
  · rintro ⟨⟨known, unvalued⟩, rfl⟩
    simp only [metadataNames, List.mem_cons, List.not_mem_nil, or_false] at known
    rcases known with rfl | rfl | rfl | rfl
    · rfl
    · simp only [convert, unvalued rfl]
      rfl
    · rfl
    · rfl

theorem convert_into_iff (attrs final : ExtAttrs) (entries : List (String × ExtAttrValue)) :
    convertInto attrs entries = .ok final ↔
      (∀ entry ∈ entries, Liftable entry.1 entry.2) ∧ final = attrs.insertAll (entries.map lifted) := by
  induction entries generalizing attrs with
  | nil =>
      rw [convertInto, Except.ok.injEq, eq_comm]
      exact ⟨fun same => ⟨List.forall_mem_nil _, same⟩, fun both => both.2⟩
  | cons entry rest ih =>
      simp only [convertInto, bind_ok_iff, convert_iff, ih, List.forall_mem_cons]
      constructor
      · rintro ⟨_, ⟨first, rfl⟩, later, rfl⟩
        exact ⟨⟨first, later⟩, rfl⟩
      · rintro ⟨⟨first, later⟩, rfl⟩
        exact ⟨_, ⟨first, rfl⟩, later, rfl⟩

theorem lifted_names (attrs : ExtAttrs) :
    (attrs.entries.map lifted).map (·.1) = attrs.keys.map liftedName := by
  simp [Table.keys_eq, lifted]

-- No two attributes are told of the interface under one name, so nothing gets lost on the way.
theorem lifted_distinct (attrs : ExtAttrs)
    (liftable : ∀ entry ∈ attrs.entries, Liftable entry.1 entry.2) :
    ((attrs.entries.map lifted).map (·.1)).Nodup := by
  rw [lifted_names]
  refine List.Nodup.map_on ?_ attrs.keyed
  intro one first other second
  obtain ⟨_, member, rfl⟩ := (Table.mem_keys_iff _ _).mp first
  obtain ⟨_, listed, rfl⟩ := (Table.mem_keys_iff _ _).mp second
  exact lifted_name_inj _ (liftable _ member).known _ (liftable _ listed).known

theorem convert_all_iff (attrs converted : ExtAttrs) :
    convertAll attrs = .ok converted ↔
      (∀ entry ∈ attrs.entries, Liftable entry.1 entry.2) ∧
        converted.entries = attrs.entries.map lifted := by
  rw [convertAll, convert_into_iff]
  refine and_congr_right fun liftable => ?_
  rw [Table.ext_iff, Table.insert_all_fresh .empty _ (lifted_distinct attrs liftable)]
  rfl

end ConstructorDeclaration

end WebIdl
