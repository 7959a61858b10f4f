import WebIdl.Proofs.NestedTypes

set_option autoImplicit false

namespace WebIdl

namespace IdlType

mutual
def unannotated : IdlType → IdlType
  | .primitive name unrestricted => .primitive name unrestricted
  | .stringLike name => .stringLike name
  | .any => .any
  | .typeref name => .typeref name
  | .nullable inner => .nullable (unannotated inner)
  | .sequence element => .sequence (unannotated element)
  | .frozenArray element => .frozenArray (unannotated element)
  | .union members => .union (unannotatedAll members)
  | .record key value => .record key (unannotated value)
  | .promise members => .promise (unannotatedAll members)
  | .annotated inner _ => unannotated inner
termination_by structural type => type
def unannotatedAll : List IdlType → List IdlType
  | [] => []
  | type :: rest => unannotated type :: unannotatedAll rest
termination_by structural types => types
end

structure Alike (type other : IdlType) : Prop where
  name : type.name = other.name
  isNullable : type.isNullable = other.isNullable
  isUnion : type.isUnion = other.isUnion
  isSequence : type.isSequence = other.isSequence
  isFrozenArray : type.isFrozenArray = other.isFrozenArray
  isRecord : type.isRecord = other.isRecord
  isPromise : type.isPromise = other.isPromise
  isInteger : type.isInteger = other.isInteger
  isFloating : type.isFloating = other.isFloating
  isNumeric : type.isNumeric = other.isNumeric
  isString : type.isString = other.isString
  mentions : ∀ target, type.mentions target = other.mentions target

theorem unannotated_all_eq (types : List IdlType) :
    unannotatedAll types = types.map unannotated := by
  induction types with
  | nil => rfl
  | cons type rest ih => rw [unannotatedAll, ih, List.map_cons]

theorem names_eq (types : List IdlType) : names types = types.map name := by
  induction types with
  | nil => rfl
  | cons type rest ih => rw [names, ih, List.map_cons]

theorem names_unannotated (types : List IdlType)
    (each : ∀ type ∈ types, type.unannotated.name = type.name) :
    names (unannotatedAll types) = names types := by
  rw [unannotated_all_eq, names_eq, names_eq, List.map_map]
  exact List.map_congr_left each

theorem unannotated_name (type : IdlType) : type.unannotated.name = type.name := by
  induction type using parts_induction with
  | step type ih =>
      cases type with
      | primitive | stringLike | any | typeref => rfl
      | nullable inner | sequence inner | frozenArray inner | record _ inner | annotated inner =>
          simp only [unannotated, name, ih inner (by simp [parts])]
      | union members | promise members =>
          simp only [unannotated, name, names_unannotated members ih]

theorem unannotated_is_nullable (type : IdlType) :
    type.unannotated.isNullable = type.isNullable := by
  induction type using parts_induction with
  | step type ih =>
      cases type with
      | annotated inner attrs => exact ih inner (by simp [parts])
      | _ => rfl

theorem unannotated_parts (type : IdlType) (bare : ∀ inner attrs, type ≠ .annotated inner attrs) :
    type.unannotated.parts = type.parts.map unannotated := by
  cases type with
  | union members | promise members => exact unannotated_all_eq members
  | annotated inner attrs => exact absurd rfl (bare inner attrs)
  | _ => rfl

theorem unannotated_base (type : IdlType) (bare : ∀ inner attrs, type ≠ .annotated inner attrs) :
    type.unannotated.base? = type.base? := by
  cases type with
  | annotated inner attrs => exact absurd rfl (bare inner attrs)
  | _ => rfl

theorem annotated_goes_by (inner : IdlType) (attrs : ExtAttrs) (target : String)
    (named : goesBy (.annotated inner attrs) target = true) : mentions target inner = true := by
  have name : inner.name = target := by simpa [goesBy, base?, IdlType.name] using named
  simp [mentions_eq, goesBy, name]

theorem bare_mentions (target : String) (type : IdlType)
    (bare : ∀ inner attrs, type ≠ .annotated inner attrs)
    (below : ∀ part ∈ type.parts, part.unannotated.mentions target = part.mentions target) :
    type.unannotated.mentions target = type.mentions target := by
  have same : goesBy type.unannotated target = goesBy type target := by
    rw [goesBy, goesBy, unannotated_name, unannotated_base type bare]
  have inside : type.unannotated.parts.any (mentions target) =
      type.parts.any (mentions target) := by
    rw [unannotated_parts type bare, List.any_map, Bool.eq_iff_iff, List.any_eq_true,
      List.any_eq_true]
    exact exists_congr fun part => and_congr_right fun listed => by
      rw [Function.comp_apply, below part listed]
  rw [mentions_eq, mentions_eq target type, same, inside]

theorem unannotated_mentions (target : String) (type : IdlType) :
    type.unannotated.mentions target = type.mentions target := by
  induction type using parts_induction with
  | step type ih =>
      cases type with
      | annotated inner attrs =>
          have below := ih inner (by simp [parts])
          rw [mentions_eq target (.annotated inner attrs), unannotated, below]
          cases named : goesBy (.annotated inner attrs) target with
          | true => simp [annotated_goes_by inner attrs target named]
          | false => simp [parts]
      | _ => exact bare_mentions target _ (by simp) ih

theorem nothing_annotated (type inner : IdlType) (attrs : ExtAttrs) :
    ¬ Within parts (.annotated inner attrs) type.unannotated := by
  induction type using parts_induction with
  | step type ih =>
      cases type with
      | annotated other _ => exact ih other (by simp [parts])
      | _ =>
          intro inside
          obtain same | ⟨part, listed, inside⟩ := (within_iff _ _ _).mp inside
          · cases same
          · rw [unannotated_parts _ (by simp)] at listed
            obtain ⟨origin, known, rfl⟩ := List.mem_map.mp listed
            exact ih origin known inside

theorem unannotated_alike (type : IdlType) :
    Alike type.unannotated type ∧
      ∀ inner attrs, ¬ Within parts (.annotated inner attrs) type.unannotated := by
  refine ⟨?_, fun inner attrs => nothing_annotated type inner attrs⟩
  induction type using parts_induction with
  | step type ih =>
      have name := unannotated_name type
      have isNullable := unannotated_is_nullable type
      have mentions := fun target => unannotated_mentions target type
      cases type with
      | nullable inner | annotated inner =>
          have below := ih inner (by simp [parts])
          exact ⟨name, isNullable, below.isUnion, below.isSequence, below.isFrozenArray,
            below.isRecord, below.isPromise, below.isInteger, below.isFloating, below.isNumeric,
            below.isString, mentions⟩
      | _ => exact ⟨name, isNullable, rfl, rfl, rfl, rfl, rfl, rfl, rfl, rfl, rfl, mentions⟩

end IdlType

end WebIdl
