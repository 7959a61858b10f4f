import WebIdl.Member.Basic

set_option autoImplicit false

namespace WebIdl

namespace IdlType

def parts : IdlType → List IdlType
  | .nullable inner => [inner]
  | .sequence element => [element]
  | .frozenArray element => [element]
  | .union members => members
  | .record _ value => [value]
  | .promise members => members
  | .annotated inner _ => [inner]
  | _ => []

-- All types that a type is made of; the key of a record stands for a string type.
def components : IdlType → List IdlType
  | .record key value => [.stringLike key, value]
  | type => type.parts

inductive Within (below : IdlType → List IdlType) (inner : IdlType) : IdlType → Prop
  | here : Within below inner inner
  | deeper (type part : IdlType) (listed : part ∈ below type) (inside : Within below inner part) :
      Within below inner type

def Named (target : String) (type : IdlType) : Prop :=
  type.name = target ∨ type.base? = some target

def Occurs (target : String) (type : IdlType) : Prop :=
  ∃ inner, Within components inner type ∧ Named target inner

def OccursOutsideKeys (target : String) (type : IdlType) : Prop :=
  ∃ inner, Within parts inner type ∧ Named target inner

def OccursAsKey (target : String) (type : IdlType) : Prop :=
  ∃ key value, Within parts (.record key value) type ∧ Named target (.stringLike key)

theorem part_smaller (part type : IdlType) (listed : part ∈ type.parts) :
    sizeOf part < sizeOf type := by
  cases type with
  | union members | promise members =>
      have smaller := List.sizeOf_lt_of_mem (show part ∈ members from listed)
      simp only [union.sizeOf_spec, promise.sizeOf_spec]
      omega
  | nullable inner | sequence inner | frozenArray inner | record _ inner | annotated inner =>
      obtain rfl := List.mem_singleton.mp listed
      simp +arith
  | primitive | stringLike | any | typeref => cases listed

theorem parts_induction (holds : IdlType → Prop)
    (step : ∀ type : IdlType, (∀ part ∈ type.parts, holds part) → holds type) (type : IdlType) :
    holds type :=
  step type fun part _ => parts_induction holds step part
termination_by sizeOf type
decreasing_by exact part_smaller part type ‹_›

theorem mentions_any_eq (target : String) (types : List IdlType) :
    mentionsAny target types = types.any (mentions target) := by
  induction types with
  | nil => rfl
  | cons type rest ih => rw [mentionsAny, ih, List.any_cons]

theorem mentions_eq (target : String) (type : IdlType) :
    mentions target type = (goesBy type target || type.parts.any (mentions target)) := by
  cases type <;> simp [mentions, parts, mentions_any_eq]

theorem goes_by_iff (type : IdlType) (target : String) :
    goesBy type target = true ↔ Named target type := by
  simp [goesBy, Named]

theorem within_iff (below : IdlType → List IdlType) (inner type : IdlType) :
    Within below inner type ↔ inner = type ∨ ∃ part ∈ below type, Within below inner part := by
  constructor
  · rintro (_ | ⟨_, part, listed, inside⟩)
    · exact .inl rfl
    · exact .inr ⟨part, listed, inside⟩
  · rintro (rfl | ⟨part, listed, inside⟩)
    · exact .here
    · exact .deeper type part listed inside

theorem within_trans (below : IdlType → List IdlType) (inner middle outer : IdlType)
    (first : Within below inner middle) (second : Within below middle outer) :
    Within below inner outer := by
  induction second with
  | here => exact first
  | deeper type part listed _ ih => exact .deeper type part listed ih

theorem mentions_iff (target : String) (type : IdlType) :
    mentions target type = true ↔ OccursOutsideKeys target type := by
  induction type using parts_induction with
  | step type ih =>
      rw [mentions_eq, Bool.or_eq_true, List.any_eq_true, goes_by_iff]
      constructor
      · rintro (named | ⟨part, listed, found⟩)
        · exact ⟨type, .here, named⟩
        · obtain ⟨inner, inside, named⟩ := (ih part listed).mp found
          exact ⟨inner, .deeper type part listed inside, named⟩
      · rintro ⟨inner, inside, named⟩
        obtain rfl | ⟨part, listed, inside⟩ := (within_iff _ _ _).mp inside
        · exact .inl named
        · exact .inr ⟨part, listed, (ih part listed).mpr ⟨inner, inside, named⟩⟩

theorem mem_components (part type : IdlType) :
    part ∈ type.components ↔
      part ∈ type.parts ∨ ∃ key value, type = .record key value ∧ part = .stringLike key := by
  cases type with
  | record key value => simp [components, parts, or_comm]
  | _ => simp [components]

theorem within_components_iff (inner type : IdlType) :
    Within components inner type ↔ Within parts inner type ∨
      ∃ key value, Within parts (.record key value) type ∧ inner = .stringLike key := by
  constructor
  · intro inside
    induction inside with
    | here => exact .inl .here
    | deeper type part listed inside ih =>
        obtain part_listed | ⟨key, value, rfl, rfl⟩ := (mem_components part type).mp listed
        · obtain found | ⟨key, value, found, same⟩ := ih
          · exact .inl (.deeper type part part_listed found)
          · exact .inr ⟨key, value, .deeper type part part_listed found, same⟩
        · -- A string type has no parts, so the walk ends at the key.
          obtain rfl | ⟨_, nothing, _⟩ := (within_iff _ _ _).mp inside
          · exact .inr ⟨key, value, .here, rfl⟩
          · simp [components, parts] at nothing
  · have widened : ∀ part, Within parts part type → Within components part type := by
      intro part inside
      induction inside with
      | here => exact .here
      | deeper type part listed _ ih =>
          exact .deeper type part ((mem_components part type).mpr (.inl listed)) ih
    rintro (inside | ⟨key, value, inside, rfl⟩)
    · exact widened inner inside
    · exact within_trans _ _ _ _ (.deeper _ _ (by simp [components]) .here) (widened _ inside)

theorem occurs_iff (target : String) (type : IdlType) :
    Occurs target type ↔ OccursOutsideKeys target type ∨ OccursAsKey target type := by
  constructor
  · rintro ⟨inner, inside, named⟩
    obtain outside | ⟨key, value, keyed, rfl⟩ := (within_components_iff inner type).mp inside
    · exact .inl ⟨inner, outside, named⟩
    · exact .inr ⟨key, value, keyed, named⟩
  · rintro (⟨inner, inside, named⟩ | ⟨key, value, inside, named⟩)
    · exact ⟨inner, (within_components_iff _ _).mpr (.inl inside), named⟩
    · exact ⟨_, (within_components_iff _ _).mpr (.inr ⟨key, value, inside, rfl⟩), named⟩

end IdlType

open IdlType

theorem Operation.has_argument_type_iff (operation : Operation) (target : String) :
    operation.hasArgumentType target = true ↔
      ∃ argument ∈ operation.arguments, OccursOutsideKeys target argument.type := by
  simp only [hasArgumentType, List.any_eq_true, mentions_iff]

theorem Operation.has_return_type_iff (operation : Operation) (target : String) :
    operation.hasReturnType target = true ↔
      ∃ result ∈ operation.type, OccursOutsideKeys target result := by
  cases result : operation.type <;> simp [hasReturnType, result, mentions_iff]

-- The search finds what occurs, unless it occurs as the key of a record only.
theorem IdlType.occurrence_found_iff (target : String) (type : IdlType) (operation : Operation) :
    (type.mentions target = true ↔ OccursOutsideKeys target type) ∧
      ((type.mentions target = true ↔ Occurs target type) ↔
        (OccursAsKey target type → OccursOutsideKeys target type)) ∧
      (operation.hasArgumentType target = true ↔
        ∃ argument ∈ operation.arguments, OccursOutsideKeys target argument.type) ∧
      (operation.hasReturnType target = true ↔
        ∃ result ∈ operation.type, OccursOutsideKeys target result) := by
  refine ⟨mentions_iff target type, ?_, operation.has_argument_type_iff target,
    operation.has_return_type_iff target⟩
  rw [mentions_iff, occurs_iff]
  exact iff_comm.trans or_iff_left_iff_imp

theorem IdlType.key_not_found :
    Occurs "DOMString" (.record "DOMString" (.primitive "long" false)) ∧
      mentions "DOMString" (.record "DOMString" (.primitive "long" false)) = false := by
  refine ⟨⟨.stringLike "DOMString", .deeper _ _ (by simp [components]) .here, .inr rfl⟩, ?_⟩
  decide

end WebIdl
