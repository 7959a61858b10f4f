import WebIdl.Proofs.Resolution
import WebIdl.Proofs.TableByTable

set_option autoImplicit false

namespace WebIdl.Definitions

inductive UpdateLeft (definitions other : Definitions) : IdlError → Definitions → Prop
  | interfaces (name : String) (interfaces : Table Interface)
      (upTo : TakenUpTo (·.isPartial) Interface.merge definitions.interfaces
        other.interfaces.entries name interfaces) :
      UpdateLeft definitions other (.noInterfaceToMerge name) { definitions with interfaces }
  | dictionaries (name : String) (interfaces : Table Interface) (dictionaries : Table Dictionary)
      (whole : TakenIn (·.isPartial) Interface.merge definitions.interfaces
        other.interfaces.entries interfaces)
      (upTo : TakenUpTo (·.isPartial) foldMembers definitions.dictionaries
        other.dictionaries.entries name dictionaries) :
      UpdateLeft definitions other (.noDictionaryToMerge name)
        { definitions with interfaces, dictionaries }

theorem update_left (definitions other : Definitions) (error : IdlError)
    (broke : (definitions.update other).failure = some error) :
    definitions.UpdateLeft other error (definitions.update other).state := by
  unfold update at *
  cases first : (Attempt.each takeInterface other.interfaces.entries
      definitions.interfaces).failure with
  | some error' =>
      simp only [Attempt.andThen, Attempt.lift, first] at broke ⊢
      cases broke
      obtain ⟨name, rfl, upTo⟩ := taken_up_to_error _ _ _ _ _ error first
      exact .interfaces name _ upTo
  | none =>
      have whole := taken_in_all _ _ _ _ _ first
      cases second : (Attempt.each takeDictionary other.dictionaries.entries
          definitions.dictionaries).failure with
      | some error' =>
          simp only [Attempt.andThen, Attempt.lift, first, second] at broke ⊢
          cases broke
          obtain ⟨name, rfl, upTo⟩ := taken_up_to_error _ _ _ _ _ error second
          exact .dictionaries name _ _ whole upTo
      | none =>
          simp only [Attempt.andThen, Attempt.lift, first, second] at broke
          cases broke

-- What a resolution leaves behind that went well for these names: they and all that are above them
-- have been resolved.
structure ResolveLeft (definitions : Definitions) (front : List String) (left : Definitions) :
    Prop where
  rest : left = { definitions with interfaces := left.interfaces }
  keys : left.interfaces.keys = definitions.interfaces.keys
  resolved : ∀ name interface, Reached definitions.interfaces front name →
    definitions.interfaces.get? name = some interface →
      ∃ above, Lineage definitions.interfaces interface.parent above ∧
        left.interfaces.get? name = some (interface.withAbove above)
  others : ∀ name, ¬ Reached definitions.interfaces front name →
    left.interfaces.get? name = definitions.interfaces.get? name

theorem settled_left (definitions : Definitions) (front : List String) (state : Resolution)
    (settles : Settles definitions.interfaces front state) :
    definitions.ResolveLeft front { definitions with interfaces := state.table } where
  rest := rfl
  keys := settles.keys
  resolved name interface reached found :=
    settles.settled name interface ((settles.reached name).mpr reached) found
  others name apart := settles.untouched name fun known => apart ((settles.reached name).mp known)

-- An operation that fails leaves everything that it did before the error, and nothing more.
theorem failed_change_stays (definitions : Definitions) :
    (∀ other error, (definitions.update other).failure = some error →
      definitions.UpdateLeft other error (definitions.update other).state) ∧
    ∀ error, (resolveInheritance definitions).failure = some error →
      ∃ front start back, definitions.interfaces.keys = front ++ start :: back ∧
        (∀ name, Reached definitions.interfaces front name →
          ¬ Returns definitions.interfaces name) ∧
        (∃ name, Relation.ReflTransGen (Above definitions.interfaces) start name ∧
          Returns definitions.interfaces name ∧ error = .inheritanceCycle name) ∧
        definitions.ResolveLeft front (resolveInheritance definitions).state := by
  refine ⟨update_left definitions, fun error broke => ?_⟩
  obtain ⟨front, start, back, split, settles, cycle⟩ :=
    resolve_broken definitions.interfaces definitions.interfaces.keys error broke
  exact ⟨front, start, back, split, settled_no_return _ front _ settles, cycle,
    settled_left definitions front _ settles⟩

def looped : Node :=
  Node.fileOf [(Node.interfaceOf "Child" ["x"]).inheriting "Parent",
    Node.interfaceOf "Parent" ["y"], (Node.interfaceOf "Hen" []).inheriting "Egg",
    (Node.interfaceOf "Egg" []).inheriting "Hen"]

def orphaned : Node :=
  Node.fileOf [Node.interfaceOf "Whole" ["x"], (Node.interfaceOf "Part" ["y"]).asPartial]

theorem orphan_and_loop_left :
    ∃ definitions other left,
      ofNode looped = .ok definitions ∧ ofNode orphaned = .ok other ∧
      (definitions.update other).failure = some (.noInterfaceToMerge "Part") ∧
      definitions.UpdateLeft other (.noInterfaceToMerge "Part") (definitions.update other).state ∧
      (resolveInheritance definitions).failure = some (.inheritanceCycle "Hen") ∧
      ∃ front start back, definitions.interfaces.keys = front ++ start :: back ∧
        (resolveInheritance definitions).state = left ∧ definitions.ResolveLeft front left := by
  obtain ⟨definitions, built⟩ : ∃ definitions, ofNode looped = .ok definitions := ⟨_, rfl⟩
  obtain ⟨other, apart⟩ : ∃ other, ofNode orphaned = .ok other := ⟨_, rfl⟩
  obtain ⟨updated, resolved⟩ := failed_change_stays definitions
  cases built
  cases apart
  obtain ⟨front, start, back, split, _, _, left⟩ := resolved _ rfl
  exact ⟨_, _, _, rfl, rfl, rfl, updated _ _ rfl, rfl, front, start, back, split, rfl, left⟩

theorem half_done_stays :
    ∃ definitions other child,
      ofNode looped = .ok definitions ∧ ofNode orphaned = .ok other ∧
      definitions.interfaces.get? "Child" = some child ∧ child.names = ["x"] ∧
      (definitions.update other).failure = some (.noInterfaceToMerge "Part") ∧
      (definitions.update other).state.interfaces.keys =
        definitions.interfaces.keys ++ ["Whole"] ∧
      (definitions.update other).state ≠ definitions ∧
      (resolveInheritance definitions).failure = some (.inheritanceCycle "Hen") ∧
      ((resolveInheritance definitions).state.interfaces.get? "Child").map (·.names) =
        some ["x", "y"] ∧
      (resolveInheritance definitions).state ≠ definitions := by
  refine ⟨_, _, _, rfl, rfl, rfl, rfl, rfl, rfl, fun same => ?_, rfl, rfl, fun same => ?_⟩
  · exact absurd (congrArg (·.interfaces.size) same) (by decide)
  · have child := congrArg (fun left => (left.interfaces.get? "Child").map (·.names)) same
    cases child

end WebIdl.Definitions
