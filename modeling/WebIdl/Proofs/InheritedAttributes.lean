import WebIdl.Proofs.Absorbing
import WebIdl.Proofs.Resolution

set_option autoImplicit false

namespace WebIdl

namespace ExtAttrs

theorem join_exposures_eq (mine theirs : List Exposure) :
    joinExposures mine theirs = mine ++ (theirs.filter (!mine.contains ·)).eraseDups :=
  new_only_from mine theirs

theorem join_exposures_eq_iff (mine theirs : List Exposure) :
    joinExposures mine theirs = mine ↔ theirs ⊆ mine :=
  join_new_eq_iff mine theirs

theorem join_join_exposures (mine theirs others : List Exposure) :
    joinExposures mine (joinExposures theirs others) = joinExposures mine (theirs ++ others) :=
  join_join_new mine theirs others

end ExtAttrs

namespace ExtAttrValue

theorem eq_exposures (value : ExtAttrValue) (items : List Exposure)
    (listed : value.exposures? = some items) : value = .exposures items := by
  cases value with
  | exposures => exact congrArg exposures (Option.some.inj listed)
  | _ => cases listed

theorem exposures_set_iff (items : List Exposure) :
    (exposures items).isSet = true ↔ items ≠ [] := by
  rw [isSet, Bool.not_eq_true', List.isEmpty_eq_false_iff]

theorem joined_unset (mine theirs : ExtAttrValue) (unset : theirs.isSet = false) :
    mine.joined theirs = mine := by
  cases mine with
  | exposures mine =>
      cases theirs with
      | exposures theirs =>
          rw [isSet, Bool.not_eq_false', List.isEmpty_iff] at unset
          rw [unset]
          rfl
      | _ => rfl
  | _ => rfl

theorem exposures_unset (value : ExtAttrValue) (unset : value.isSet = false) :
    value.exposures?.getD [] = [] := by
  cases value with
  | exposures items => exact List.isEmpty_iff.mp ((Bool.not_eq_false' _).mp unset)
  | _ => rfl

def standing (values : List ExtAttrValue) : Option ExtAttrValue :=
  values.foldr (fun value above => layered (some value) above) none

def exposuresBefore (values : List ExtAttrValue) : List Exposure :=
  (values.takeWhile fun value => !value.isSet || value.exposures?.isSome).flatMap
    fun value => value.exposures?.getD []

theorem layered_unset (mine value : ExtAttrValue) (above : Option ExtAttrValue)
    (set : mine.isSet = true) (unset : value.isSet = false) :
    layered (some mine) (layered (some value) above) = layered (some mine) above := by
  cases above with
  | none => rw [layered_none, layered_none, layered, if_pos set, joined_unset mine value unset]
  | some theirs =>
      rw [layered, unset, if_neg Bool.false_ne_true]

theorem exposures_layered (mine : List Exposure) (inhabited : mine ≠ [])
    (values : List ExtAttrValue) :
    layered (some (.exposures mine)) (standing values) =
      some (.exposures (ExtAttrs.joinExposures mine (exposuresBefore values))) := by
  induction values generalizing mine with
  | nil => rfl
  | cons value above ih =>
      have set := (exposures_set_iff mine).mpr inhabited
      rw [standing, List.foldr_cons, ← standing, exposuresBefore, List.takeWhile_cons]
      cases present : value.isSet with
      | false =>
          rw [layered_unset _ value _ set present, ih mine inhabited, exposuresBefore,
            Bool.not_false, Bool.true_or, if_pos rfl, List.flatMap_cons,
            exposures_unset value present, List.nil_append]
      | true =>
          cases shape : value.exposures? with
          | none =>
              rw [layered_alone value _ ⟨present, shape⟩, layered, if_pos set]
              cases value with
              | exposures => cases shape
              | _ => rfl
          | some theirs =>
              obtain rfl := eq_exposures value theirs shape
              rw [ih theirs ((exposures_set_iff theirs).mp present), layered, if_pos set, joined,
                ExtAttrs.join_join_exposures]
              rfl

end ExtAttrValue

namespace Interface

open ExtAttrValue (layered standing exposuresBefore)

def valuesOf (key : String) (chain : List Interface) : List ExtAttrValue :=
  chain.filterMap (·.attrs.get? key)

theorem standing_cons (key : String) (interface : Interface) (above : List Interface) :
    standing (valuesOf key (interface :: above)) =
      layered (interface.attrs.get? key) (standing (valuesOf key above)) := by
  rw [valuesOf, List.filterMap_cons]
  cases interface.attrs.get? key <;> rfl

theorem get_absorbed (interface : Interface) (above : List Interface) (key : String) :
    (interface.absorbed above).get? key =
      layered (interface.attrs.get? key) (standing (valuesOf key above)) := by
  induction above generalizing interface with
  | nil => exact (ExtAttrValue.layered_none _).symm
  | cons parent above ih =>
      rw [absorbed, ExtAttrs.get_absorb_layered, ih parent, standing_cons]

theorem with_above_get (interface : Interface) (above : List Interface) (key : String) :
    (interface.withAbove above).attrs.get? key =
      standing (valuesOf key (interface :: above)) := by
  rw [with_above_attrs, get_absorbed interface above key, standing_cons]

end Interface

namespace Definitions

open ExtAttrValue (exposuresBefore)
open Interface (valuesOf)

-- Under every key that is set, nothing changes unless exposures come down from above that are not
-- there yet.
theorem set_attribute_kept_iff (definitions : Definitions)
    (done : (resolveInheritance definitions).failure = none) (name : String)
    (interface : Interface) (found : definitions.interfaces.get? name = some interface)
    (key : String) (own : ExtAttrValue) (stands : interface.attrs.get? key = some own)
    (set : own.isSet = true) :
    ∃ above resolved, Lineage definitions.interfaces interface.parent above ∧
      (resolveInheritance definitions).state.interfaces.get? name = some resolved ∧
      (own.exposures? = none → resolved.attrs.get? key = some own) ∧
      ∀ mine, own.exposures? = some mine →
        resolved.attrs.get? key = some (.exposures (mine ++
          ((exposuresBefore (valuesOf key above)).filter (!mine.contains ·)).eraseDups)) ∧
        (resolved.attrs.get? key = some own ↔ exposuresBefore (valuesOf key above) ⊆ mine) := by
  have spec := resolve_inheritance_spec definitions
  rw [done] at spec
  obtain ⟨above, lineage, value⟩ := spec.2 name interface found
  have after := interface.with_above_get above key
  rw [Interface.standing_cons, stands] at after
  refine ⟨above, _, lineage, value, ?_, ?_⟩
  · intro alone
    rw [after]
    exact ExtAttrValue.layered_alone own _ ⟨set, alone⟩
  · intro mine shape
    obtain rfl := ExtAttrValue.eq_exposures own mine shape
    rw [ExtAttrValue.exposures_layered mine ((ExtAttrValue.exposures_set_iff mine).mp set)]
      at after
    rw [after, ← ExtAttrs.join_exposures_eq]
    refine ⟨rfl, ?_⟩
    rw [Option.some.injEq, ExtAttrValue.exposures.injEq]
    exact ExtAttrs.join_exposures_eq_iff mine _

def exposedIn (name : String) (globals : List String) : Node :=
  (Node.interfaceOf name []).withChild
    ((Node.leaf "ExtAttributes").withChild
      (((Node.leaf "ExtAttribute").named "Exposed").withProperty "VALUE" (.list globals)))

theorem narrower_exposure_above :
    ∃ definitions child above resolved,
      ofNode (Node.fileOf [exposedIn "Parent" ["Window"],
        (exposedIn "Child" ["Worker", "Window"]).inheriting "Parent"]) = .ok definitions ∧
      definitions.interfaces.get? "Child" = some child ∧
      child.attrs.isSet "Exposed" = true ∧
      Lineage definitions.interfaces child.parent above ∧
      (resolveInheritance definitions).failure = none ∧
      (resolveInheritance definitions).state.interfaces.get? "Child" = some resolved ∧
      resolved.attrs.get? "Exposed" = child.attrs.get? "Exposed" ∧
      exposuresBefore (valuesOf "Exposed" above) ⊆ [⟨"Worker", none⟩, ⟨"Window", none⟩] := by
  obtain ⟨definitions, built⟩ : ∃ definitions, ofNode (Node.fileOf
    [exposedIn "Parent" ["Window"],
      (exposedIn "Child" ["Worker", "Window"]).inheriting "Parent"]) = .ok definitions := ⟨_, rfl⟩
  have kept := set_attribute_kept_iff definitions
  cases built
  obtain ⟨above, resolved, lineage, found, _, joined⟩ :=
    kept rfl "Child" _ rfl "Exposed" _ rfl rfl
  obtain ⟨_, same⟩ := joined _ rfl
  cases found
  exact ⟨_, _, above, _, rfl, rfl, rfl, lineage, rfl, rfl, rfl, same.mp rfl⟩

theorem wider_exposure_gained :
    ∃ definitions child resolved,
      ofNode (Node.fileOf [exposedIn "Parent" ["Window", "Worker"],
        (exposedIn "Child" ["Window"]).inheriting "Parent"]) = .ok definitions ∧
      definitions.interfaces.get? "Child" = some child ∧
      child.attrs.isSet "Exposed" = true ∧
      child.attrs.get? "Exposed" = some (.exposures [⟨"Window", none⟩]) ∧
      (resolveInheritance definitions).failure = none ∧
      (resolveInheritance definitions).state.interfaces.get? "Child" = some resolved ∧
      resolved.attrs.get? "Exposed" =
        some (.exposures [⟨"Window", none⟩, ⟨"Worker", none⟩]) :=
  ⟨_, _, _, rfl, rfl, rfl, rfl, rfl, rfl, rfl⟩

end Definitions

end WebIdl
