import Mathlib.Data.List.Induction
import WebIdl.ExtAttrs

set_option autoImplicit false

namespace WebIdl

section Joined

variable {α : Type} [BEq α]

def joinNew (known items : List α) : List α :=
  items.foldl (fun known item => if known.contains item then known else known ++ [item]) known

theorem join_new_append (known front back : List α) :
    joinNew known (front ++ back) = joinNew (joinNew known front) back :=
  List.foldl_append

theorem join_new_snoc (known front : List α) (last : α) :
    joinNew known (front ++ [last]) =
      if (joinNew known front).contains last then joinNew known front
      else joinNew known front ++ [last] :=
  List.foldl_append

variable [LawfulBEq α]

theorem new_only_from (known items : List α) :
    joinNew known items = known ++ (items.filter (!known.contains ·)).eraseDups := by
  unfold joinNew
  induction items generalizing known with
  | nil => simp
  | cons item rest ih =>
      rw [List.foldl_cons]
      by_cases again : known.contains item = true
      · rw [if_pos again, ih, List.filter_cons_of_neg (by simpa using again)]
      · have later : rest.filter (!(known ++ [item]).contains ·) =
            (rest.filter (!known.contains ·)).filter (!· == item) := by
          rw [List.filter_filter]
          apply List.filter_congr
          intro other _
          rw [List.contains_append, List.contains_cons, List.contains_nil, Bool.or_false,
            Bool.not_or, Bool.and_comm]
        rw [if_neg again, ih, List.filter_cons_of_pos (by simpa using again), List.eraseDups_cons,
          later, List.append_assoc, List.singleton_append]

theorem mem_join_new (known items : List α) (item : α) :
    item ∈ joinNew known items ↔ item ∈ known ∨ item ∈ items := by
  rw [new_only_from]
  by_cases old : item ∈ known <;> simp [old]

theorem join_new_eq_iff (known items : List α) : joinNew known items = known ↔ items ⊆ known := by
  constructor
  · intro same item member
    rw [← same, mem_join_new]
    exact .inr member
  · intro within
    have nothing : items.filter (!known.contains ·) = [] :=
      List.filter_eq_nil_iff.mpr fun item member => by simpa using within member
    rw [new_only_from, nothing, List.eraseDups_nil, List.append_nil]

theorem join_new_nodup (known items : List α) (unique : known.Nodup) :
    (joinNew known items).Nodup := by
  refine List.foldlRecOn items _ unique ?_
  intro known unique item _
  by_cases again : known.contains item = true
  · rwa [if_pos again]
  · rw [if_neg again, List.nodup_append]
    refine ⟨unique, by simp, ?_⟩
    intro other member last listed same
    rw [List.mem_singleton.mp listed] at same
    exact again (List.contains_iff_mem.mpr (same ▸ member))

theorem erase_dups_nodup (items : List α) : items.eraseDups.Nodup := by
  have all : items.filter (!([] : List α).contains ·) = items := List.filter_eq_self.mpr (by simp)
  have unique := join_new_nodup [] items List.nodup_nil
  rwa [new_only_from, all, List.nil_append] at unique

theorem join_join_new (known items others : List α) :
    joinNew known (joinNew items others) = joinNew known (items ++ others) := by
  induction others using List.reverseRecOn with
  | nil =>
      rw [List.append_nil]
      rfl
  | append_singleton front last ih =>
      have kept : last ∈ joinNew items front → last ∈ joinNew known (items ++ front) := by
        rw [mem_join_new, mem_join_new, List.mem_append]
        exact .inr
      rw [← List.append_assoc, join_new_snoc, join_new_snoc]
      by_cases again : last ∈ joinNew items front
      · rw [if_pos (List.contains_iff_mem.mpr again), ih,
          if_pos (List.contains_iff_mem.mpr (kept again))]
      · rw [if_neg (by simpa using again), join_new_snoc, ih]

end Joined

instance : LawfulBEq Exposure where
  eq_of_beq {one two} same := by
    obtain ⟨exposed, flag⟩ := one
    obtain ⟨exposed', flag'⟩ := two
    obtain ⟨name, flags⟩ := Bool.and_eq_true_iff.mp same
    rw [eq_of_beq name, eq_of_beq flags]
  rfl {one} := Bool.and_eq_true_iff.mpr ⟨beq_self_eq_true _, beq_self_eq_true _⟩

namespace ExtAttrValue

def StandsAlone (value : ExtAttrValue) : Prop :=
  value.isSet = true ∧ value.exposures? = none

theorem text_stands_alone (text : String) (named : text ≠ "") :
    (ExtAttrValue.text text).StandsAlone := by
  refine ⟨?_, rfl⟩
  rw [isSet, Bool.not_eq_true', ← Bool.not_eq_true, String.isEmpty_iff]
  exact named

-- What is left of two values under one name, the first of which is set.
def joined : ExtAttrValue → ExtAttrValue → ExtAttrValue
  | .exposures mine, .exposures theirs => .exposures (ExtAttrs.joinExposures mine theirs)
  | mine, _ => mine

def layered : Option ExtAttrValue → Option ExtAttrValue → Option ExtAttrValue
  | none, theirs => theirs
  | some mine, none => some mine
  | some mine, some theirs => some (if mine.isSet then mine.joined theirs else theirs)

theorem joined_alone (mine theirs : ExtAttrValue) (alone : mine.exposures? = none) :
    mine.joined theirs = mine := by
  cases mine with
  | exposures => cases alone
  | _ => rfl

theorem layered_alone (mine : ExtAttrValue) (theirs : Option ExtAttrValue)
    (alone : mine.StandsAlone) : layered (some mine) theirs = some mine := by
  cases theirs with
  | none => rfl
  | some value => rw [layered, if_pos alone.1, joined_alone mine value alone.2]

theorem layered_none (mine : Option ExtAttrValue) : layered mine none = mine := by
  cases mine <;> rfl

theorem layered_is_some (mine theirs : Option ExtAttrValue) :
    (layered mine theirs).isSome = (mine.isSome || theirs.isSome) := by
  cases mine <;> cases theirs <;> rfl

end ExtAttrValue

namespace ExtAttrs

open ExtAttrValue (layered)

theorem get_absorb_one (attrs : ExtAttrs) (key name : String) (value : ExtAttrValue) :
    (attrs.absorbOne key value).get? name =
      if key = name then layered (attrs.get? name) (some value) else attrs.get? name := by
  by_cases same : key = name
  · subst same
    rw [if_pos rfl]
    unfold absorbOne
    cases found : attrs.get? key with
    | none => exact (Table.get_insert attrs key key value).trans (if_pos rfl)
    | some existing =>
        dsimp only
        rw [layered]
        split
        · split
          · rw [Table.get_insert, if_pos rfl]
            rfl
          · rw [found, ExtAttrValue.joined]
            assumption
        · rw [Table.get_insert, if_pos rfl]
  · rw [if_neg same]
    unfold absorbOne
    split
    · rw [Table.get_insert, if_neg same]
    · split
      · split
        · rw [Table.get_insert, if_neg same]
        · rfl
      · rw [Table.get_insert, if_neg same]

theorem get_absorb_entries (attrs : ExtAttrs) (entries : List (String × ExtAttrValue))
    (name : String) :
    (entries.foldl (fun attrs (key, value) => attrs.absorbOne key value) attrs).get? name =
      (Table.under name entries).foldl (fun standing value => layered standing (some value))
        (attrs.get? name) := by
  induction entries generalizing attrs with
  | nil => rfl
  | cons entry rest ih =>
      rw [List.foldl_cons, ih, get_absorb_one, Table.under_cons]
      by_cases same : entry.1 = name
      · rw [if_pos same, if_pos same]
        rfl
      · rw [if_neg same, if_neg same]
        rfl

theorem get_absorb_layered (attrs other : ExtAttrs) (name : String) :
    (absorb attrs other).get? name = layered (attrs.get? name) (other.get? name) := by
  rw [absorb, get_absorb_entries, Table.under_entries]
  cases other.get? name with
  | none => exact (ExtAttrValue.layered_none _).symm
  | some value => rfl

theorem standing_kept (entries : List (String × ExtAttrValue)) (attrs : ExtAttrs) (name : String)
    (standing : ExtAttrValue) (found : attrs.get? name = some standing)
    (alone : standing.StandsAlone) :
    (entries.foldl (fun attrs (key, value) => attrs.absorbOne key value) attrs).get? name =
      some standing := by
  rw [get_absorb_entries, found]
  refine List.foldlRecOn (motive := fun value => value = some standing) _ _ rfl
    fun value before later _ => ?_
  rw [before]
  exact ExtAttrValue.layered_alone standing _ alone

theorem missing_filled (entries : List (String × ExtAttrValue)) (attrs : ExtAttrs) (name : String)
    (missing : attrs.get? name = none)
    (alone : ∀ value, Table.find name entries = some value → value.StandsAlone) :
    (entries.foldl (fun attrs (key, value) => attrs.absorbOne key value) attrs).get? name =
      Table.find name entries := by
  induction entries generalizing attrs with
  | nil => exact missing
  | cons entry rest ih =>
      obtain ⟨key, value⟩ := entry
      have first := get_absorb_one attrs key name value
      rw [List.foldl_cons, Table.find]
      by_cases same : key = name
      · rw [Table.find, if_pos same] at alone
        rw [if_pos same, missing] at first
        rw [if_pos same]
        exact standing_kept rest _ name value first (alone value rfl)
      · rw [Table.find, if_neg same] at alone
        rw [if_neg same] at first
        rw [if_neg same]
        exact ih _ (first.trans missing) alone

theorem get_absorb (attrs other : ExtAttrs) (name : String)
    (mine : ∀ value, attrs.get? name = some value → value.StandsAlone)
    (theirs : ∀ value, other.get? name = some value → value.StandsAlone) :
    (absorb attrs other).get? name = (attrs.get? name).or (other.get? name) := by
  unfold absorb
  cases found : attrs.get? name with
  | some standing => exact standing_kept other.entries attrs name standing found (mine _ found)
  | none => exact missing_filled other.entries attrs name found theirs

theorem get_absorb_all (attrs : ExtAttrs) (others : List ExtAttrs) (name : String)
    (alone : ∀ part ∈ attrs :: others, ∀ value, part.get? name = some value → value.StandsAlone) :
    (others.foldl absorb attrs).get? name = (attrs :: others).findSome? (·.get? name) := by
  induction others generalizing attrs with
  | nil =>
      rw [List.foldl_nil, List.findSome?_cons]
      cases attrs.get? name <;> rfl
  | cons other rest ih =>
      obtain ⟨mine, theirs, later⟩ :=
        (List.forall_mem_cons.mp alone).imp_right List.forall_mem_cons.mp
      have joined := get_absorb attrs other name mine theirs
      rw [List.foldl_cons, ih]
      · simp only [List.findSome?_cons, joined]
        cases attrs.get? name <;> rfl
      · refine List.forall_mem_cons.mpr ⟨fun value found => ?_, later⟩
        rcases Option.or_eq_some_iff.mp (joined.symm.trans found) with own | ⟨_, taken⟩
        · exact mine value own
        · exact theirs value taken

end ExtAttrs

end WebIdl
