import WebIdl.Proofs.AttributeGrammar
import WebIdl.Proofs.InheritedAttributes

set_option autoImplicit false

namespace WebIdl

namespace ExtAttrValue

-- Under one name there are lists of exposures only, or none.
def Alike (one other : ExtAttrValue) : Prop := one.exposures?.isSome = other.exposures?.isSome

theorem unset_layered (mine theirs : ExtAttrValue) (unset : mine.isSet = false) :
    layered (some mine) (some theirs) = some theirs := by
  rw [layered, unset, if_neg Bool.false_ne_true]

theorem layered_self (mine : Option ExtAttrValue) : layered mine mine = mine := by
  cases mine with
  | none => rfl
  | some value =>
      cases value with
      | exposures items =>
          rw [layered, joined, (ExtAttrs.join_exposures_eq_iff items items).mpr (List.Subset.refl _),
            ite_self]
      | _ => exact congrArg some (ite_self _)

theorem exposures_before_cons (items : List Exposure) (values : List ExtAttrValue) :
    exposuresBefore (exposures items :: values) = items ++ exposuresBefore values := by
  simp [exposuresBefore, exposures?]

-- With a set value in front: a list of exposures goes on with all that come below it, and nothing
-- else changes at all.
theorem set_layered_assoc (mine theirs : ExtAttrValue) (others : Option ExtAttrValue)
    (set : mine.isSet = true) (alike : mine.Alike theirs) :
    layered (some mine) (layered (some theirs) others) =
      layered (layered (some mine) (some theirs)) others := by
  cases shape : mine.exposures? with
  | none =>
      have alone : mine.StandsAlone := ⟨set, shape⟩
      rw [layered_alone mine _ alone, layered_alone mine _ alone, layered_alone mine _ alone]
  | some items =>
      obtain rfl := eq_exposures mine items shape
      obtain ⟨more, given⟩ := Option.isSome_iff_exists.mp (alike.symm.trans rfl)
      obtain rfl := eq_exposures theirs more given
      have inhabited := (exposures_set_iff items).mp set
      have further : ExtAttrs.joinExposures items more ≠ [] := by
        rw [ExtAttrs.join_exposures_eq]
        exact List.append_ne_nil_of_left_ne_nil inhabited _
      have below : others = standing others.toList := by cases others <;> rfl
      have joined : layered (some (exposures items)) (some (exposures more)) =
          some (exposures (ExtAttrs.joinExposures items more)) := by
        rw [layered, if_pos set]
        rfl
      rw [joined, below, exposures_layered _ further]
      refine (exposures_layered items inhabited (exposures more :: others.toList)).trans ?_
      rw [exposures_before_cons]
      exact congrArg (some <| exposures ·) (join_new_append items more _)

theorem layered_assoc (mine theirs others : Option ExtAttrValue)
    (alike : ∀ one ∈ mine, ∀ other ∈ theirs, one.Alike other) :
    layered mine (layered theirs others) = layered (layered mine theirs) others := by
  cases mine with
  | none => rfl
  | some mine =>
      cases theirs with
      | none => rfl
      | some theirs =>
          cases set : mine.isSet with
          | true => exact set_layered_assoc mine theirs others set (alike mine rfl theirs rfl)
          | false =>
              rw [unset_layered mine theirs set]
              cases others with
              | none => exact unset_layered mine theirs set
              | some others => exact unset_layered mine _ set

end ExtAttrValue

namespace ExtAttrs

-- Attributes as they are read: lists of exposures stand under `Exposed` alone.
def AsRead (attrs : ExtAttrs) : Prop :=
  ∀ name value, attrs.get? name = some value →
    (value.exposures?.isSome = true ↔ name = "Exposed")

theorem plain_unexposed (property : Option PropertyValue) (value : ExtAttrValue)
    (written : Plain property value) : value.exposures? = none := by
  cases written <;> rfl

theorem puts_exposures (node : Node) (entry : String × ExtAttrValue) (puts : Puts node entry) :
    entry.2.exposures?.isSome = true ↔ entry.1 = "Exposed" := by
  obtain ⟨name, value⟩ := entry
  obtain ⟨named, denotes⟩ := puts
  cases denotes with
  | plain own _ given other _ written =>
      cases named.symm.trans given.1
      have apart : name ≠ "Exposed" := fun same => other (by simp [same])
      simp [plain_unexposed _ value written, apart]
  | call _ _ _ _ own =>
      cases named.symm.trans own
      exact iff_of_false Bool.false_ne_true (show "NamedConstructor" ≠ "Exposed" by decide)
  | exposed _ own =>
      cases named.symm.trans own
      exact iff_of_true rfl rfl
  | flagged _ _ own =>
      cases named.symm.trans own
      exact iff_of_true rfl rfl

theorem of_node_as_read (node : Node) (attrs : ExtAttrs) (read : ofNode node = .ok attrs) :
    attrs.AsRead := by
  rw [of_node_eq, of_nodes_iff] at read
  obtain ⟨entries, each, rfl⟩ := read
  refine Table.each_get _ _ ?_
  refine Table.insert_all_each _ .empty entries (Table.empty_each _) fun entry listed => ?_
  obtain ⟨child, puts⟩ := (all_related_iff entries).mp ⟨node.children, .flip each⟩ entry listed
  exact puts_exposures child entry puts

theorem as_read_alike (attrs other : ExtAttrs) (first : attrs.AsRead) (second : other.AsRead)
    (name : String) :
    ∀ one ∈ attrs.get? name, ∀ value ∈ other.get? name, one.Alike value := by
  intro one found value present
  exact Bool.eq_iff_iff.mpr
    ((first name one found).trans (second name value present).symm)

theorem keys_absorb_one (attrs : ExtAttrs) (name : String) (value : ExtAttrValue) :
    (attrs.absorbOne name value).keys =
      if attrs.keys.contains name then attrs.keys else attrs.keys ++ [name] := by
  have inserted : ∀ value, (attrs.insert name value).keys =
      if attrs.keys.contains name then attrs.keys else attrs.keys ++ [name] := by
    intro value
    simp only [Table.keys_insert, List.contains_iff_mem]
  unfold absorbOne
  split
  · exact inserted value
  · rename_i existing found
    split
    · split
      · exact inserted _
      · rw [if_pos (List.contains_iff_mem.mpr (Table.mem_keys_of_get attrs name _ found))]
    · exact inserted value

theorem keys_absorb (attrs other : ExtAttrs) :
    (absorb attrs other).keys = joinNew attrs.keys other.keys := by
  rw [Table.keys_eq other, absorb]
  induction other.entries generalizing attrs with
  | nil => rfl
  | cons entry rest ih =>
      rw [List.foldl_cons, ih, keys_absorb_one]
      rfl

theorem absorb_assoc (attrs other further : ExtAttrs) (first : attrs.AsRead)
    (second : other.AsRead) :
    absorb attrs (absorb other further) = absorb (absorb attrs other) further := by
  refine Table.eq_of_get _ _ ?_ fun name => ?_
  · simp only [keys_absorb, join_join_new, join_new_append]
  · simp only [get_absorb_layered]
    exact ExtAttrValue.layered_assoc _ _ _ (as_read_alike attrs other first second name)

theorem absorb_self (attrs : ExtAttrs) : absorb attrs attrs = attrs := by
  refine Table.eq_of_get _ _ ?_ fun name => ?_
  · rw [keys_absorb]
    exact (join_new_eq_iff attrs.keys attrs.keys).mpr (List.Subset.refl _)
  · rw [get_absorb_layered, ExtAttrValue.layered_self]

theorem exposures_absorbed (attrs other : ExtAttrs) (mine : List Exposure)
    (found : attrs.get? "Exposed" = some (.exposures mine)) (inhabited : mine ≠ []) :
    (absorb attrs other).get? "Exposed" =
      some (.exposures (joinExposures mine other.exposures)) := by
  have set := (ExtAttrValue.exposures_set_iff mine).mpr inhabited
  rw [get_absorb_layered, found, exposures]
  cases other.get? "Exposed" with
  | none => rfl
  | some theirs =>
      rw [ExtAttrValue.layered, if_pos set]
      cases theirs <;> rfl

theorem absorb_grouped (attrs other further : ExtAttrs) (first : attrs.AsRead)
    (second : other.AsRead) :
    absorb attrs (absorb other further) = absorb (absorb attrs other) further ∧
      absorb attrs attrs = attrs ∧
      ∀ key value, attrs.get? key = some value → value.isSet = true →
        (key ≠ "Exposed" → (absorb attrs other).get? key = some value) ∧
        (key = "Exposed" → ∃ mine added, value = .exposures mine ∧
          (absorb attrs other).get? key = some (.exposures (mine ++ added)) ∧ added.Nodup ∧
          ∀ exposure ∈ added, exposure ∉ mine ∧ exposure ∈ other.exposures) := by
  refine ⟨absorb_assoc attrs other further first second, absorb_self attrs, ?_⟩
  intro key value found set
  have kind := first key value found
  constructor
  · intro apart
    have alone : value.StandsAlone := ⟨set, by simpa [apart] using kind⟩
    rw [get_absorb_layered, found, ExtAttrValue.layered_alone value _ alone]
  · rintro rfl
    obtain ⟨mine, shape⟩ := Option.isSome_iff_exists.mp (kind.mpr rfl)
    obtain rfl := ExtAttrValue.eq_exposures value mine shape
    refine ⟨mine, _, rfl, ?_, erase_dups_nodup (other.exposures.filter (!mine.contains ·)), ?_⟩
    · rw [exposures_absorbed attrs other mine found
        ((ExtAttrValue.exposures_set_iff mine).mp set), join_exposures_eq]
    · intro exposure member
      obtain ⟨listed, fresh⟩ := List.mem_filter.mp (List.mem_eraseDups.mp member)
      exact ⟨by simpa using fresh, listed⟩

def plainWindow : Node :=
  (Node.attrsOf ["Measure"]).withChild
    (((Node.leaf "ExtAttribute").named "Exposed").withProperty "VALUE" (.text "Window"))

def workerTwice : Node :=
  (Node.leaf "ExtAttributes").withChildren
    [((Node.leaf "ExtAttribute").named "Exposed").withProperty "VALUE"
        (.list ["Worker", "Window", "Worker"]),
      ((Node.leaf "ExtAttribute").named "Measure").withProperty "VALUE" (.text "Uses")]

def flaggedAudio : Node :=
  (Node.leaf "ExtAttributes").withChildren
    [(Node.leaf "ExtAttribute").named "Global",
      ((Node.leaf "ExtAttribute").named "Exposed").withChild ((Node.leaf "Arguments").withChild
        (((Node.leaf "Argument").named "Graph").withChild
          ((Node.leaf "Type").withChild ((Node.leaf "Typeref").named "Audio")))),
      ((Node.leaf "ExtAttribute").named "Measure").withProperty "VALUE" (.text "Other")]

theorem gap_and_lists_grouped :
    ∃ first second third, ofNode plainWindow = .ok first ∧ ofNode workerTwice = .ok second ∧
      ofNode flaggedAudio = .ok third ∧ first.AsRead ∧ second.AsRead ∧
      absorb first (absorb second third) = absorb (absorb first second) third ∧
      (absorb first (absorb second third)).entries =
        [("Measure", .text "Uses"),
          ("Exposed", .exposures [⟨"Window", none⟩, ⟨"Worker", none⟩, ⟨"Audio", some "Graph"⟩]),
          ("Global", .valueless)] := by
  obtain ⟨first, one⟩ : ∃ first, ofNode plainWindow = .ok first := ⟨_, rfl⟩
  obtain ⟨second, two⟩ : ∃ second, ofNode workerTwice = .ok second := ⟨_, rfl⟩
  obtain ⟨third, three⟩ : ∃ third, ofNode flaggedAudio = .ok third := ⟨_, rfl⟩
  have front := of_node_as_read _ first one
  have middle := of_node_as_read _ second two
  refine ⟨first, second, third, one, two, three, front, middle,
    (absorb_grouped first second third front middle).1, ?_⟩
  cases one
  cases two
  cases three
  rfl

end ExtAttrs

end WebIdl
