import WebIdl.Proofs.Resolution

set_option autoImplicit false

namespace WebIdl.Definitions

section Climb

variable (table : Table Interface) (start : String)

theorem climbed_ahead (chain : List String) (current : Option String)
    (climbed : Climbed table [] start chain current) (ancestor : String)
    (walk : Relation.ReflTransGen (Above table) start ancestor) :
    ancestor ∈ chain ∨ ∃ name, current = some name ∧
      Relation.ReflTransGen (Above table) name ancestor := by
  induction walk with
  | refl =>
      exact (climbed_start table [] start chain current climbed).imp_right
        fun here => ⟨start, here, .refl⟩
  | tail _ step ih =>
      rcases ih with passed | ⟨name, here, rest⟩
      · exact (climbed_closed table [] start chain current climbed _ _ passed step).imp_right
          fun here => ⟨_, here, .refl⟩
      · exact .inr ⟨name, here, rest.tail step⟩

theorem climbed_around (chain : List String) (name : String)
    (climbed : Climbed table [] start chain (some name)) (passed : name ∈ chain)
    (ancestor : String) (walk : Relation.ReflTransGen (Above table) start ancestor) :
    ancestor ∈ chain := by
  have closed : ∀ other, Relation.ReflTransGen (Above table) name other → other ∈ chain := by
    intro other further
    induction further with
    | refl => exact passed
    | tail _ step known =>
        rcases climbed_closed table [] start chain _ climbed _ _ known step with more | here
        · exact more
        · exact Option.some.inj here ▸ passed
  rcases climbed_ahead table start chain _ climbed ancestor walk with known | ⟨_, here, rest⟩
  · exact known
  · exact closed ancestor (Option.some.inj here ▸ rest)

inductive Searched (ancestor : String) : List String → Option String → Bool → Prop
  | outside (seen : List String) : Searched ancestor seen none false
  | met (seen : List String) : Searched ancestor seen (some ancestor) true
  | around (seen : List String) (name : String) (other : name ≠ ancestor) (passed : name ∈ seen) :
      Searched ancestor seen (some name) false
  | up (seen : List String) (name : String) (answer : Bool) (other : name ≠ ancestor)
      (fresh : name ∉ seen)
      (rest : Searched ancestor (name :: seen) (parentName table name) answer) :
      Searched ancestor seen (some name) answer

-- By induction on the steps that are left: with the names that were passed they always add up to
-- the same number, which is more than the table has names.
theorem climb_searches (ancestor : String) (steps : Nat) (chain : List String)
    (current : Option String) (climbed : Climbed table [] start chain current)
    (enough : chain.length + steps = table.size + 3) :
    Searched table ancestor chain current
      (Interface.climb table ancestor steps chain current) := by
  induction steps generalizing chain current with
  | zero =>
      have bound := climbed_length table [] start chain current climbed
      omega
  | succ steps ih =>
      cases current with
      | none => exact .outside chain
      | some name =>
          rw [Interface.climb]
          by_cases same : name = ancestor
          · rw [if_pos same, same]
            exact .met chain
          · rw [if_neg same]
            by_cases again : chain.contains name = true
            · rw [if_pos again]
              exact .around chain name same (List.contains_iff_mem.mp again)
            · rw [if_neg again]
              rw [List.contains_iff_mem] at again
              refine .up chain name _ same again (ih (name :: chain) _ ?_ ?_)
              · exact .up chain name climbed List.not_mem_nil again
              · rw [List.length_cons]
                omega

theorem searched_iff (ancestor : String) (chain : List String) (current : Option String)
    (answer : Bool) (searched : Searched table ancestor chain current answer)
    (climbed : Climbed table [] start chain current) (unseen : ancestor ∉ chain) :
    answer = true ↔ Relation.ReflTransGen (Above table) start ancestor := by
  induction searched with
  | outside seen =>
      refine iff_of_false Bool.false_ne_true fun walk => ?_
      rcases climbed_ahead table start seen _ climbed ancestor walk with known | ⟨_, here, _⟩
      · exact unseen known
      · cases here
  | met seen =>
      exact iff_of_true rfl ((climbed_reaches table [] start seen _ climbed).2 ancestor rfl)
  | around seen name _ passed =>
      exact iff_of_false Bool.false_ne_true fun walk =>
        unseen (climbed_around table start seen name climbed passed ancestor walk)
  | up seen name _ other fresh _ ih =>
      exact ih (.up seen name climbed List.not_mem_nil fresh)
        (List.not_mem_cons_of_ne_of_not_mem (Ne.symm other) unseen)

end Climb

section Subclass

variable (table : Table Interface) (interface : Interface)
  (found : table.get? interface.name = some interface)

include found

theorem parent_climbed : Climbed table [] interface.name [interface.name] interface.parent := by
  have first : Climbed table [] interface.name [interface.name]
      (parentName table interface.name) :=
    .up [] interface.name .start List.not_mem_nil List.not_mem_nil
  rwa [parentName, found, Option.bind_some] at first

theorem subclass_searched (ancestor : String) (other : ancestor ≠ interface.name) :
    Searched table ancestor [interface.name] interface.parent
      (interface.isSubclassOf ancestor table) := by
  rw [Interface.isSubclassOf, if_neg other]
  refine climb_searches table interface.name ancestor _ _ _ (parent_climbed table interface found) ?_
  rw [List.length_singleton]
  omega

theorem is_subclass_of_iff (ancestor : String) :
    interface.isSubclassOf ancestor table = true ↔
      ancestor ≠ interface.name ∧ Relation.TransGen (Above table) interface.name ancestor := by
  by_cases same : ancestor = interface.name
  · rw [Interface.isSubclassOf, if_pos same]
    exact iff_of_false Bool.false_ne_true fun apart => apart.1 same
  · rw [searched_iff table interface.name ancestor _ _ _
      (subclass_searched table interface found ancestor same)
      (parent_climbed table interface found) (by rwa [List.mem_singleton]),
      Relation.reflTransGen_iff_eq_or_transGen]
    exact ⟨fun walk => ⟨same, walk.resolve_left same⟩, fun both => .inr both.2⟩

end Subclass

theorem lineage_above_start (table : Table Interface) (start : String) (chain : List Interface)
    (lineage : Lineage table (some start) chain) (interface : Interface)
    (member : interface ∈ chain) :
    ∃ name, table.get? name = some interface ∧
      Relation.ReflTransGen (Above table) start name := by
  generalize first : some start = name at lineage
  induction lineage generalizing start with
  | top => cases first
  | outside => exact absurd member List.not_mem_nil
  | entry name lowest above found rest ih =>
      obtain rfl := Option.some.inj first
      rcases List.mem_cons.mp member with rfl | higher
      · exact ⟨start, found, .refl⟩
      · cases parent : lowest.parent with
        | none =>
            rw [parent] at rest
            cases rest
            exact absurd higher List.not_mem_nil
        | some above =>
            have step : Above table start above := by
              rw [Above, parentName, found, Option.bind_some, parent]
            obtain ⟨name, present, walk⟩ := ih above higher parent.symm
            exact ⟨name, present, .head step walk⟩

def Inherits (table : Table Interface) (name ancestor : String) : Prop :=
  ∃ interface, table.get? name = some interface ∧ interface.isSubclassOf ancestor table = true

section Named

variable (table : Table Interface)
  (named : table.Each fun name interface => interface.name = name)

include named

theorem inherits_iff (name ancestor : String) :
    Inherits table name ancestor ↔
      ancestor ≠ name ∧ Relation.TransGen (Above table) name ancestor := by
  have own := Table.each_get _ table named name
  constructor
  · rintro ⟨interface, found, subclass⟩
    obtain rfl := own interface found
    exact (is_subclass_of_iff table interface found ancestor).mp subclass
  · rintro ⟨other, walk⟩
    obtain ⟨parent, step, _⟩ := Relation.TransGen.head'_iff.mp walk
    obtain ⟨interface, found, _⟩ := Option.bind_eq_some_iff.mp step
    obtain rfl := own interface found
    exact ⟨interface, found, (is_subclass_of_iff table interface found ancestor).mpr ⟨other, walk⟩⟩

theorem inherits_trans (name middle ancestor : String) (other : ancestor ≠ name)
    (first : Inherits table name middle) (second : Inherits table middle ancestor) :
    Inherits table name ancestor := by
  rw [inherits_iff table named] at first second ⊢
  exact ⟨other, first.2.trans second.2⟩

-- A name that a walk comes back to is its own parent, or else it and its parent are above each
-- other.
theorem cyclic_iff_mutual :
    Cyclic table ↔ (∃ name, Above table name name) ∨
      ∃ one other, one ≠ other ∧ Inherits table one other ∧ Inherits table other one := by
  constructor
  · rintro ⟨_, name, _, cycle⟩
    obtain ⟨parent, step, back⟩ := Relation.TransGen.head'_iff.mp cycle
    by_cases same : parent = name
    · exact .inl ⟨name, same ▸ step⟩
    · refine .inr ⟨name, parent, Ne.symm same, ?_, ?_⟩
      · exact (inherits_iff table named name parent).mpr ⟨same, .single step⟩
      · have walk := (Relation.reflTransGen_iff_eq_or_transGen.mp back).resolve_left (Ne.symm same)
        exact (inherits_iff table named parent name).mpr ⟨Ne.symm same, walk⟩
  · rintro (⟨name, step⟩ | ⟨one, other, _, up, down⟩)
    · exact ⟨name, name, .refl, .single step⟩
    · have walk := ((inherits_iff table named one other).mp up).2
      exact ⟨one, one, .refl, walk.trans ((inherits_iff table named other one).mp down).2⟩

end Named

theorem subclass_decides_reach (definitions : Definitions)
    (named : definitions.interfaces.Each fun name interface => interface.name = name) :
    (∀ name interface, definitions.interfaces.get? name = some interface → ∀ ancestor,
      (ancestor ≠ name → Searched definitions.interfaces ancestor [name] interface.parent
        (interface.isSubclassOf ancestor definitions.interfaces)) ∧
      (interface.isSubclassOf ancestor definitions.interfaces = true ↔
        ancestor ≠ name ∧ Relation.TransGen (Above definitions.interfaces) name ancestor)) ∧
    (∀ name middle ancestor, ancestor ≠ name → Inherits definitions.interfaces name middle →
      Inherits definitions.interfaces middle ancestor →
        Inherits definitions.interfaces name ancestor) ∧
    ((resolveInheritance definitions).failure ≠ none ↔
      (∃ name, Above definitions.interfaces name name) ∨
      ∃ one other, one ≠ other ∧ Inherits definitions.interfaces one other ∧
        Inherits definitions.interfaces other one) := by
  refine ⟨?_, inherits_trans definitions.interfaces named, ?_⟩
  · intro name interface found ancestor
    obtain rfl := Table.each_get _ _ named name interface found
    exact ⟨subclass_searched _ interface found ancestor, is_subclass_of_iff _ interface found ancestor⟩
  · rw [resolve_breaks_iff_cyclic]
    exact cyclic_iff_mutual definitions.interfaces named

theorem crossed_pair_refused :
    ∃ definitions,
      ofNode (Node.fileOf [(Node.interfaceOf "Low" []).inheriting "Left",
        (Node.interfaceOf "Left" []).inheriting "Right",
        (Node.interfaceOf "Right" []).inheriting "Left",
        (Node.interfaceOf "Stray" []).inheriting "Away"]) = .ok definitions ∧
      (definitions.interfaces.Each fun name interface => interface.name = name) ∧
      Inherits definitions.interfaces "Low" "Right" ∧
      ¬ Inherits definitions.interfaces "Left" "Left" ∧
      Inherits definitions.interfaces "Stray" "Away" ∧
      (resolveInheritance definitions).failure ≠ none := by
  obtain ⟨definitions, built⟩ : ∃ definitions, ofNode (Node.fileOf
    [(Node.interfaceOf "Low" []).inheriting "Left", (Node.interfaceOf "Left" []).inheriting "Right",
      (Node.interfaceOf "Right" []).inheriting "Left",
      (Node.interfaceOf "Stray" []).inheriting "Away"]) = .ok definitions := ⟨_, rfl⟩
  have named : definitions.interfaces.Each fun name interface => interface.name = name := by
    cases built
    exact List.forall_mem_cons.mpr ⟨rfl, List.forall_mem_cons.mpr ⟨rfl,
      List.forall_mem_cons.mpr ⟨rfl, List.forall_mem_singleton.mpr rfl⟩⟩⟩
  obtain ⟨decides, trans, breaks⟩ := subclass_decides_reach definitions named
  cases built
  refine ⟨_, rfl, named, ?_, ?_, ⟨_, rfl, rfl⟩, breaks.mpr (.inr ⟨"Left", "Right", by decide,
    ⟨_, rfl, rfl⟩, ⟨_, rfl, rfl⟩⟩)⟩
  · exact trans "Low" "Left" "Right" (by decide) ⟨_, rfl, rfl⟩ ⟨_, rfl, rfl⟩
  · rintro ⟨interface, found, subclass⟩
    exact ((decides "Left" interface found "Left").2.mp subclass).1 rfl

end WebIdl.Definitions
