import Mathlib.Data.List.Perm.Subperm
import WebIdl.Proofs.Declarations
import WebIdl.Proofs.Lineage

set_option autoImplicit false

namespace WebIdl.Definitions

-- A walk from `start` that has passed `chain`, the highest first, and looks at the second argument.
inductive Climbed (table : Table Interface) (resolved : List String) (start : String) :
    List String → Option String → Prop
  | start : Climbed table resolved start [] (some start)
  | up (chain : List String) (name : String)
      (earlier : Climbed table resolved start chain (some name)) (unresolved : name ∉ resolved)
      (fresh : name ∉ chain) :
      Climbed table resolved start (name :: chain) (parentName table name)

section Walk

variable (table : Table Interface) (resolved : List String) (start : String)

theorem climbed_nodup (chain : List String) (current : Option String)
    (climbed : Climbed table resolved start chain current) : chain.Nodup := by
  induction climbed with
  | start => exact List.nodup_nil
  | up chain name _ _ fresh ih => exact List.nodup_cons.mpr ⟨fresh, ih⟩

theorem climbed_unresolved (chain : List String) (current : Option String)
    (climbed : Climbed table resolved start chain current) : ∀ name ∈ chain, name ∉ resolved := by
  induction climbed with
  | start => simp
  | up chain name _ unresolved _ ih =>
      intro other member
      rcases List.mem_cons.mp member with same | earlier
      · rwa [same]
      · exact ih other earlier

theorem climbed_above (chain : List String) (current : Option String)
    (climbed : Climbed table resolved start chain current) (name : String)
    (here : current = some name) :
    ∀ passed ∈ chain, Relation.TransGen (Above table) passed name := by
  induction climbed generalizing name with
  | start => simp
  | up chain last _ _ _ ih =>
      intro passed member
      have step : Above table last name := here
      rcases List.mem_cons.mp member with same | earlier
      · rw [same]
        exact .single step
      · exact .tail (ih last rfl passed earlier) step

theorem above_listed (child parent : String) (step : Above table child parent) :
    child ∈ table.keys := by
  rw [← Table.contains_iff, Table.contains, Option.isSome_iff_ne_none]
  intro missing
  simp [Above, parentName, missing] at step

theorem climbed_length (chain : List String) (current : Option String)
    (climbed : Climbed table resolved start chain current) : chain.length ≤ table.size + 1 := by
  cases climbed with
  | start => simp
  | up chain name earlier _ _ =>
      have listed : chain ⊆ table.keys := by
        intro passed member
        have walk := climbed_above table resolved start chain _ earlier name rfl passed member
        obtain ⟨parent, step, _⟩ := Relation.TransGen.head'_iff.mp walk
        exact above_listed table passed parent step
      have bound := (List.subperm_of_subset (climbed_nodup table resolved start chain _ earlier)
        listed).length_le
      simpa [Table.keys_eq, Table.size] using bound

theorem climbed_start (chain : List String) (current : Option String)
    (climbed : Climbed table resolved start chain current) :
    start ∈ chain ∨ current = some start := by
  induction climbed with
  | start => exact .inr rfl
  | up chain name _ _ _ ih =>
      refine .inl ?_
      rcases ih with member | here
      · exact List.mem_cons_of_mem name member
      · rw [Option.some.inj here]
        exact List.mem_cons_self

theorem climbed_closed (chain : List String) (current : Option String)
    (climbed : Climbed table resolved start chain current) (passed parent : String)
    (member : passed ∈ chain) (step : Above table passed parent) :
    parent ∈ chain ∨ current = some parent := by
  induction climbed with
  | start => exact absurd member List.not_mem_nil
  | up chain name _ _ _ ih =>
      rcases List.mem_cons.mp member with rfl | earlier
      · exact .inr step
      · rcases ih earlier with known | here
        · exact .inl (List.mem_cons_of_mem name known)
        · exact .inl (Option.some.inj here ▸ List.mem_cons_self)

theorem climbed_reaches (chain : List String) (current : Option String)
    (climbed : Climbed table resolved start chain current) :
    (∀ passed ∈ chain, Relation.ReflTransGen (Above table) start passed) ∧
      ∀ name, current = some name → Relation.ReflTransGen (Above table) start name := by
  induction climbed with
  | start => exact ⟨List.forall_mem_nil _, fun name here => Option.some.inj here ▸ .refl⟩
  | up chain name _ _ _ ih =>
      obtain ⟨passed, here⟩ := ih
      have last := here name rfl
      exact ⟨List.forall_mem_cons.mpr ⟨last, passed⟩, fun parent step => last.tail step⟩

-- The steps that are left and the names that were passed always add up to the same number, so the
-- walk ends for a reason of its own before it runs out of steps.
theorem chain_from_climbs (steps : Nat) (chain : List String) (current : Option String)
    (climbed : Climbed table resolved start chain current)
    (enough : chain.length + steps = table.size + 2) :
    match chainFrom table resolved steps chain current with
    | .error error => ∃ name, Relation.ReflTransGen (Above table) start name ∧
        Returns table name ∧ error = .inheritanceCycle name
    | .ok whole => ∃ last, Climbed table resolved start whole last ∧
        ∀ name, last = some name → name ∈ resolved := by
  induction steps generalizing chain current with
  | zero =>
      have bound := climbed_length table resolved start chain current climbed
      omega
  | succ steps ih =>
      cases current with
      | none => exact ⟨none, climbed, by simp⟩
      | some name =>
          rw [chainFrom]
          by_cases known : resolved.contains name = true
          · rw [if_pos known]
            refine ⟨some name, climbed, ?_⟩
            rintro _ ⟨⟩
            exact List.contains_iff_mem.mp known
          · rw [if_neg known]
            by_cases again : chain.contains name = true
            · rw [if_pos again]
              have walk := (climbed_reaches table resolved start chain _ climbed).2 name rfl
              exact ⟨name, walk, climbed_above table resolved start chain _ climbed name rfl name
                (List.contains_iff_mem.mp again), rfl⟩
            · rw [if_neg again]
              rw [List.contains_iff_mem] at known again
              exact ih (name :: chain) _ (.up chain name climbed known again)
                (by rw [List.length_cons]; omega)

end Walk

def Ready (next : String → Option String) (done : List String) : List String → Prop
  | [] => True
  | name :: rest =>
      name ∉ done ∧ (∀ parent, next name = some parent → parent ∈ done) ∧
        Ready next (name :: done) rest

theorem climbed_ready (table : Table Interface) (resolved : List String) (start : String)
    (chain : List String) (current : Option String)
    (climbed : Climbed table resolved start chain current) (done : List String)
    (above : ∀ name, current = some name → name ∈ done) (open' : ∀ name ∈ chain, name ∉ done) :
    Ready (parentName table) done chain := by
  induction climbed generalizing done with
  | start => trivial
  | up chain name _ _ fresh ih =>
      refine ⟨open' name List.mem_cons_self, above, ih (name :: done) ?_ ?_⟩
      · rintro _ ⟨⟩
        exact List.mem_cons_self
      · intro other member listed
        rcases List.mem_cons.mp listed with same | earlier
        · exact fresh (same ▸ member)
        · exact open' other (List.mem_cons_of_mem name member) earlier

-- What holds between two interfaces of the resolution: those that count as resolved have all that
-- their lineage gives them, the others are as they were.
structure Progress (original : Table Interface) (state : Resolution) : Prop where
  keys : state.table.keys = original.keys
  settled : ∀ name interface, name ∈ state.resolved → original.get? name = some interface →
    ∃ above, Lineage original interface.parent above ∧
      state.table.get? name = some (interface.withAbove above)
  untouched : ∀ name, name ∉ state.resolved → state.table.get? name = original.get? name

theorem progress_missing (original : Table Interface) (state : Resolution)
    (progress : Progress original state) (name : String) (missing : original.get? name = none) :
    state.table.get? name = none := by
  rw [Table.get_eq_none_iff] at missing ⊢
  rwa [progress.keys]

theorem progress_parents (original : Table Interface) (state : Resolution)
    (progress : Progress original state) : parentName state.table = parentName original := by
  funext name
  unfold parentName
  cases found : original.get? name with
  | none => rw [progress_missing original state progress name found]
  | some interface =>
      by_cases known : name ∈ state.resolved
      · obtain ⟨above, _, value⟩ := progress.settled name interface known found
        rw [value, Option.bind_some, Option.bind_some, Interface.with_above_parent]
      · rw [progress.untouched name known, found]

theorem inherit_one_keys (table : Table Interface) (name : String) :
    (inheritOne table name).keys = table.keys := by
  unfold inheritOne
  cases related : parentOf table name with
  | none => rfl
  | some pair =>
      obtain ⟨interface, parent⟩ := pair
      obtain ⟨_, found, _, _⟩ := parent_of_some table name interface parent related
      exact Table.keys_insert_present table name _ (by simp [Table.contains, found])

theorem inherit_one_other (table : Table Interface) (name other : String)
    (different : other ≠ name) : (inheritOne table name).get? other = table.get? other := by
  unfold inheritOne
  cases parentOf table name with
  | none => rfl
  | some pair => rw [Table.get_insert, if_neg (Ne.symm different)]

theorem inherit_one_settles (original : Table Interface) (state : Resolution)
    (progress : Progress original state) (name : String) (interface : Interface)
    (found : original.get? name = some interface) (unresolved : name ∉ state.resolved)
    (above : ∀ parent, parentName original name = some parent → parent ∈ state.resolved) :
    ∃ chain, Lineage original interface.parent chain ∧
      (inheritOne state.table name).get? name = some (interface.withAbove chain) := by
  have here : state.table.get? name = some interface := by
    rw [progress.untouched name unresolved, found]
  cases named : interface.parent with
  | none =>
      refine ⟨[], .top, ?_⟩
      have alone : parentOf state.table name = none := by simp [parentOf, here, named]
      rw [inheritOne, alone]
      exact here
  | some parent =>
      cases present : original.get? parent with
      | none =>
          refine ⟨[], .outside parent present, ?_⟩
          have missing := progress_missing original state progress parent present
          have alone : parentOf state.table name = none := by simp [parentOf, here, named, missing]
          rw [inheritOne, alone]
          exact here
      | some whole =>
          have settled : parent ∈ state.resolved :=
            above parent (by simp [parentName, found, named])
          obtain ⟨chain, lineage, value⟩ := progress.settled parent whole settled present
          refine ⟨whole :: chain, .entry parent whole chain present lineage, ?_⟩
          have related : parentOf state.table name = some (interface, whole.withAbove chain) := by
            simp [parentOf, here, named, value]
          rw [inheritOne, related, Table.get_insert, if_pos rfl]
          rfl

theorem inherit_one_progress (original : Table Interface) (state : Resolution)
    (progress : Progress original state) (name : String) (unresolved : name ∉ state.resolved)
    (above : ∀ parent, parentName original name = some parent → parent ∈ state.resolved) :
    Progress original ⟨inheritOne state.table name, name :: state.resolved⟩ := by
  constructor
  · rw [inherit_one_keys, progress.keys]
  · intro other interface member found
    by_cases same : other = name
    · subst other
      exact inherit_one_settles original state progress name interface found unresolved above
    · rw [inherit_one_other state.table name other same]
      exact progress.settled other interface ((List.mem_cons.mp member).resolve_left same) found
  · intro other absent
    rw [List.mem_cons, not_or] at absent
    rw [inherit_one_other state.table name other absent.1]
    exact progress.untouched other absent.2

theorem ready_progress (original : Table Interface) (chain : List String) (state : Resolution)
    (progress : Progress original state)
    (ready : Ready (parentName original) state.resolved chain) :
    Progress original ⟨chain.foldl inheritOne state.table, chain.reverse ++ state.resolved⟩ := by
  induction chain generalizing state with
  | nil => exact progress
  | cons name rest ih =>
      obtain ⟨unresolved, above, later⟩ := ready
      have next := inherit_one_progress original state progress name unresolved above
      rw [List.foldl_cons, List.reverse_cons, List.append_assoc, List.singleton_append]
      exact ih _ next later

def Reached (table : Table Interface) (front : List String) (name : String) : Prop :=
  ∃ earlier ∈ front, Relation.ReflTransGen (Above table) earlier name

theorem reached_grows (table : Table Interface) (resolved front : List String) (name : String)
    (chain : List String) (last : Option String)
    (climbed : Climbed table resolved name chain last)
    (ended : ∀ other, last = some other → other ∈ resolved)
    (reached : ∀ other, other ∈ resolved ↔ Reached table front other) (other : String) :
    other ∈ chain.reverse ++ resolved ↔ Reached table (front ++ [name]) other := by
  rw [List.mem_append, List.mem_reverse]
  constructor
  · rintro (passed | known)
    · have walk := (climbed_reaches table resolved name chain last climbed).1 other passed
      exact ⟨name, List.mem_append_right _ (List.mem_singleton_self name), walk⟩
    · obtain ⟨earlier, listed, walk⟩ := (reached other).mp known
      exact ⟨earlier, List.mem_append_left _ listed, walk⟩
  · rintro ⟨earlier, listed, walk⟩
    rcases List.mem_append.mp listed with before | here
    · exact .inr ((reached other).mpr ⟨earlier, before, walk⟩)
    · obtain rfl := List.mem_singleton.mp here
      induction walk with
      | refl =>
          exact (climbed_start table resolved earlier chain last climbed).imp_right (ended earlier)
      | tail _ step ih =>
          rcases ih with passed | known
          · exact (climbed_closed table resolved earlier chain last climbed _ _ passed
              step).imp_right (ended _)
          · obtain ⟨first, among, walk⟩ := (reached _).mp known
            exact .inr ((reached _).mpr ⟨first, among, walk.tail step⟩)

structure Settles (original : Table Interface) (front : List String) (state : Resolution) : Prop
    extends Progress original state where
  reached : ∀ name, name ∈ state.resolved ↔ Reached original front name

-- One step of the resolution either settles a further name or meets a cycle of the table that it
-- started from, and changes nothing then.
theorem resolve_one_settles (original : Table Interface) (front : List String)
    (state : Resolution) (name : String) (settles : Settles original front state) :
    match (resolveOne state name).failure with
    | some error => (resolveOne state name).state = state ∧
        ∃ middle, Relation.ReflTransGen (Above original) name middle ∧ Returns original middle ∧
          error = .inheritanceCycle middle
    | none => Settles original (front ++ [name]) (resolveOne state name).state := by
  have progress := settles.toProgress
  have parents := progress_parents original state progress
  have edges : Above state.table = Above original := by
    unfold Above
    rw [parents]
  have climbs := chain_from_climbs state.table state.resolved name (state.table.size + 2) []
    (some name) .start (by simp)
  unfold resolveOne chainOf
  cases walked : chainFrom state.table state.resolved (state.table.size + 2) [] (some name) with
  | error error =>
      rw [walked] at climbs
      obtain ⟨middle, walk, cycle, named⟩ := climbs
      rw [edges] at walk
      rw [Returns, edges] at cycle
      exact ⟨rfl, middle, walk, cycle, named⟩
  | ok chain =>
      rw [walked] at climbs
      obtain ⟨last, climbed, ended⟩ := climbs
      have ready := climbed_ready state.table state.resolved name chain last climbed
        state.resolved ended (climbed_unresolved state.table state.resolved name chain last climbed)
      have grows := reached_grows state.table state.resolved front name chain last climbed ended
      rw [parents] at ready
      simp only [Reached, edges] at grows
      exact ⟨ready_progress original chain state progress ready, grows settles.reached⟩

theorem resolve_settles (table : Table Interface) (front : List String)
    (went : (Attempt.each resolveOne front ⟨table, []⟩).failure = none) :
    Settles table front (Attempt.each resolveOne front ⟨table, []⟩).state := by
  refine Attempt.each_keeps_after resolveOne (Settles table) ?_ [] front _ went
    ⟨⟨rfl, fun _ _ member => (nomatch member), fun _ _ => rfl⟩, ?_⟩
  · intro front state name step settles
    have next := resolve_one_settles table front state name settles
    rwa [step] at next
  · simp [Reached]

theorem settled_no_return (original : Table Interface) (front : List String) (state : Resolution)
    (settles : Settles original front state) (name : String)
    (reached : Reached original front name) : ¬ Returns original name := by
  intro cycle
  obtain ⟨interface, found⟩ := returns_found original name cycle
  have known := (settles.reached name).mpr reached
  obtain ⟨above, lineage, _⟩ := settles.settled name interface known found
  exact lineage_no_return original name _ (.entry name interface above found lineage) cycle

theorem resolve_broken (table : Table Interface) (names : List String) (error : IdlError)
    (broke : (Attempt.each resolveOne names ⟨table, []⟩).failure = some error) :
    ∃ front start back, names = front ++ start :: back ∧
      Settles table front (Attempt.each resolveOne names ⟨table, []⟩).state ∧
      ∃ middle, Relation.ReflTransGen (Above table) start middle ∧ Returns table middle ∧
        error = .inheritanceCycle middle := by
  obtain ⟨front, start, back, split, went, broke, ended⟩ :=
    Attempt.each_broken resolveOne names _ error broke
  have settles := resolve_settles table front went
  have last := resolve_one_settles table front _ start settles
  rw [broke] at last
  refine ⟨front, start, back, split, ?_, last.2⟩
  rwa [ended, last.1]

theorem resolve_inheritance_spec (definitions : Definitions) :
    match (resolveInheritance definitions).failure with
    | some error =>
        ∃ name, Returns definitions.interfaces name ∧ error = .inheritanceCycle name
    | none => (resolveInheritance definitions).state.interfaces.keys =
          definitions.interfaces.keys ∧
        ∀ name interface, definitions.interfaces.get? name = some interface →
          ∃ above, Lineage definitions.interfaces interface.parent above ∧
            (resolveInheritance definitions).state.interfaces.get? name =
              some (interface.withAbove above) := by
  change match (Attempt.each resolveOne definitions.interfaces.keys
    ⟨definitions.interfaces, []⟩).failure with | some _ => _ | none => _
  cases ended : (Attempt.each resolveOne definitions.interfaces.keys
      ⟨definitions.interfaces, []⟩).failure with
  | some error =>
      obtain ⟨_, _, _, _, _, middle, _, cycle, named⟩ := resolve_broken _ _ error ended
      exact ⟨middle, cycle, named⟩
  | none =>
      have settles := resolve_settles _ _ ended
      refine ⟨settles.keys, ?_⟩
      intro name interface found
      have listed := Table.mem_keys_of_get definitions.interfaces name interface found
      exact settles.settled name interface ((settles.reached name).mpr ⟨name, listed, .refl⟩) found

theorem resolve_breaks_iff_cyclic (definitions : Definitions) :
    (resolveInheritance definitions).failure ≠ none ↔ Cyclic definitions.interfaces := by
  have spec := resolve_inheritance_spec definitions
  cases ended : (resolveInheritance definitions).failure with
  | some error =>
      rw [ended] at spec
      obtain ⟨name, cycle, _⟩ := spec
      exact ⟨fun _ => ⟨name, name, .refl, cycle⟩, fun _ => by simp⟩
  | none =>
      rw [ended] at spec
      refine ⟨fun broke => absurd rfl broke, ?_⟩
      rintro ⟨_, name, _, cycle⟩
      obtain ⟨interface, found⟩ := returns_found definitions.interfaces name cycle
      obtain ⟨above, lineage, _⟩ := spec.2 name interface found
      have whole := Lineage.entry name interface above found lineage
      exact absurd cycle (lineage_no_return _ name _ whole)

theorem lineage_congr (table other : Table Interface)
    (same : ∀ name, other.get? name = table.get? name) (name : Option String)
    (chain : List Interface) (lineage : Lineage table name chain) : Lineage other name chain := by
  induction lineage with
  | top => exact .top
  | outside name missing => exact .outside name (by rw [same, missing])
  | entry name interface above found _ ih =>
      exact .entry name interface above (by rw [same, found]) ih

theorem cyclic_congr (table other : Table Interface)
    (same : ∀ name, other.get? name = table.get? name) : Cyclic other ↔ Cyclic table := by
  have edges : Above other = Above table := by
    funext child parent
    rw [Above, Above, parentName, parentName, same]
  unfold Cyclic Returns
  rw [edges]

theorem resolved_missing (definitions : Definitions)
    (done : (resolveInheritance definitions).failure = none) (name : String)
    (missing : definitions.interfaces.get? name = none) :
    (resolveInheritance definitions).state.interfaces.get? name = none := by
  have spec := resolve_inheritance_spec definitions
  rw [done] at spec
  rw [Table.get_eq_none_iff] at missing ⊢
  rwa [spec.1]

-- The order of a table decides nothing: neither whether there is a cycle nor what an interface
-- gets.
theorem resolve_order_free (definitions other : Definitions)
    (same : ∀ name, other.interfaces.get? name = definitions.interfaces.get? name) :
    ((resolveInheritance other).failure = none ↔
      (resolveInheritance definitions).failure = none) ∧
    ((resolveInheritance definitions).failure = none → ∀ name,
      (resolveInheritance other).state.interfaces.get? name =
        (resolveInheritance definitions).state.interfaces.get? name) := by
  have breaks : (resolveInheritance other).failure = none ↔
      (resolveInheritance definitions).failure = none := by
    rw [← not_iff_not, ← ne_eq, ← ne_eq, resolve_breaks_iff_cyclic, resolve_breaks_iff_cyclic]
    exact cyclic_congr _ _ same
  refine ⟨breaks, fun done name => ?_⟩
  have done' := breaks.mpr done
  cases found : definitions.interfaces.get? name with
  | none =>
      have missing : other.interfaces.get? name = none := by rw [same, found]
      rw [resolved_missing definitions done name found, resolved_missing other done' name missing]
  | some interface =>
      have spec := resolve_inheritance_spec definitions
      have spec' := resolve_inheritance_spec other
      rw [done] at spec
      rw [done'] at spec'
      obtain ⟨above, lineage, value⟩ := spec.2 name interface found
      obtain ⟨above', lineage', value'⟩ := spec'.2 name interface (by rw [same, found])
      have carried := lineage_congr _ other.interfaces same _ above lineage
      rw [value, value', lineage_unique other.interfaces _ above' above lineage' carried]

theorem inheritance_resolves_to_nearest (definitions : Definitions) :
    ((resolveInheritance definitions).failure ≠ none ↔ Cyclic definitions.interfaces) ∧
    (∀ error, (resolveInheritance definitions).failure = some error →
      ∃ name, Returns definitions.interfaces name ∧ error = .inheritanceCycle name) ∧
    ((resolveInheritance definitions).failure = none →
      (resolveInheritance definitions).state.interfaces.keys = definitions.interfaces.keys ∧
      ∀ name interface, definitions.interfaces.get? name = some interface →
        ∃ above resolved, Lineage definitions.interfaces interface.parent above ∧
          (resolveInheritance definitions).state.interfaces.get? name = some resolved ∧
          interface.AnswersNearest above resolved) ∧
    ∀ other : Definitions,
      (∀ name, other.interfaces.get? name = definitions.interfaces.get? name) →
        ((resolveInheritance other).failure = none ↔
          (resolveInheritance definitions).failure = none) ∧
        ((resolveInheritance definitions).failure = none → ∀ name,
          (resolveInheritance other).state.interfaces.get? name =
            (resolveInheritance definitions).state.interfaces.get? name) := by
  have spec := resolve_inheritance_spec definitions
  refine ⟨resolve_breaks_iff_cyclic definitions, ?_, ?_, resolve_order_free definitions⟩
  · intro error broke
    rwa [broke] at spec
  · intro done
    rw [done] at spec
    obtain ⟨keys, resolved⟩ := spec
    refine ⟨keys, ?_⟩
    intro name interface found
    obtain ⟨above, lineage, value⟩ := resolved name interface found
    exact ⟨above, interface.withAbove above, lineage, value, interface.with_above_answers above⟩

theorem leaf_before_root_resolves :
    ∃ definitions leaf above resolved,
      ofNode (Node.fileOf [(Node.interfaceOf "Leaf" ["x", "z"]).inheriting "Middle",
        Node.interfaceOf "Root" ["x", "y"],
        (Node.interfaceOf "Middle" ["y"]).inheriting "Root"]) = .ok definitions ∧
      definitions.interfaces.get? "Leaf" = some leaf ∧
      (resolveInheritance definitions).failure = none ∧
      (resolveInheritance definitions).state.interfaces.get? "Leaf" = some resolved ∧
      Lineage definitions.interfaces (some "Middle") above ∧
      leaf.AnswersNearest above resolved ∧
      resolved.names = ["x", "z", "y"] := by
  obtain ⟨definitions, built⟩ : ∃ definitions, ofNode (Node.fileOf
    [(Node.interfaceOf "Leaf" ["x", "z"]).inheriting "Middle",
      Node.interfaceOf "Root" ["x", "y"],
      (Node.interfaceOf "Middle" ["y"]).inheriting "Root"]) = .ok definitions := ⟨_, rfl⟩
  have resolves := (inheritance_resolves_to_nearest definitions).2.2.1
  cases built
  obtain ⟨above, resolved, lineage, found, answers⟩ := (resolves rfl).2 "Leaf" _ rfl
  cases found
  exact ⟨_, _, _, _, rfl, rfl, rfl, rfl, lineage, answers, rfl⟩

end WebIdl.Definitions
