import WebIdl.Proofs.ConstructorGrammar
import WebIdl.Proofs.DraftNotes

set_option autoImplicit false

namespace WebIdl

def Node.isIteration (child : Node) : Bool :=
  child.kind == "Iterable" || child.kind == "Maplike" || child.kind == "Setlike"

def Node.isConstructor (child : Node) : Bool := child.kind == "Constructor"

namespace ConstructorDeclaration

def convertedNames : List String :=
  ["ConstructorCallWith", "RaisesException", "MeasureAs", "Measure"]

theorem lifted_settled (entry : String × ExtAttrValue) (liftable : Liftable entry.1 entry.2)
    (named : entry.2.isCall = true → entry.1 = "NamedConstructor") :
    liftedName entry.1 ∈ convertedNames ∧ (liftedValue entry.1 entry.2).isCall = false := by
  have known : ∀ name ∈ metadataNames, liftedName name ∈ convertedNames ∧
      name ≠ "NamedConstructor" := by decide
  obtain ⟨listed, other⟩ := known entry.1 liftable.known
  refine ⟨listed, ?_⟩
  unfold liftedValue
  split
  · rfl
  · rfl
  · exact Bool.eq_false_iff.mpr fun call => other (named call)

theorem convert_all_settled (attrs converted : ExtAttrs) (calls : attrs.CallsNamed)
    (done : convertAll attrs = .ok converted) :
    converted.Settled ∧ ∀ key ∈ converted.keys, key ∈ convertedNames := by
  obtain ⟨liftable, told⟩ := (convert_all_iff attrs converted).mp done
  have settled : ∀ entry ∈ converted.entries,
      entry.1 ∈ convertedNames ∧ entry.2.isCall = false := by
    rw [told]
    exact List.forall_mem_map.mpr fun source member =>
      lifted_settled source (liftable source member) (calls source member)
  refine ⟨fun entry member => (settled entry member).2, fun key present => ?_⟩
  obtain ⟨entry, member, rfl⟩ := (Table.mem_keys_iff _ _).mp present
  exact (settled entry member).1

end ConstructorDeclaration

namespace Interface

inductive NamedBy (attrs : ExtAttrs) : List Operation → Prop
  | unnamed (absent : attrs.contains "NamedConstructor" = false) : NamedBy attrs []
  | named (name : String) (arguments : List Argument)
      (kept : attrs.get? "NamedConstructor" = some (.text name)) :
      NamedBy attrs [Operation.ofConstructor "NamedConstructor" arguments]

inductive MadeBy (node : Node) (interface : Interface) : Prop
  | operations (unnamed : interface.attrs.contains "NamedConstructor" = false)
      (plain : ∀ constructor ∈ interface.constructors, constructor.name = some "Constructor")
      (custom : ∀ constructor ∈ interface.customConstructors,
        constructor.name = some "CustomConstructor")
      (declared : (node.children.filter (·.isConstructor)).length =
        interface.constructors.length + interface.customConstructors.length)
  | named (name : String) (arguments : List Argument)
      (kept : interface.attrs.get? "NamedConstructor" = some (.text name))
      (only : interface.constructors = [Operation.ofConstructor "NamedConstructor" arguments])
      (noCustom : interface.customConstructors = [])
      (undeclared : node.children.filter (·.isConstructor) = [])

structure KeepsRules (node : Node) (interface : Interface) : Prop where
  distinct : interface.names.Nodup
  iterations : (node.children.filter (·.isIteration)).length = interface.iteration.toList.length
  oneIteration : (node.children.filter (·.isIteration)).length ≤ 1
  valueIterator : interface.iteration.any (·.isValueIterator) = true →
    interface.HasLength ∧ interface.HasGetterOf "unsigned long"
  namedProperties : interface.attrs.contains "LegacyUnenumerableNamedProperties" = true →
    interface.HasGetterOf "DOMString"
  forgeable : interface.attrs.contains "Unforgeable" = false
  settled : interface.attrs.Settled
  made : interface.MadeBy node

namespace Draft

theorem named_constructors_ok (attrs named : ExtAttrs) (constructors : List Operation)
    (split : namedConstructors attrs = .ok (constructors, named)) (calls : attrs.CallsNamed) :
    named.Settled ∧ NamedBy named constructors := by
  cases named_constructors_splits attrs named constructors split with
  | unnamed absent =>
      refine ⟨fun entry member => Bool.eq_false_iff.mpr fun call => ?_, .unnamed ?_⟩
      · have present := Table.get_of_mem attrs entry.1 entry.2 member
        rw [calls entry member call, absent] at present
        cases present
      · rw [Table.contains, absent, Option.isSome_none]
  | named name arguments pending =>
      refine ⟨fun entry member => Bool.eq_false_iff.mpr fun call => ?_, .named name arguments ?_⟩
      · have present := Table.get_of_mem _ entry.1 entry.2 member
        rw [Table.get_insert] at present
        by_cases same : "NamedConstructor" = entry.1
        · rw [if_pos same, Option.some.injEq] at present
          rw [← present] at call
          cases call
        · rw [if_neg same] at present
          exact same (calls entry (Table.mem_of_get attrs entry.1 entry.2 present) call).symm
      · rw [Table.get_insert, if_pos rfl]

theorem taken_attrs (draft next : Draft) (child : Node) (taken : Taken draft child next) :
    (child.kind ≠ "ExtAttributes" ∧ next.interface.attrs = draft.interface.attrs ∧
        next.interface.constructors = draft.interface.constructors ∧
        next.interface.customConstructors = draft.interface.customConstructors) ∨
      (child.kind = "ExtAttributes" ∧ ∃ attrs, ExtAttrs.ofNode child = .ok attrs ∧
        namedConstructors attrs = .ok (next.interface.constructors, next.interface.attrs) ∧
        next.interface.customConstructors = []) := by
  cases taken with
  | extAttrs attrs named constructors kind read split =>
      exact .inr ⟨kind, attrs, read, split, rfl⟩
  | operation operation noted kind _ note =>
      obtain ⟨_, _, same⟩ := noted_interface draft noted _ note
      refine .inl ⟨by simp [kind], ?_⟩
      simp [addOperation, same]
  | stringifier stringifier placed kind _ place =>
      refine .inl ⟨by simp [kind], ?_⟩
      cases place <;> exact ⟨rfl, rfl, rfl⟩
  | iteration iteration _ read =>
      have other : child.kind ≠ "ExtAttributes" :=
        ne_of_mem_of_not_mem (reads_iteration_kind child iteration read) (by decide)
      exact .inl ⟨other, rfl, rfl, rfl⟩
  | attributeMember _ kind => exact .inl ⟨by simp [kind], rfl, rfl, rfl⟩
  | constant _ kind => exact .inl ⟨by simp [kind], rfl, rfl, rfl⟩
  | customConstructor _ kind => exact .inl ⟨by simp [kind], rfl, rfl, rfl⟩
  | plainConstructor _ kind => exact .inl ⟨by simp [kind], rfl, rfl, rfl⟩
  | parent kind => exact .inl ⟨by simp [kind], rfl, rfl, rfl⟩

theorem noted_constructors (draft noted : Draft) (operation : Operation)
    (note : (draft.noteGetter operation).noteHandleEvent operation = .ok noted) :
    noted.constructors = draft.constructors ∧
      noted.customConstructors = draft.customConstructors ∧
      noted.constructorAttrs = draft.constructorAttrs := by
  have getter : ∀ draft : Draft, (draft.noteGetter operation).constructors = draft.constructors ∧
      (draft.noteGetter operation).customConstructors = draft.customConstructors ∧
      (draft.noteGetter operation).constructorAttrs = draft.constructorAttrs := by
    intro draft
    unfold noteGetter
    split
    · split <;> exact ⟨rfl, rfl, rfl⟩
    · exact ⟨rfl, rfl, rfl⟩
  rw [← (getter draft).1, ← (getter draft).2.1, ← (getter draft).2.2]
  unfold noteHandleEvent at note
  split at note
  · split at note
    · cases note
    · cases note
      exact ⟨rfl, rfl, rfl⟩
  · cases note
    exact ⟨rfl, rfl, rfl⟩

inductive Adds (draft : Draft) (child : Node) (next : Draft) : Prop
  | nothing (other : child.isConstructor = false)
      (plain : next.constructors = draft.constructors)
      (custom : next.customConstructors = draft.customConstructors)
      (attrs : next.constructorAttrs = draft.constructorAttrs) : Adds draft child next
  | custom (declaration : ConstructorDeclaration) (one : child.isConstructor = true)
      (written : declaration.Written child) (isCustom : declaration.isCustom = true)
      (same : next = { draft with
        customConstructors := draft.customConstructors ++ [declaration.constructor] }) :
      Adds draft child next
  | plain (declaration : ConstructorDeclaration) (one : child.isConstructor = true)
      (written : declaration.Written child) (isPlain : declaration.isCustom = false)
      (agree : draft.constructors ≠ [] →
        ConstructorDeclaration.checkAgreement draft.constructorAttrs declaration.attrs = .ok ())
      (same : next = { draft with
        constructors := draft.constructors ++ [declaration.constructor]
        constructorAttrs := draft.constructorAttrs.extend declaration.attrs }) :
      Adds draft child next

theorem taken_adds (draft next : Draft) (child : Node) (taken : Taken draft child next) :
    Adds draft child next := by
  cases taken with
  | customConstructor declaration kind read custom =>
      exact .custom declaration (by simp [Node.isConstructor, kind])
        (ConstructorDeclaration.of_node_written child declaration read) custom rfl
  | plainConstructor declaration kind read plain agree =>
      exact .plain declaration (by simp [Node.isConstructor, kind])
        (ConstructorDeclaration.of_node_written child declaration read) plain agree rfl
  | operation operation noted kind _ note =>
      obtain ⟨plain, custom, attrs⟩ := noted_constructors draft noted _ note
      exact .nothing (by simp [Node.isConstructor, kind]) plain custom attrs
  | stringifier stringifier placed kind _ place =>
      have other : child.isConstructor = false := by simp [Node.isConstructor, kind]
      cases place <;> exact .nothing other rfl rfl rfl
  | iteration iteration _ read =>
      have other : child.isConstructor = false :=
        beq_false_of_ne (ne_of_mem_of_not_mem (reads_iteration_kind child iteration read)
          (by decide))
      exact .nothing other rfl rfl rfl
  | attributeMember _ kind => exact .nothing (by simp [Node.isConstructor, kind]) rfl rfl rfl
  | constant _ kind => exact .nothing (by simp [Node.isConstructor, kind]) rfl rfl rfl
  | extAttrs _ _ _ kind => exact .nothing (by simp [Node.isConstructor, kind]) rfl rfl rfl
  | parent kind => exact .nothing (by simp [Node.isConstructor, kind]) rfl rfl rfl

structure SetAside (front : List Node) (draft : Draft) : Prop where
  plain : ∀ constructor ∈ draft.constructors, constructor.name = some "Constructor"
  custom : ∀ constructor ∈ draft.customConstructors,
    constructor.name = some "CustomConstructor"
  calls : draft.constructorAttrs.CallsNamed
  declared : (front.filter (·.isConstructor)).length =
    draft.constructors.length + draft.customConstructors.length

theorem nothing_set_aside (front : List Node) (draft : Draft) (setAside : SetAside front draft)
    (plain : draft.constructors = []) (custom : draft.customConstructors = []) :
    front.filter (·.isConstructor) = [] := by
  apply List.eq_nil_of_length_eq_zero
  rw [setAside.declared, plain, custom]
  rfl

theorem taken_set_aside (front : List Node) (draft next : Draft) (child : Node)
    (taken : Taken draft child next) (before : SetAside front draft) :
    SetAside (front ++ [child]) next := by
  cases taken_adds draft next child taken with
  | nothing other plain custom attrs =>
      constructor
      · rw [plain]
        exact before.plain
      · rw [custom]
        exact before.custom
      · rw [attrs]
        exact before.calls
      · rw [List.filter_append, List.filter_cons, other, plain, custom, ← before.declared]
        simp
  | custom declaration one written isCustom same =>
      subst same
      have named := ConstructorDeclaration.written_name child declaration written
      refine ⟨before.plain, ?_, before.calls, ?_⟩
      · intro constructor member
        rcases List.mem_append.mp member with earlier | last
        · exact before.custom constructor earlier
        · rw [List.mem_singleton.mp last, named, if_pos isCustom]
      · rw [List.filter_append, List.length_append, before.declared, List.filter_cons, one]
        simp [Nat.add_assoc]
  | plain declaration one written isPlain _ same =>
      subst same
      have named := ConstructorDeclaration.written_name child declaration written
      have calls := ConstructorDeclaration.written_calls child declaration written
      refine ⟨?_, before.custom, ExtAttrs.extend_calls _ _ before.calls calls, ?_⟩
      · intro constructor member
        rcases List.mem_append.mp member with earlier | last
        · exact before.plain constructor earlier
        · rw [List.mem_singleton.mp last, named, isPlain, if_neg Bool.false_ne_true]
      · rw [List.filter_append, List.length_append, before.declared, List.filter_cons, one]
        simp [Nat.add_right_comm]

theorem taken_iteration (draft next : Draft) (child : Node) (taken : Taken draft child next) :
    (child.isIteration = false ∧ next.interface.iteration = draft.interface.iteration) ∨
      (child.isIteration = true ∧ draft.interface.iteration = none ∧
        next.interface.iteration.isSome = true) := by
  cases taken with
  | iteration iteration first read =>
      have kind := reads_iteration_kind child iteration read
      exact .inr ⟨by simpa [Node.isIteration, or_assoc] using kind, first, rfl⟩
  | operation operation noted kind _ note =>
      obtain ⟨_, _, same⟩ := noted_interface draft noted _ note
      refine .inl ⟨by simp [Node.isIteration, kind], ?_⟩
      rw [addOperation, same]
  | stringifier stringifier placed kind _ place =>
      refine .inl ⟨by simp [Node.isIteration, kind], ?_⟩
      cases place <;> rfl
  | attributeMember _ kind => exact .inl ⟨by simp [Node.isIteration, kind], rfl⟩
  | constant _ kind => exact .inl ⟨by simp [Node.isIteration, kind], rfl⟩
  | extAttrs _ _ _ kind => exact .inl ⟨by simp [Node.isIteration, kind], rfl⟩
  | customConstructor _ kind => exact .inl ⟨by simp [Node.isIteration, kind], rfl⟩
  | plainConstructor _ kind => exact .inl ⟨by simp [Node.isIteration, kind], rfl⟩
  | parent kind => exact .inl ⟨by simp [Node.isIteration, kind], rfl⟩

-- What holds after every child about all that the last checks do not look at.
structure Kept (front : List Node) (draft : Draft) : Prop where
  settled : draft.interface.attrs.Settled
  named : NamedBy draft.interface.attrs draft.interface.constructors
  noCustom : draft.interface.customConstructors = []
  iterations : (front.filter (·.isIteration)).length = draft.interface.iteration.toList.length
  setAside : SetAside front draft

theorem taken_kept (front : List Node) (draft next : Draft) (child : Node)
    (taken : Taken draft child next) (before : Kept front draft) :
    Kept (front ++ [child]) next := by
  have making : next.interface.attrs.Settled ∧
      NamedBy next.interface.attrs next.interface.constructors ∧
      next.interface.customConstructors = [] := by
    rcases taken_attrs draft next child taken with
      ⟨_, attrs, constructors, custom⟩ | ⟨_, attrs, read, split, custom⟩
    · rw [attrs, constructors, custom]
      exact ⟨before.settled, before.named, before.noCustom⟩
    · have calls := ExtAttrs.of_node_calls child attrs read
      obtain ⟨settled, named⟩ := named_constructors_ok attrs _ _ split calls
      exact ⟨settled, named, custom⟩
  refine ⟨making.1, making.2.1, making.2.2, ?_, taken_set_aside front draft next child taken
    before.setAside⟩
  rw [List.filter_append, List.length_append, before.iterations]
  rcases taken_iteration draft next child taken with ⟨other, same⟩ | ⟨one, first, present⟩
  · rw [same, List.filter_cons, other]
    rfl
  · obtain ⟨iteration, found⟩ := Option.isSome_iff_exists.mp present
    rw [first, found, List.filter_cons, one]
    rfl

theorem take_all_kept (node : Node) (name : String) (draft : Draft)
    (taken : (start node name).takeAll node.children = .ok draft) : Kept node.children draft := by
  apply take_all_keeps_after Kept ?_ [] node.children _ draft taken
  · constructor
    · exact Table.empty_all _
    · exact .unnamed rfl
    · rfl
    · rfl
    · refine ⟨?_, ?_, ?_, rfl⟩
      all_goals
        intro member listed
        exact absurd listed List.not_mem_nil
  · intro front draft child next step before
    exact taken_kept front draft next child step before

theorem constructed_attrs (draft : Draft) (interface final : Interface)
    (constructed : Constructed draft interface final) (calls : draft.constructorAttrs.CallsNamed)
    (settled : interface.attrs.Settled) :
    final.attrs.Settled ∧ ∀ name ∉ ConstructorDeclaration.convertedNames,
      final.attrs.get? name = interface.attrs.get? name := by
  cases constructed with
  | without => exact ⟨settled, fun _ _ => rfl⟩
  | operations converted _ _ _ convert =>
      obtain ⟨fresh, known⟩ := ConstructorDeclaration.convert_all_settled _ converted calls convert
      refine ⟨ExtAttrs.extend_settled _ _ settled fresh, ?_⟩
      intro name other
      exact ExtAttrs.extend_other _ _ name fun listed => other (known name listed)

theorem constructed_made (node : Node) (draft : Draft) (interface final : Interface)
    (constructed : Constructed draft interface final) (setAside : SetAside node.children draft)
    (named : NamedBy interface.attrs interface.constructors)
    (noCustom : interface.customConstructors = [])
    (same : final.attrs.get? "NamedConstructor" = interface.attrs.get? "NamedConstructor") :
    final.MadeBy node := by
  cases constructed with
  | without plain custom =>
      have undeclared := nothing_set_aside node.children draft setAside plain custom
      generalize listed : interface.constructors = constructors at named
      cases named with
      | unnamed absent =>
          refine .operations absent ?_ ?_ ?_
          · simp [listed]
          · simp [noCustom]
          · rw [undeclared, listed, noCustom]
            rfl
      | named name arguments kept => exact .named name arguments kept listed noCustom undeclared
  | operations converted _ free =>
      rw [free] at named
      cases named with
      | unnamed absent =>
          refine .operations ?_ setAside.plain setAside.custom setAside.declared
          rwa [Table.contains, same]

end Draft

theorem of_node_keeps_rules (node : Node) (interface : Interface)
    (built : ofNode node = .ok interface) : interface.KeepsRules node := by
  have alone := of_node_on_its_own node interface built
  have summarises := of_node_summarises node interface built
  obtain ⟨name, draft, _, taken, finish⟩ := (of_node_ok_iff node interface).mp built
  have kept := Draft.take_all_kept node name draft taken
  have noted := Draft.take_all_noted node name draft taken
  obtain ⟨hasIndexedElements, namedProperties, indexed, forgeable, constructed⟩ :=
    Draft.finish_finished draft interface finish
  obtain ⟨_, _, _, shape⟩ := Draft.constructed_interface draft _ interface constructed
  obtain ⟨settled, same⟩ := Draft.constructed_attrs draft _ interface constructed
    kept.setAside.calls kept.settled
  have iteration : interface.iteration = draft.interface.iteration := by rw [shape]
  constructor
  · exact alone.distinct
  · rw [kept.iterations, iteration]
  · rw [kept.iterations]
    cases draft.interface.iteration <;> simp
  · intro iterator
    rw [iteration] at iterator
    have present : interface.hasIndexedElements = true := by
      rw [shape]
      exact (Draft.indexed_elements_ok draft hasIndexedElements indexed
        noted.indexedElements).2 iterator
    rw [summarises.indexedElements, Bool.and_eq_true] at present
    exact ⟨summarised_length interface _ summarises present.1,
      summarised_getter interface _ summarises _ present.2⟩
  · intro unenumerable
    rw [Table.contains, same _ (by decide)] at unenumerable
    have getter : interface.hasNamedGetter = true := by
      rw [shape]
      exact namedProperties unenumerable
    exact summarised_getter interface _ summarises _ (summarises.namedGetter ▸ getter)
  · rwa [Table.contains, same _ (by decide)]
  · exact settled
  · exact Draft.constructed_made node draft _ interface constructed kept.setAside kept.named
      kept.noCustom (same _ (by decide))

def imageList : Node :=
  (Node.interfaceOf "Images" []).withChildren
    [Node.attributeOf "length" "unsigned long",
      Node.getterOf "item" (Node.typeOf "PrimitiveType" "unsigned long"),
      Node.getterOf "namedItem" (Node.typeOf "StringType" "DOMString"),
      (Node.leaf "Iterable").withChild (Node.typeOf "PrimitiveType" "long"),
      (Node.attrsOf ["LegacyUnenumerableNamedProperties"]).withChild
        (((Node.leaf "ExtAttribute").named "NamedConstructor").withChild
          (((Node.leaf "Call").named "Image").withChild (Node.leaf "Arguments")))]

theorem image_list_keeps_rules :
    ∃ interface, ofNode imageList = .ok interface ∧ interface.KeepsRules imageList ∧
      interface.iteration.any (·.isValueIterator) = true ∧
      interface.constructors.map (·.name) = [some "NamedConstructor"] :=
  ⟨_, rfl, of_node_keeps_rules _ _ rfl, rfl, rfl⟩

end Interface

end WebIdl
