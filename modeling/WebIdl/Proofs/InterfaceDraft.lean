import WebIdl.Attempt
import WebIdl.Interface.OfNode
import WebIdl.Proofs.AttributeIndex

set_option autoImplicit false

/- What each kind of child does to an interface that is being read. Every invariant of the reading
   is one case analysis over `Draft.Taken` and one induction over the children. -/
namespace WebIdl.Interface.Draft

def pushAttribute (draft : Draft) (item : Attribute) : Draft :=
  { draft with
    interface :=
      { draft.interface with
        attributes := draft.interface.attributes.push item
        eventHandlers :=
          draft.interface.eventHandlers ++ if item.isEventHandler then [item] else [] } }

def noteLength (draft : Draft) (item : Attribute) : Draft :=
  { draft with
    hasIntegerLength := draft.hasIntegerLength || item.type.isInteger && item.name == "length" }

def owned (draft : Draft) (item : Attribute) : Attribute :=
  { item with definedIn := some draft.interface.name }

def ownedOperation (draft : Draft) (operation : Operation) : Operation :=
  { operation with definedIn := some draft.interface.name }

theorem add_attribute_ok_iff (draft next : Draft) (item : Attribute) :
    draft.addAttribute item = .ok next ↔
      draft.interface.attributes.contains item.name = false ∧ next = draft.pushAttribute item := by
  unfold addAttribute
  by_cases present : draft.interface.attributes.contains item.name = true
  · simp [present]
  · have absent : draft.interface.attributes.contains item.name = false := by simpa using present
    simp only [absent, Bool.false_eq_true, if_false, Except.ok.injEq, true_and]
    exact eq_comm

inductive Placed (draft : Draft) (stringifier : Stringifier) : Draft → Prop
  | attributeMember (item : Attribute) (holds : stringifier.attributeMember = some item)
      (fresh : draft.interface.attributes.contains item.name = false) :
      Placed draft stringifier (draft.pushAttribute (draft.owned item))
  | operation (operation : Operation) (free : stringifier.attributeMember = none)
      (holds : stringifier.operationMember = some operation) :
      Placed draft stringifier (draft.addOperation (draft.ownedOperation operation))
  | nothing (free : stringifier.attributeMember = none)
      (bare : stringifier.operationMember = none) : Placed draft stringifier draft

def ReadsIteration (child : Node) (iteration : Iteration) : Prop :=
  child.kind = "Iterable" ∧
      Iteration.ofNode "iterable" Iteration.iterableOf child = .ok iteration ∨
    child.kind = "Maplike" ∧
      Iteration.ofNode "maplike" (Iteration.maplikeOf (child.flag "READONLY")) child =
        .ok iteration ∨
    child.kind = "Setlike" ∧
      Iteration.ofNode "setlike" (Iteration.setlikeOf (child.flag "READONLY")) child =
        .ok iteration

theorem reads_iteration_kind (child : Node) (iteration : Iteration)
    (read : ReadsIteration child iteration) :
    child.kind ∈ ["Iterable", "Maplike", "Setlike"] := by
  rcases read with ⟨kind, _⟩ | ⟨kind, _⟩ | ⟨kind, _⟩ <;> simp [kind]

inductive Taken (draft : Draft) (child : Node) : Draft → Prop
  | attributeMember (item : Attribute) (kind : child.kind = "Attribute")
      (read : Attribute.ofNode child = .ok item)
      (fresh : draft.interface.attributes.contains item.name = false) :
      Taken draft child ((draft.noteLength item).pushAttribute (draft.owned item))
  | constant (constant : Constant) (kind : child.kind = "Const")
      (read : Constant.ofNode child = .ok constant) :
      Taken draft child { draft with
        interface :=
          { draft.interface with
            constants := draft.interface.constants ++
              [{ constant with definedIn := some draft.interface.name }] } }
  | extAttrs (attrs named : ExtAttrs) (constructors : List Operation)
      (kind : child.kind = "ExtAttributes") (read : ExtAttrs.ofNode child = .ok attrs)
      (split : namedConstructors attrs = .ok (constructors, named)) :
      Taken draft child { draft with
        interface :=
          { draft.interface with attrs := named, constructors, customConstructors := [] } }
  | operation (operation : Operation) (noted : Draft) (kind : child.kind = "Operation")
      (read : Operation.ofNode child = .ok operation)
      (note : (draft.noteGetter (draft.ownedOperation operation)).noteHandleEvent
        (draft.ownedOperation operation) = .ok noted) :
      Taken draft child (noted.addOperation (draft.ownedOperation operation))
  | customConstructor (declaration : ConstructorDeclaration) (kind : child.kind = "Constructor")
      (read : ConstructorDeclaration.ofNode child = .ok declaration)
      (custom : declaration.isCustom = true) :
      Taken draft child { draft with
        customConstructors := draft.customConstructors ++ [declaration.constructor] }
  | plainConstructor (declaration : ConstructorDeclaration) (kind : child.kind = "Constructor")
      (read : ConstructorDeclaration.ofNode child = .ok declaration)
      (plain : declaration.isCustom = false)
      (agree : draft.constructors ≠ [] →
        ConstructorDeclaration.checkAgreement draft.constructorAttrs declaration.attrs = .ok ()) :
      Taken draft child { draft with
        constructors := draft.constructors ++ [declaration.constructor]
        constructorAttrs := draft.constructorAttrs.extend declaration.attrs }
  | parent (kind : child.kind = "Inherit") :
      Taken draft child { draft with interface := { draft.interface with parent := child.name } }
  | stringifier (stringifier : Stringifier) (placed : Draft) (kind : child.kind = "Stringifier")
      (read : Stringifier.ofNode child = .ok stringifier)
      (place : Placed draft stringifier placed) :
      Taken draft child { placed with
        interface := { placed.interface with stringifier := some stringifier } }
  | iteration (iteration : Iteration) (first : draft.interface.iteration = none)
      (read : ReadsIteration child iteration) :
      Taken draft child { draft with
        interface := { draft.interface with iteration := some iteration } }

inductive Splits (attrs : ExtAttrs) : List Operation → ExtAttrs → Prop
  | unnamed (absent : attrs.get? "NamedConstructor" = none) : Splits attrs [] attrs
  | named (name : String) (arguments : List Argument)
      (pending : attrs.get? "NamedConstructor" = some (.call name arguments)) :
      Splits attrs [Operation.ofConstructor "NamedConstructor" arguments]
        (attrs.insert "NamedConstructor" (.text name))

theorem named_constructors_splits (attrs kept : ExtAttrs) (constructors : List Operation)
    (split : namedConstructors attrs = .ok (constructors, kept)) :
    Splits attrs constructors kept := by
  unfold namedConstructors at split
  split at split
  · rename_i absent
    cases split
    exact .unnamed absent
  · rename_i name arguments pending
    cases split
    exact .named name arguments pending
  · cases split

theorem named_constructors_free (attrs kept : ExtAttrs)
    (split : namedConstructors attrs = .ok ([], kept)) :
    attrs.contains "NamedConstructor" = false ∧ kept = attrs := by
  cases named_constructors_splits attrs kept [] split with
  | unnamed absent => exact ⟨by rw [Table.contains, absent, Option.isSome_none], rfl⟩

theorem take_attribute_taken (draft next : Draft) (child : Node) (kind : child.kind = "Attribute")
    (taken : draft.takeAttribute child = .ok next) : Taken draft child next := by
  obtain ⟨item, read, added⟩ := (bind_ok_iff _ _ _).mp taken
  obtain ⟨fresh, rfl⟩ := (add_attribute_ok_iff _ _ _).mp added
  exact .attributeMember item kind read fresh

theorem take_constant_taken (draft next : Draft) (child : Node) (kind : child.kind = "Const")
    (taken : draft.takeConstant child = .ok next) : Taken draft child next := by
  obtain ⟨constant, read, done⟩ := (bind_ok_iff _ _ _).mp taken
  cases done
  exact .constant constant kind read

theorem take_attrs_taken (draft next : Draft) (child : Node) (kind : child.kind = "ExtAttributes")
    (taken : draft.takeAttrs child = .ok next) : Taken draft child next := by
  obtain ⟨attrs, read, rest⟩ := (bind_ok_iff _ _ _).mp taken
  obtain ⟨⟨constructors, named⟩, split, done⟩ := (bind_ok_iff _ _ _).mp rest
  cases done
  exact .extAttrs attrs named constructors kind read split

theorem take_operation_taken (draft next : Draft) (child : Node) (kind : child.kind = "Operation")
    (taken : draft.takeOperation child = .ok next) : Taken draft child next := by
  obtain ⟨operation, read, rest⟩ := (bind_ok_iff _ _ _).mp taken
  obtain ⟨noted, note, done⟩ := (bind_ok_iff _ _ _).mp rest
  cases done
  exact .operation operation noted kind read note

theorem take_constructor_taken (draft next : Draft) (child : Node)
    (kind : child.kind = "Constructor") (taken : draft.takeConstructor child = .ok next) :
    Taken draft child next := by
  obtain ⟨declaration, read, rest⟩ := (bind_ok_iff _ _ _).mp taken
  cases custom : declaration.isCustom with
  | true =>
      simp only [custom, if_true] at rest
      cases rest
      exact .customConstructor declaration kind read custom
  | false =>
      simp only [custom, Bool.false_eq_true, if_false] at rest
      cases earlier : draft.constructors.isEmpty with
      | true =>
          simp only [earlier] at rest
          cases rest
          exact .plainConstructor declaration kind read custom
            fun several => absurd (List.isEmpty_iff.mp earlier) several
      | false =>
          simp only [earlier] at rest
          obtain ⟨_, agree, done⟩ := (bind_ok_iff _ _ _).mp rest
          cases done
          exact .plainConstructor declaration kind read custom fun _ => agree

theorem take_stringifier_taken (draft next : Draft) (child : Node)
    (kind : child.kind = "Stringifier") (taken : draft.takeStringifier child = .ok next) :
    Taken draft child next := by
  obtain ⟨stringifier, read, rest⟩ := (bind_ok_iff _ _ _).mp taken
  cases item : stringifier.attributeMember with
  | some member =>
      simp only [item] at rest
      obtain ⟨placed, added, done⟩ := (bind_ok_iff _ _ _).mp rest
      obtain ⟨fresh, rfl⟩ := (add_attribute_ok_iff _ _ _).mp added
      cases done
      exact .stringifier stringifier _ kind read (.attributeMember member item fresh)
  | none =>
      cases operation : stringifier.operationMember with
      | some member =>
          simp only [item, operation] at rest
          cases rest
          exact .stringifier stringifier _ kind read (.operation member item operation)
      | none =>
          simp only [item, operation] at rest
          cases rest
          exact .stringifier stringifier _ kind read (.nothing item operation)

theorem take_iteration_ok (draft next : Draft) (read : Node → Except IdlError Iteration)
    (child : Node) (taken : draft.takeIteration read child = .ok next) :
    ∃ iteration, draft.interface.iteration = none ∧ read child = .ok iteration ∧
      next = { draft with interface := { draft.interface with iteration := some iteration } } := by
  unfold takeIteration at taken
  cases first : draft.interface.iteration with
  | some known => simp [first] at taken
  | none =>
      simp only [first, Option.isSome_none, Bool.false_eq_true, if_false] at taken
      obtain ⟨iteration, found, done⟩ := (bind_ok_iff _ _ _).mp taken
      cases done
      exact ⟨iteration, rfl, found, rfl⟩

theorem take_taken (draft next : Draft) (child : Node) (taken : draft.take child = .ok next) :
    Taken draft child next := by
  unfold take at taken
  split at taken
  case h_1 kind => exact take_attribute_taken draft next child kind taken
  case h_2 kind => exact take_constant_taken draft next child kind taken
  case h_3 kind => exact take_attrs_taken draft next child kind taken
  case h_4 kind => exact take_operation_taken draft next child kind taken
  case h_5 kind => exact take_constructor_taken draft next child kind taken
  case h_6 kind =>
    cases taken
    exact .parent kind
  case h_7 kind => exact take_stringifier_taken draft next child kind taken
  case h_8 kind =>
    obtain ⟨iteration, first, read, rfl⟩ := take_iteration_ok _ _ _ _ taken
    exact .iteration iteration first (.inl ⟨kind, read⟩)
  case h_9 kind =>
    obtain ⟨iteration, first, read, rfl⟩ := take_iteration_ok _ _ _ _ taken
    exact .iteration iteration first (.inr (.inl ⟨kind, read⟩))
  case h_10 kind =>
    obtain ⟨iteration, first, read, rfl⟩ := take_iteration_ok _ _ _ _ taken
    exact .iteration iteration first (.inr (.inr ⟨kind, read⟩))
  case h_11 => cases taken

theorem take_all_keeps_after (holds : List Node → Draft → Prop)
    (kept : ∀ front draft child next, Taken draft child next → holds front draft →
      holds (front ++ [child]) next)
    (front children : List Node) (draft final : Draft) (taken : draft.takeAll children = .ok final)
    (start : holds front draft) : holds (front ++ children) final := by
  induction children generalizing front draft with
  | nil =>
      cases taken
      rwa [List.append_nil]
  | cons child rest ih =>
      obtain ⟨next, first, later⟩ := (bind_ok_iff _ _ _).mp taken
      rw [List.append_cons]
      exact ih (front ++ [child]) next later
        (kept front draft child next (take_taken draft next child first) start)

theorem take_all_keeps (holds : Draft → Prop)
    (kept : ∀ draft child next, Taken draft child next → holds draft → holds next)
    (draft final : Draft) (children : List Node) (taken : draft.takeAll children = .ok final)
    (start : holds draft) : holds final :=
  take_all_keeps_after (fun _ => holds) (fun _ => kept) [] children draft final taken start

theorem note_getter_interface (draft : Draft) (operation : Operation) :
    ∃ named, (draft.noteGetter operation).interface =
      { draft.interface with hasNamedGetter := named } := by
  have unchanged : draft.interface =
      { draft.interface with hasNamedGetter := draft.interface.hasNamedGetter } := by
    cases draft.interface
    rfl
  unfold noteGetter
  split
  · split
    · exact ⟨_, unchanged⟩
    · exact ⟨true, rfl⟩
    · exact ⟨_, unchanged⟩
  · exact ⟨_, unchanged⟩

theorem note_handle_event_interface (draft noted : Draft) (operation : Operation)
    (note : draft.noteHandleEvent operation = .ok noted) :
    ∃ handler, noted.interface = { draft.interface with handleEvent := handler } := by
  unfold noteHandleEvent at note
  split at note
  · split at note
    · cases note
    · cases note
      exact ⟨some operation, rfl⟩
  · cases note
    refine ⟨draft.interface.handleEvent, ?_⟩
    cases draft.interface
    rfl

theorem noted_interface (draft noted : Draft) (operation : Operation)
    (note : (draft.noteGetter operation).noteHandleEvent operation = .ok noted) :
    ∃ named handler, noted.interface =
      { draft.interface with hasNamedGetter := named, handleEvent := handler } := by
  obtain ⟨named, getter⟩ := note_getter_interface draft operation
  obtain ⟨handler, event⟩ := note_handle_event_interface _ noted operation note
  exact ⟨named, handler, by rw [event, getter]⟩

theorem taken_partials (draft next : Draft) (child : Node) (taken : Taken draft child next) :
    next.interface.partials = draft.interface.partials := by
  cases taken with
  | operation operation noted _ _ note =>
      obtain ⟨_, _, same⟩ := noted_interface draft noted _ note
      rw [addOperation, same]
  | stringifier stringifier placed _ _ place => cases place <;> rfl
  | _ => rfl

theorem taken_is_partial (draft next : Draft) (child : Node) (taken : Taken draft child next) :
    next.interface.isPartial = draft.interface.isPartial := by
  cases taken with
  | operation operation noted _ _ note =>
      obtain ⟨_, _, same⟩ := noted_interface draft noted _ note
      rw [addOperation, same]
  | stringifier stringifier placed _ _ place => cases place <;> rfl
  | _ => rfl

inductive Constructed (draft : Draft) (interface : Interface) : Interface → Prop
  | without (plain : draft.constructors = []) (custom : draft.customConstructors = []) :
      Constructed draft interface interface
  | operations (converted : ExtAttrs)
      (gathered : draft.constructors ≠ [] ∨ draft.customConstructors ≠ [])
      (free : interface.constructors = []) (freeCustom : interface.customConstructors = [])
      (convert : ConstructorDeclaration.convertAll draft.constructorAttrs = .ok converted)
      (apart : ∀ key ∈ interface.attrs.keys, converted.contains key = false) :
      Constructed draft interface { interface with
        constructors := draft.constructors
        customConstructors := draft.customConstructors
        attrs := interface.attrs.extend converted }

theorem with_constructors_constructed (draft : Draft) (interface final : Interface)
    (built : draft.withConstructors interface = .ok final) : Constructed draft interface final := by
  unfold withConstructors at built
  split at built
  · rename_i nothing
    rw [Bool.and_eq_true, List.isEmpty_iff, List.isEmpty_iff] at nothing
    cases built
    exact .without nothing.1 nothing.2
  · rename_i something
    rw [Bool.and_eq_true, List.isEmpty_iff, List.isEmpty_iff, not_and_or] at something
    split at built
    · cases built
    · rename_i free
      simp only [Bool.or_eq_true, Bool.not_eq_true', List.isEmpty_eq_false_iff, not_or,
        ne_eq, Decidable.not_not] at free
      obtain ⟨converted, convert, rest⟩ := (bind_ok_iff _ _ _).mp built
      split at rest
      · cases rest
      · rename_i apart
        cases rest
        refine .operations converted something free.1 free.2 convert ?_
        intro key listed
        simpa using List.find?_eq_none.mp apart key listed

theorem constructed_interface (draft : Draft) (interface final : Interface)
    (constructed : Constructed draft interface final) :
    ∃ constructors customConstructors attrs,
      final = { interface with constructors, customConstructors, attrs } := by
  cases constructed with
  | without =>
      refine ⟨interface.constructors, interface.customConstructors, interface.attrs, ?_⟩
      cases interface
      rfl
  | operations converted =>
      exact ⟨draft.constructors, draft.customConstructors, interface.attrs.extend converted, rfl⟩

inductive Finished (draft : Draft) (final : Interface) : Prop
  | intro (hasIndexedElements : Bool)
      (namedProperties :
        draft.interface.attrs.contains "LegacyUnenumerableNamedProperties" = true →
          draft.interface.hasNamedGetter = true)
      (indexed : draft.indexedElements = .ok hasIndexedElements)
      (forgeable : draft.interface.attrs.contains "Unforgeable" = false)
      (constructed : Constructed draft { draft.interface with hasIndexedElements } final)

theorem finish_finished (draft : Draft) (final : Interface) (built : draft.finish = .ok final) :
    Finished draft final := by
  unfold finish at built
  dsimp only at built
  split at built
  · cases built
  · rename_i namedProperties
    obtain ⟨hasIndexedElements, indexed, rest⟩ := (bind_ok_iff _ _ _).mp built
    split at rest
    · cases rest
    · rename_i forgeable
      refine ⟨hasIndexedElements, ?_, indexed, by simpa using forgeable,
        with_constructors_constructed draft _ final rest⟩
      intro unenumerable
      simpa [unenumerable] using namedProperties

theorem finish_interface (draft : Draft) (final : Interface) (built : draft.finish = .ok final) :
    ∃ hasIndexedElements constructors customConstructors attrs,
      final = { draft.interface with
        hasIndexedElements, constructors, customConstructors, attrs } := by
  obtain ⟨hasIndexedElements, _, _, _, constructed⟩ := finish_finished draft final built
  exact ⟨hasIndexedElements, constructed_interface draft _ final constructed⟩

end WebIdl.Interface.Draft

namespace WebIdl

def Node.typeOf (kind name : String) : Node := (leaf "Type").withChild ((leaf kind).named name)

def Node.attributeOf (name type : String) : Node :=
  ((leaf "Attribute").named name).withChild (typeOf "PrimitiveType" type)

def Node.longAttribute (name : String) : Node := attributeOf name "long"

def Node.attrsOf (names : List String) : Node :=
  (leaf "ExtAttributes").withChildren (names.map (leaf "ExtAttribute").named)

def Node.getterOf (name : String) (type : Node) : Node :=
  (((leaf "Operation").named name).withProperty "GETTER" (.flag true)).withChild
    ((leaf "Arguments").withChild ((leaf "Argument").withChild type))

def Node.operationOf (name : String) : Node :=
  ((leaf "Operation").named name).withChild (leaf "Arguments")

def Node.stringifierOf (member : Node) : Node := (leaf "Stringifier").withChild member

def Node.interfaceOf (name : String) (attributes : List String) : Node :=
  ((leaf "Interface").named name).withChildren (attributes.map longAttribute)

def Node.asPartial (node : Node) : Node := node.withProperty "PARTIAL" (.flag true)

def Node.inheriting (node : Node) (parent : String) : Node :=
  node.withChild ((leaf "Inherit").named parent)

def Node.fileOf (children : List Node) : Node := (leaf "File").withChildren children

namespace Interface

theorem of_node_ok_iff (node : Node) (interface : Interface) :
    ofNode node = .ok interface ↔
      ∃ name draft, Node.requiredName .interfaceName node.name = .ok name ∧
        (Draft.start node name).takeAll node.children = .ok draft ∧
        draft.finish = .ok interface := by
  unfold ofNode
  simp only [bind_ok_iff]
  constructor
  · rintro ⟨name, named, draft, taken, finished⟩
    exact ⟨name, draft, named, taken, finished⟩
  · rintro ⟨name, draft, named, taken, finished⟩
    exact ⟨name, named, draft, taken, finished⟩

theorem of_node_taken (node : Node) (interface : Interface) (built : ofNode node = .ok interface) :
    ∀ child ∈ node.children, ∃ draft next, Draft.Taken draft child next := by
  obtain ⟨name, draft, _, taken, _⟩ := (of_node_ok_iff node interface).mp built
  apply Draft.take_all_keeps_after
    (fun front _ => ∀ child ∈ front, ∃ draft next, Draft.Taken draft child next) ?_ []
    node.children _ draft taken (List.forall_mem_nil _)
  intro front draft child next step before
  exact List.forall_mem_append.mpr
    ⟨before, List.forall_mem_singleton.mpr ⟨draft, next, step⟩⟩

theorem of_node_no_partials (node : Node) (interface : Interface)
    (built : ofNode node = .ok interface) : interface.partials = [] := by
  obtain ⟨name, draft, _, taken, finished⟩ := (of_node_ok_iff node interface).mp built
  have none : draft.interface.partials = [] := by
    apply Draft.take_all_keeps (fun draft => draft.interface.partials = []) ?_ _ draft
      node.children taken rfl
    intro draft child next step before
    rw [Draft.taken_partials draft next child step, before]
  obtain ⟨_, _, _, _, rfl⟩ := Draft.finish_interface draft interface finished
  exact none

theorem of_node_is_partial (node : Node) (interface : Interface)
    (built : ofNode node = .ok interface) : interface.isPartial = node.flag "PARTIAL" := by
  obtain ⟨name, draft, _, taken, finished⟩ := (of_node_ok_iff node interface).mp built
  have same : draft.interface.isPartial = node.flag "PARTIAL" := by
    apply Draft.take_all_keeps (fun draft => draft.interface.isPartial = node.flag "PARTIAL") ?_ _
      draft node.children taken rfl
    intro draft child next step before
    rw [Draft.taken_is_partial draft next child step, before]
  obtain ⟨_, _, _, _, rfl⟩ := Draft.finish_interface draft interface finished
  exact same

end Interface

end WebIdl
