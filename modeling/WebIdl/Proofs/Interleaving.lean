import WebIdl.Proofs.InterfaceDraft
import WebIdl.Proofs.Rearranged

set_option autoImplicit false

namespace WebIdl

namespace Interface.Draft

inductive Track where
  | members
  | constants
  | extAttrs
  | constructors
  | parent
  | iteration
  | unknown

def graft (track : Track) (draft other : Draft) : Draft :=
  match track with
  | .members =>
      { draft with
        interface :=
          { draft.interface with
            attributes := other.interface.attributes
            operations := other.interface.operations
            stringifier := other.interface.stringifier
            hasNamedGetter := other.interface.hasNamedGetter
            eventHandlers := other.interface.eventHandlers
            handleEvent := other.interface.handleEvent }
        hasIndexedGetter := other.hasIndexedGetter
        hasIntegerLength := other.hasIntegerLength }
  | .constants =>
      { draft with interface := { draft.interface with constants := other.interface.constants } }
  | .extAttrs =>
      { draft with
        interface :=
          { draft.interface with
            attrs := other.interface.attrs
            constructors := other.interface.constructors
            customConstructors := other.interface.customConstructors } }
  | .constructors =>
      { draft with
        constructors := other.constructors
        customConstructors := other.customConstructors
        constructorAttrs := other.constructorAttrs }
  | .parent =>
      { draft with interface := { draft.interface with parent := other.interface.parent } }
  | .iteration =>
      { draft with interface := { draft.interface with iteration := other.interface.iteration } }
  | .unknown => draft

theorem graft_self (track : Track) (draft : Draft) : draft.graft track draft = draft := by
  obtain ⟨interface⟩ := draft
  cases interface
  cases track <;> rfl

theorem graft_name (track : Track) (draft other : Draft) :
    (draft.graft track other).interface.name = draft.interface.name := by
  cases track <;> rfl

theorem graft_comm (one two : Track) (apart : one ≠ two) (draft first second : Draft) :
    (draft.graft one first).graft two second = (draft.graft two second).graft one first := by
  cases one <;> cases two
  case members.members | constants.constants | extAttrs.extAttrs | constructors.constructors |
      parent.parent | iteration.iteration | unknown.unknown => exact absurd rfl apart
  all_goals rfl

end Interface.Draft

open Interface.Draft (Track)

def Node.track (child : Node) : Track :=
  match child.kind with
  | "Attribute" | "Operation" | "Stringifier" => .members
  | "Const" => .constants
  | "ExtAttributes" => .extAttrs
  | "Constructor" => .constructors
  | "Inherit" => .parent
  | "Iterable" | "Maplike" | "Setlike" => .iteration
  | _ => .unknown

namespace Interface.Draft

def addConstant (draft : Draft) (constant : Constant) : Draft :=
  { draft with
    interface :=
      { draft.interface with constants := draft.interface.constants ++ [constant] } }

def holdHandler (draft : Draft) (operation : Operation) : Draft :=
  { draft with interface := { draft.interface with handleEvent := some operation } }

theorem add_attribute_eq (draft : Draft) (item : Attribute) :
    draft.addAttribute item =
      if draft.interface.attributes.contains item.name then
        .error (.duplicateAttribute item.name draft.interface.name)
      else .ok (draft.pushAttribute item) := rfl

theorem note_handle_event_eq (draft : Draft) (operation : Operation) :
    draft.noteHandleEvent operation =
      if operation.name = some "handleEvent" then
        if draft.interface.handleEvent.isSome then
          .error (.duplicateHandleEvent draft.interface.name)
        else .ok (draft.holdHandler operation)
      else .ok draft := rfl

theorem take_constant_eq (draft : Draft) (child : Node) :
    draft.takeConstant child = (Constant.ofNode child).map fun constant =>
      draft.addConstant { constant with definedIn := some draft.interface.name } := by
  unfold takeConstant
  cases Constant.ofNode child <;> rfl

/- A child finds in its own fields all that it needs but the name, and leaves all others alone:
   taken by a draft that has another's fields in its track, it does there what it does to the
   other. -/

section Local

variable (base draft : Draft) (named : base.interface.name = draft.interface.name)

theorem note_getter_local (operation : Operation) :
    (base.graft .members draft).noteGetter operation =
      base.graft .members (draft.noteGetter operation) := by
  unfold noteGetter
  split
  · split <;> rfl
  · rfl

theorem take_attrs_local (child : Node) :
    (base.graft .extAttrs draft).takeAttrs child =
      (draft.takeAttrs child).map (base.graft .extAttrs) := by
  unfold takeAttrs
  simp only [bind, Except.bind]
  cases ExtAttrs.ofNode child with
  | error error => rfl
  | ok attrs =>
      dsimp only
      cases namedConstructors attrs <;> rfl

theorem take_constructor_local (child : Node) :
    (base.graft .constructors draft).takeConstructor child =
      (draft.takeConstructor child).map (base.graft .constructors) := by
  unfold takeConstructor
  simp only [bind, Except.bind, graft]
  cases ConstructorDeclaration.ofNode child with
  | error error => rfl
  | ok declaration =>
      dsimp only
      by_cases custom : declaration.isCustom = true
      · rw [if_pos custom, if_pos custom]
        rfl
      · rw [if_neg custom, if_neg custom]
        by_cases several : (!draft.constructors.isEmpty) = true
        · simp only [several, if_true]
          cases ConstructorDeclaration.checkAgreement _ _ <;> rfl
        · simp only [several]
          rfl

theorem take_iteration_local (read : Node → Except IdlError Iteration) (child : Node) :
    (base.graft .iteration draft).takeIteration read child =
      (draft.takeIteration read child).map (base.graft .iteration) := by
  unfold takeIteration
  dsimp only [graft]
  by_cases given : draft.interface.iteration.isSome = true
  · simp only [given, if_true]
    rfl
  · simp only [given]
    cases read child <;> rfl

include named

theorem add_attribute_local (item : Attribute) :
    (base.graft .members draft).addAttribute item =
      (draft.addAttribute item).map (base.graft .members) := by
  rw [add_attribute_eq, add_attribute_eq, graft_name, named, apply_ite (Except.map _)]
  rfl

theorem note_handle_event_local (operation : Operation) :
    (base.graft .members draft).noteHandleEvent operation =
      (draft.noteHandleEvent operation).map (base.graft .members) := by
  rw [note_handle_event_eq, note_handle_event_eq, graft_name, named, apply_ite (Except.map _),
    apply_ite (Except.map _)]
  rfl

theorem take_attribute_local (child : Node) :
    (base.graft .members draft).takeAttribute child =
      (draft.takeAttribute child).map (base.graft .members) := by
  unfold takeAttribute
  simp only [graft_name, named]
  cases Attribute.ofNode child with
  | error error => rfl
  | ok item => exact add_attribute_local base (draft.noteLength item) named (draft.owned item)

theorem take_constant_local (child : Node) :
    (base.graft .constants draft).takeConstant child =
      (draft.takeConstant child).map (base.graft .constants) := by
  rw [take_constant_eq, take_constant_eq, graft_name, named]
  cases Constant.ofNode child <;> rfl

theorem take_operation_local (child : Node) :
    (base.graft .members draft).takeOperation child =
      (draft.takeOperation child).map (base.graft .members) := by
  unfold takeOperation
  simp only [bind, Except.bind, graft_name, named]
  cases Operation.ofNode child with
  | error error => rfl
  | ok operation =>
      dsimp only
      rw [note_getter_local, note_handle_event_local]
      · cases (draft.noteGetter _).noteHandleEvent _ <;> rfl
      · obtain ⟨_, noted⟩ := note_getter_interface draft (draft.ownedOperation operation)
        rw [← ownedOperation, noted]
        exact named

theorem take_stringifier_local (child : Node) :
    (base.graft .members draft).takeStringifier child =
      (draft.takeStringifier child).map (base.graft .members) := by
  unfold takeStringifier
  simp only [bind, Except.bind]
  cases Stringifier.ofNode child with
  | error error => rfl
  | ok stringifier =>
      dsimp only
      cases stringifier.attributeMember with
      | some item =>
          dsimp only
          rw [graft_name, named, add_attribute_local base draft named]
          cases draft.addAttribute _ <;> rfl
      | none =>
          cases stringifier.operationMember with
          | some operation =>
              dsimp only
              rw [graft_name, named]
              rfl
          | none => rfl

theorem take_local (child : Node) :
    (base.graft child.track draft).take child =
      (draft.take child).map (base.graft child.track) := by
  unfold take
  split
  case h_11 =>
    rw [graft_name, named]
    rfl
  all_goals
    rename_i kind
    simp only [Node.track, kind]
  · exact take_attribute_local base draft named child
  · exact take_constant_local base draft named child
  · exact take_attrs_local base draft child
  · exact take_operation_local base draft named child
  · exact take_constructor_local base draft child
  · rfl
  · exact take_stringifier_local base draft named child
  · exact take_iteration_local base draft _ child
  · exact take_iteration_local base draft _ child
  · exact take_iteration_local base draft _ child

end Local

theorem take_within (draft next : Draft) (child : Node) (taken : draft.take child = .ok next) :
    next = draft.graft child.track next := by
  have own := take_local draft draft rfl child
  rw [graft_self, taken] at own
  exact Except.ok.inj own

theorem take_after (draft next : Draft) (earlier child : Node) (apart : earlier.track ≠ child.track)
    (taken : draft.take earlier = .ok next) :
    next.take child = (draft.take child).map (next.graft child.track) := by
  have within := take_within draft next earlier taken
  have named : next.interface.name = draft.interface.name := by rw [within, graft_name]
  have untouched : next.graft child.track draft = next := by
    rw [within, graft_comm _ _ apart, graft_self]
  rw [← take_local next draft named child, untouched]

theorem takes_commute (draft : Draft) (one two : Node) (apart : one.track ≠ two.track) :
    (draft.take one).toOption.bind (fun next => (next.take two).toOption) =
      (draft.take two).toOption.bind (fun next => (next.take one).toOption) := by
  cases first : draft.take one with
  | error error =>
      cases second : draft.take two with
      | error error => rfl
      | ok after =>
          have failed := take_after draft after two one apart.symm second
          rw [first] at failed
          simp only [Except.toOption, Option.bind_none, Option.bind_some, failed, Except.map]
  | ok before =>
      have later := take_after draft before one two apart first
      cases second : draft.take two with
      | error error =>
          rw [second] at later
          simp only [Except.toOption, Option.bind_none, Option.bind_some, later, Except.map]
      | ok after =>
          have sooner := take_after draft after two one apart.symm second
          rw [first] at sooner
          rw [second] at later
          have same : before.graft two.track after = after.graft one.track before := by
            conv => lhs; rw [take_within draft before one first]
            conv => rhs; rw [take_within draft after two second]
            exact graft_comm _ _ apart draft before after
          simp only [Except.toOption, Option.bind_some, sooner, later, Except.map, same]

theorem iteration_taken (draft next : Draft) (child : Node) (shared : child.track = .iteration)
    (taken : draft.take child = .ok next) :
    draft.interface.iteration = none ∧ next.interface.iteration ≠ none := by
  cases take_taken draft next child taken with
  | iteration iteration first _ => exact ⟨first, nofun⟩
  | _ => simp_all [Node.track]

theorem two_iterations_fail (draft : Draft) (one two : Node) (first : one.track = .iteration)
    (second : two.track = .iteration) :
    (draft.take one).toOption.bind (fun next => (next.take two).toOption) = none := by
  refine Option.eq_none_iff_forall_ne_some.mpr fun final done => ?_
  obtain ⟨next, taken, again⟩ := Option.bind_eq_some_iff.mp done
  rw [to_option_eq_some_iff] at taken again
  have declared := (iteration_taken draft next one first taken).2
  exact declared (iteration_taken next final two second again).1

theorem unknown_fails (draft : Draft) (child : Node) (unknown : child.track = .unknown) :
    (draft.take child).toOption = none := by
  unfold take
  split
  case h_11 => rfl
  all_goals
    rename_i kind
    rw [Node.track, kind] at unknown
    cases unknown

end Interface.Draft

-- Children whose order counts: those of one kind, and all that bring in attributes or operations.
def Node.strand (child : Node) : String :=
  if child.kind = "Operation" ∨ child.kind = "Stringifier" then "Attribute" else child.kind

structure Node.Interleaved (node other : Node) (place : Equiv.Perm (Fin node.children.length)) :
    Prop where
  same : other = { node with children := rearranged node.children place }
  kept : ∀ one two, node.children[place one].strand = node.children[place two].strand →
    (one < two ↔ place one < place two)

def Interface.Draft.Track.strand? : Track → Option String
  | .members => some "Attribute"
  | .constants => some "Const"
  | .extAttrs => some "ExtAttributes"
  | .constructors => some "Constructor"
  | .parent => some "Inherit"
  | .iteration => none
  | .unknown => none

theorem Node.strand_of_track (child : Node) (name : String)
    (lone : child.track.strand? = some name) : child.strand = name := by
  unfold Node.track at lone
  split at lone <;> cases lone <;> simp [Node.strand, *]

namespace Interface

-- Two children that share a track but no strand are of kinds of which an interface has one at most,
-- or none.
theorem Draft.strands_commute (draft : Draft) (one two : Node) (apart : one.strand ≠ two.strand) :
    (draft.take one).toOption.bind (fun next => (next.take two).toOption) =
      (draft.take two).toOption.bind (fun next => (next.take one).toOption) := by
  by_cases shared : one.track = two.track
  · have alike := fun name (lone : two.track.strand? = some name) =>
      apart ((one.strand_of_track name (shared ▸ lone)).trans (two.strand_of_track name lone).symm)
    cases track : two.track with
    | iteration =>
        rw [two_iterations_fail draft one two (shared.trans track) track,
          two_iterations_fail draft two one track (shared.trans track)]
    | unknown =>
        have failed := fun draft => unknown_fails draft two track
        rw [unknown_fails draft one (shared.trans track), failed]
        rfl
    | _ => exact absurd rfl (track ▸ alike _)
  · exact takes_commute draft one two shared

theorem Draft.take_all_run (draft : Draft) (children : List Node) :
    (draft.takeAll children).toOption =
      children.foldlM (fun draft child => (draft.take child).toOption) draft := by
  induction children generalizing draft with
  | nil => rfl
  | cons child rest ih =>
      rw [List.foldlM_cons, takeAll]
      cases draft.take child with
      | error error => rfl
      | ok next => exact ih next

theorem of_node_interleaved (node other : Node) (place : Equiv.Perm (Fin node.children.length))
    (interleaved : node.Interleaved other place) :
    (∀ interface, ofNode node = .ok interface ↔ ofNode other = .ok interface) ∧
      ((∃ error, ofNode node = .error error) ↔ ∃ error, ofNode other = .error error) := by
  have runs : ∀ draft : Draft, (draft.takeAll node.children).toOption =
      (draft.takeAll (rearranged node.children place)).toOption := by
    intro draft
    rw [Draft.take_all_run, Draft.take_all_run]
    apply run_by_strands _ Node.strand Draft.strands_commute
    intro name
    refine (rearranged_filter node.children place _ fun one two first second => ?_).symm
    exact interleaved.kept one two ((beq_iff_eq.mp first).trans (beq_iff_eq.mp second).symm)
  have same : ∀ interface, ofNode node = .ok interface ↔ ofNode other = .ok interface := by
    intro interface
    simp only [of_node_ok_iff, interleaved.same, ← to_option_eq_some_iff (Draft.takeAll _ _), runs]
    rfl
  refine ⟨same, ?_⟩
  cases read : ofNode node with
  | ok interface => simp [(same interface).mp read]
  | error error =>
      cases reread : ofNode other with
      | ok interface => cases read.symm.trans ((same interface).mpr reread)
      | error error => simp

def namedItems : Node :=
  ((Node.leaf "Interface").named "Items").withChildren
    [Node.attrsOf ["LegacyUnenumerableNamedProperties"], (Node.leaf "Inherit").named "Base",
      Node.getterOf "item" (Node.typeOf "StringType" "DOMString"), Node.longAttribute "length"]

theorem getter_moved_to_front :
    ∃ other place interface,
      other.children.map (·.kind) = ["Operation", "Attribute", "ExtAttributes", "Inherit"] ∧
      namedItems.Interleaved other place ∧ ofNode namedItems = .ok interface ∧
      ofNode other = .ok interface := by
  let place : Equiv.Perm (Fin 4) := (Equiv.swap 0 2).trans (Equiv.swap 1 3)
  have kept : ∀ one two : Fin 4,
      namedItems.children[place one].strand = namedItems.children[place two].strand →
        (one < two ↔ place one < place two) := by decide
  have interleaved : namedItems.Interleaved
      { namedItems with children := rearranged namedItems.children place } place := ⟨rfl, kept⟩
  obtain ⟨interface, built⟩ : ∃ interface, ofNode namedItems = .ok interface := ⟨_, rfl⟩
  exact ⟨_, place, interface, rfl, interleaved, built,
    ((of_node_interleaved namedItems _ place interleaved).1 interface).mp built⟩

end Interface

end WebIdl
