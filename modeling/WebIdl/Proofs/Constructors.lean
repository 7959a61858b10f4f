import WebIdl.Proofs.ConstructionRules

set_option autoImplicit false

namespace WebIdl

def Node.NamesConstructor (node : Node) (name : String) (arguments : List Argument) : Prop :=
  ∃ attrs, lastAttrs node.children = .ok attrs ∧
    attrs.get? "NamedConstructor" = some (.call name arguments)

def ExtAttrValue.Named (value : ExtAttrValue) : Prop :=
  ∀ name arguments, value = .call name arguments → name ≠ ""

namespace ExtAttrs

theorem of_node_named (node : Node) (attrs : ExtAttrs) (read : ofNode node = .ok attrs) :
    attrs.All ExtAttrValue.Named := by
  rintro ⟨key, _⟩ member name arguments rfl
  obtain ⟨_, called, given, _, same, present, _⟩ := of_node_read node attrs read _ member rfl
  cases same
  exact present

end ExtAttrs

theorem Node.last_attrs_named (children : List Node) (attrs : ExtAttrs)
    (read : lastAttrs children = .ok attrs) : attrs.All ExtAttrValue.Named := by
  rcases last_attrs_read children attrs read with rfl | ⟨node, found⟩
  · exact Table.empty_all _
  · exact ExtAttrs.of_node_named node attrs found

namespace Interface

namespace Draft

theorem taken_custom (draft : Draft) (child : Node) (next : Draft) (taken : Taken draft child next)
    (before : ∀ constructor ∈ draft.customConstructors, constructor.definedIn = none) :
    ∀ constructor ∈ next.customConstructors, constructor.definedIn = none := by
  cases taken_adds draft next child taken with
  | nothing _ _ custom _ =>
      rw [custom]
      exact before
  | custom declaration _ written _ same =>
      subst same
      intro constructor member
      rcases List.mem_append.mp member with earlier | last
      · exact before constructor earlier
      · rw [List.mem_singleton.mp last]
        exact ConstructorDeclaration.written_unowned child declaration written
  | plain _ _ _ _ _ same =>
      subst same
      exact before

def FromLastAttrs (front : List Node) (draft : Draft) : Prop :=
  ∃ attrs, Node.lastAttrs front = .ok attrs ∧
    namedConstructors attrs = .ok (draft.interface.constructors, draft.interface.attrs)

theorem taken_last_attrs (front : List Node) (draft : Draft) (child : Node) (next : Draft)
    (taken : Taken draft child next) (before : FromLastAttrs front draft) :
    FromLastAttrs (front ++ [child]) next := by
  rcases taken_attrs draft next child taken with
    ⟨other, attrs, constructors, _⟩ | ⟨kind, attrs, read, split, _⟩
  · rwa [FromLastAttrs, Node.last_attrs_append_one, if_neg other, attrs, constructors]
  · refine ⟨attrs, ?_, split⟩
    rw [Node.last_attrs_append_one, if_pos kind, read]

theorem take_all_last_attrs (node : Node) (name : String) (draft : Draft)
    (taken : (start node name).takeAll node.children = .ok draft) :
    FromLastAttrs node.children draft :=
  take_all_keeps_after FromLastAttrs taken_last_attrs [] node.children _ draft taken
    ⟨.empty, rfl, rfl⟩

end Draft

section Read

variable (node : Node) (interface : Interface) (built : ofNode node = .ok interface)

include built

theorem of_node_made : interface.MadeBy node := by
  obtain ⟨name, draft, _, taken, finish⟩ := (of_node_ok_iff node interface).mp built
  have kept := Draft.take_all_kept node name draft taken
  obtain ⟨_, _, _, _, constructed⟩ := Draft.finish_finished draft interface finish
  obtain ⟨_, same⟩ := Draft.constructed_attrs draft _ interface constructed
    kept.setAside.calls kept.settled
  exact Draft.constructed_made node draft _ interface constructed kept.setAside kept.named
    kept.noCustom (same _ (by decide))

theorem of_node_custom_unowned :
    ∀ constructor ∈ interface.customConstructors, constructor.definedIn = none := by
  obtain ⟨name, draft, _, taken, finish⟩ := (of_node_ok_iff node interface).mp built
  have kept := Draft.take_all_kept node name draft taken
  obtain ⟨_, _, _, _, constructed⟩ := Draft.finish_finished draft interface finish
  cases constructed with
  | without =>
      intro constructor member
      rw [kept.noCustom] at member
      cases member
  | operations =>
      refine Draft.take_all_keeps
        (fun draft => ∀ constructor ∈ draft.customConstructors, constructor.definedIn = none)
        Draft.taken_custom _ draft node.children taken ?_
      intro constructor member
      cases member

theorem of_node_last_attrs :
    ∃ attrs constructors kept, Node.lastAttrs node.children = .ok attrs ∧
      Draft.namedConstructors attrs = .ok (constructors, kept) ∧
      interface.attrs.get? "NamedConstructor" = kept.get? "NamedConstructor" ∧
      (constructors ≠ [] → interface.constructors = constructors) := by
  obtain ⟨name, draft, _, taken, finish⟩ := (of_node_ok_iff node interface).mp built
  have kept := Draft.take_all_kept node name draft taken
  obtain ⟨attrs, last, split⟩ := Draft.take_all_last_attrs node name draft taken
  obtain ⟨_, _, _, _, constructed⟩ := Draft.finish_finished draft interface finish
  obtain ⟨_, same⟩ := Draft.constructed_attrs draft _ interface constructed
    kept.setAside.calls kept.settled
  refine ⟨attrs, _, _, last, split, same _ (by decide), fun named => ?_⟩
  cases constructed with
  | without => rfl
  | operations _ _ free => exact absurd free named

theorem of_node_named (name : String) (arguments : List Argument)
    (named : node.NamesConstructor name arguments) :
    interface.attrs.get? "NamedConstructor" = some (.text name) ∧
      interface.constructors = [Operation.ofConstructor "NamedConstructor" arguments] := by
  obtain ⟨attrs, last, call⟩ := named
  obtain ⟨_, constructors, kept, again, split, same, only⟩ :=
    of_node_last_attrs node interface built
  obtain rfl := Except.ok.inj (last.symm.trans again)
  cases Draft.named_constructors_splits attrs kept constructors split with
  | unnamed absent => cases absent.symm.trans call
  | named _ _ pending =>
      cases pending.symm.trans call
      rw [same, Table.get_insert, if_pos rfl]
      exact ⟨rfl, only (List.cons_ne_nil _ _)⟩

theorem of_node_constructor_name (value : ExtAttrValue)
    (found : interface.attrs.get? "NamedConstructor" = some value) :
    ∃ name, name ≠ "" ∧ value = .text name := by
  obtain ⟨attrs, _, kept, last, split, same, _⟩ := of_node_last_attrs node interface built
  rw [same] at found
  cases Draft.named_constructors_splits attrs kept _ split with
  | unnamed absent => cases absent.symm.trans found
  | named name arguments pending =>
      rw [Table.get_insert, if_pos rfl, Option.some.injEq] at found
      have named := Table.all_get _ attrs (Node.last_attrs_named node.children attrs last)
        _ _ pending
      exact ⟨name, named name arguments rfl, found.symm⟩

end Read

end Interface

end WebIdl
