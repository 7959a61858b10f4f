import WebIdl.Proofs.DraftMembers
import WebIdl.Proofs.Produced
import WebIdl.Proofs.Resolution

set_option autoImplicit false

namespace WebIdl.Interface

def firsts (known : List String) : List Attribute → List Attribute
  | [] => []
  | item :: rest =>
      (if known.contains item.name then [] else [item]) ++ firsts (known ++ [item.name]) rest

def NoneHidden (known : List String) (items : List Attribute) : Prop :=
  ∀ front item rest, items = front ++ item :: rest → item.isEventHandler = true →
    item.name ∉ known ++ front.map (·.name)

def HandlersAgree (interface : Interface) : Prop := interface.eventHandlers = interface.handlers

structure ListsHandlers (interface : Interface) : Prop where
  all : interface.handlers.Sublist interface.eventHandlers
  only : ∀ item ∈ interface.eventHandlers, item.isEventHandler = true

theorem agree_lists (interface : Interface) (agree : interface.HandlersAgree) :
    interface.ListsHandlers where
  all := agree ▸ List.Sublist.refl _
  only item listed := by
    rw [agree, handlers] at listed
    exact (List.mem_filter.mp listed).2

theorem merge_handlers (base fragment : Interface) :
    (base.merge fragment).handlers = base.handlers ++ fragment.handlers := by
  rw [handlers, merge, AttributeTable.push_all_list, List.filter_append]
  rfl

theorem merge_lists (base fragment : Interface) (lists : base.ListsHandlers)
    (part : fragment.ListsHandlers) : (base.merge fragment).ListsHandlers where
  all := by
    rw [merge_handlers]
    exact lists.all.append part.all
  only item listed := (List.mem_append.mp listed).elim (lists.only item) (part.only item)

theorem inherit_lists (interface parent : Interface) (lists : interface.ListsHandlers)
    (above : parent.ListsHandlers) : (interface.inherit parent).ListsHandlers where
  all := by
    obtain ⟨taken, part, listed⟩ := adopt_list_taken interface.attributes parent.attributes.list
    rw [handlers, inherit, listed, List.filter_append]
    exact lists.all.append ((part.filter _).trans above.all)
  only item listed := (List.mem_append.mp listed).elim (lists.only item) (above.only item)

theorem merge_agree (base fragment : Interface) (agree : base.HandlersAgree)
    (part : fragment.HandlersAgree) : (base.merge fragment).HandlersAgree := by
  rw [HandlersAgree, merge_handlers, ← agree, ← part]
  rfl

theorem firsts_congr (known other : List String) (items : List Attribute)
    (same : ∀ name, name ∈ known ↔ name ∈ other) : firsts known items = firsts other items := by
  induction items generalizing known other with
  | nil => rfl
  | cons item rest ih =>
      have first : known.contains item.name = other.contains item.name := by
        rw [Bool.eq_iff_iff, List.contains_iff_mem, List.contains_iff_mem]
        exact same item.name
      rw [firsts, firsts, first, ih (known ++ [item.name]) (other ++ [item.name])]
      intro name
      rw [List.mem_append, List.mem_append, same]

theorem firsts_append (known : List String) (front back : List Attribute) :
    firsts known (front ++ back) =
      firsts known front ++ firsts (known ++ front.map (·.name)) back := by
  induction front generalizing known with
  | nil => simp [firsts]
  | cons item rest ih =>
      rw [List.cons_append, firsts, firsts, ih, List.map_cons, List.append_assoc, List.append_assoc,
        List.singleton_append]

theorem firsts_firsts (known fewer : List String) (items : List Attribute)
    (within : fewer ⊆ known) : firsts known (firsts fewer items) = firsts known items := by
  induction items generalizing known fewer with
  | nil => rfl
  | cons item rest ih =>
      have later : ∀ more, fewer ++ [item.name] ⊆ more →
          firsts more (firsts (fewer ++ [item.name]) rest) = firsts more rest :=
        fun more within => ih more _ within
      by_cases old : item.name ∈ fewer
      · have known' : item.name ∈ known := within old
        have whole : fewer ++ [item.name] ⊆ known :=
          List.append_subset.mpr ⟨within, List.cons_subset.mpr ⟨known', List.nil_subset _⟩⟩
        rw [firsts, if_pos (List.contains_iff_mem.mpr old), List.nil_append, later known whole,
          firsts, if_pos (List.contains_iff_mem.mpr known'), List.nil_append]
        apply firsts_congr
        intro name
        simp only [List.mem_append, List.mem_singleton]
        exact ⟨.inl, fun either => either.elim id fun same => same ▸ known'⟩
      · have grown : fewer ++ [item.name] ⊆ known ++ [item.name] := List.append_subset.mpr
          ⟨List.Subset.trans within (List.subset_append_left _ _), List.subset_append_right _ _⟩
        rw [firsts, if_neg (by rwa [List.contains_iff_mem]), List.singleton_append, firsts,
          later _ grown, firsts]

theorem firsts_sublist (known : List String) (items : List Attribute) :
    (firsts known items).Sublist items := by
  induction items generalizing known with
  | nil => exact .slnil
  | cons item rest ih =>
      rw [firsts]
      split
      · exact (ih _).cons item
      · exact (ih _).cons_cons item

theorem adopt_firsts (table : AttributeTable) (known : List String) (items : List Attribute)
    (same : ∀ name, name ∈ known ↔ table.contains name = true) :
    (adopt table items).list = table.list ++ firsts known items := by
  unfold adopt
  induction items generalizing table known with
  | nil => rw [List.foldl_nil, firsts, List.append_nil]
  | cons item rest ih =>
      rw [List.foldl_cons, firsts]
      by_cases present : table.contains item.name = true
      · have old := (same item.name).mpr present
        rw [if_pos present, if_pos (List.contains_iff_mem.mpr old), List.nil_append]
        apply ih table
        intro name
        rw [← same, List.mem_append, List.mem_singleton]
        exact ⟨fun either => either.elim id fun last => last ▸ old, .inl⟩
      · have fresh : item.name ∉ known := fun old => present ((same item.name).mp old)
        rw [if_neg present, if_neg (by rwa [List.contains_iff_mem]), ← List.append_assoc,
          ← AttributeTable.push_list]
        apply ih
        intro name
        rw [AttributeTable.contains_iff_member, AttributeTable.push_list, List.mem_append, same,
          AttributeTable.contains_iff_member]
        simp [or_and_right, exists_or, eq_comm]

theorem inherit_list (interface parent : Interface) :
    (interface.inherit parent).attributes.list =
      interface.attributes.list ++ firsts interface.names parent.attributes.list := by
  apply adopt_firsts
  intro name
  rw [AttributeTable.contains_iff_member, names, List.mem_map]

theorem with_above_list (interface : Interface) (above : List Interface) :
    (interface.withAbove above).attributes.list = interface.attributes.list ++
      firsts interface.names (above.flatMap (·.attributes.list)) := by
  induction above generalizing interface with
  | nil => simp [withAbove, firsts]
  | cons parent above ih =>
      rw [withAbove, inherit_list, ih parent, firsts_append, ← names, firsts_firsts _ _ _ (List.subset_append_right _ _),
        List.flatMap_cons, firsts_append, ← names]

theorem none_hidden_cons (known : List String) (item : Attribute) (rest : List Attribute) :
    NoneHidden known (item :: rest) ↔
      (item.isEventHandler = true → item.name ∉ known) ∧
        NoneHidden (known ++ [item.name]) rest := by
  constructor
  · intro hidden
    refine ⟨fun handler => ?_, fun front other back split handler => ?_⟩
    · simpa using hidden [] item rest rfl handler
    · have apart := hidden (item :: front) other back (by rw [split, List.cons_append]) handler
      rwa [List.map_cons, List.append_cons] at apart
  · rintro ⟨first, later⟩ front other back split handler
    cases front with
    | nil =>
        obtain ⟨rfl, _⟩ := List.cons.inj split
        simpa using first handler
    | cons head front =>
        obtain ⟨rfl, others⟩ := List.cons.inj split
        rw [List.map_cons, List.append_cons]
        exact later front other back others handler

theorem firsts_handlers_iff (known : List String) (items : List Attribute) :
    (firsts known items).filter (·.isEventHandler) = items.filter (·.isEventHandler) ↔
      NoneHidden known items := by
  induction items generalizing known with
  | nil =>
      refine ⟨fun _ front item rest split => ?_, fun _ => rfl⟩
      exact absurd split.symm (by simp)
  | cons item rest ih =>
      have fewer := ((firsts_sublist (known ++ [item.name]) rest).filter
        (·.isEventHandler)).length_le
      rw [none_hidden_cons, ← ih, firsts, List.filter_append, List.filter_cons]
      by_cases handler : item.isEventHandler = true
      · by_cases old : item.name ∈ known
        · -- The list on the left is shorter by the handler that is hidden.
          have shorter : (firsts (known ++ [item.name]) rest).filter (·.isEventHandler) ≠
              item :: rest.filter (·.isEventHandler) := by
            intro same
            rw [same, List.length_cons] at fewer
            omega
          simp [handler, old, shorter]
        · simp [handler, old]
      · by_cases old : item.name ∈ known <;> simp [handler, old]

theorem flat_map_sublist_iff {α β : Type} (part whole : α → List β) (items : List α)
    (within : ∀ item ∈ items, (part item).Sublist (whole item)) :
    (items.flatMap part).Sublist (items.flatMap whole) ∧
      (items.flatMap whole = items.flatMap part ↔ ∀ item ∈ items, whole item = part item) := by
  induction items with
  | nil => simp
  | cons item rest ih =>
      obtain ⟨later, equal⟩ := ih fun other member =>
        within other (List.mem_cons_of_mem item member)
      have first := within item List.mem_cons_self
      refine ⟨first.append later, ?_⟩
      rw [List.forall_mem_cons, ← equal, List.flatMap_cons, List.flatMap_cons]
      constructor
      · intro same
        have lengths := congrArg List.length same
        have less := first.length_le
        have less' := later.length_le
        rw [List.length_append, List.length_append] at lengths
        exact ⟨(first.eq_of_length (by omega)).symm, (later.eq_of_length (by omega)).symm⟩
      · rintro ⟨own, others⟩
        rw [own, others]

theorem with_above_agree_iff (interface : Interface) (above : List Interface)
    (lists : ∀ other ∈ interface :: above, other.ListsHandlers) :
    (interface.withAbove above).HandlersAgree ↔
      (∀ other ∈ interface :: above, other.HandlersAgree) ∧
        NoneHidden interface.names (above.flatMap (·.attributes.list)) := by
  obtain ⟨listed, agree⟩ := flat_map_sublist_iff handlers (·.eventHandlers) (interface :: above)
    fun other member => (lists other member).all
  have every : (interface :: above).flatMap handlers = interface.handlers ++
      (above.flatMap (·.attributes.list)).filter (·.isEventHandler) := by
    rw [List.flatMap_cons, List.filter_flatMap]
    rfl
  have kept : (interface.withAbove above).handlers = interface.handlers ++
      (firsts interface.names (above.flatMap (·.attributes.list))).filter (·.isEventHandler) := by
    rw [handlers, with_above_list, List.filter_append]
    rfl
  have part : (interface.withAbove above).handlers.Sublist
      ((interface :: above).flatMap handlers) := by
    rw [kept, every]
    exact (List.Sublist.refl _).append ((firsts_sublist _ _).filter _)
  have none : (interface.withAbove above).handlers = (interface :: above).flatMap handlers ↔
      NoneHidden interface.names (above.flatMap (·.attributes.list)) := by
    rw [kept, every, List.append_cancel_left_eq, firsts_handlers_iff]
  unfold HandlersAgree
  rw [with_above_event_handlers, ← none, ← agree]
  -- The handlers that are kept are part of all handlers of the chain, and these are part of the
  -- handlers that are listed: the ends are the same only if the middle is as well.
  constructor
  · intro same
    have whole := (same ▸ listed).antisymm part
    exact ⟨same.trans whole.symm, whole.symm⟩
  · rintro ⟨listed, taken⟩
    exact listed.trans taken.symm

end WebIdl.Interface

namespace WebIdl.Definitions

theorem produced_lists (files : List Node) (definitions : Definitions)
    (produced : Produced files definitions) :
    definitions.interfaces.All Interface.ListsHandlers := by
  refine produced_all files _ ?_ ?_ ?_ definitions produced
  · intro _ _ child _ _ interface built
    have alone := Interface.of_node_on_its_own child interface built
    exact Interface.agree_lists interface alone.handlers
  · exact Interface.merge_lists
  · exact Interface.inherit_lists

theorem of_node_handlers_agree (root : Node) (definitions : Definitions)
    (built : ofNode root = .ok definitions) :
    definitions.interfaces.All Interface.HandlersAgree := by
  intro entry member
  have found := Table.get_of_mem _ _ _ member
  obtain ⟨_, child, _, _, made⟩ := interface_declared root definitions built _ _ found
  exact (Interface.of_node_on_its_own child entry.2 made).handlers

-- Reading and merging keep the list of handlers right. Resolving keeps it right for an interface
-- if and only if it is right along the whole chain and no handler of the chain is hidden.
theorem handlers_agree_unless_hidden (files : List Node) (definitions : Definitions)
    (produced : Produced files definitions) :
    definitions.interfaces.All Interface.ListsHandlers ∧
    (∀ root, ofNode root = .ok definitions →
      definitions.interfaces.All Interface.HandlersAgree) ∧
    (∀ units, merge units = .ok definitions →
      (∀ unit ∈ units, unit.interfaces.All Interface.HandlersAgree) →
        definitions.interfaces.All Interface.HandlersAgree) ∧
    ((resolveInheritance definitions).failure = none →
      ∀ name interface, definitions.interfaces.get? name = some interface →
        ∃ above resolved, Lineage definitions.interfaces interface.parent above ∧
          (resolveInheritance definitions).state.interfaces.get? name = some resolved ∧
          (resolved.HandlersAgree ↔
            (∀ other ∈ interface :: above, other.HandlersAgree) ∧
              Interface.NoneHidden interface.names (above.flatMap (·.attributes.list)))) := by
  have known := produced_lists files definitions produced
  refine ⟨known,
    fun root built => of_node_handlers_agree root definitions built,
    fun units done every => merge_keeps _ Interface.merge_agree units definitions done every, ?_⟩
  intro done name interface found
  have spec := resolve_inheritance_spec definitions
  rw [done] at spec
  obtain ⟨above, lineage, value⟩ := spec.2 name interface found
  have chain := lineage_all _ _ known (some name) _ (.entry name interface above found lineage)
  exact ⟨above, interface.withAbove above, lineage, value,
    Interface.with_above_agree_iff interface above chain⟩

def handlerOf (name : String) : Node :=
  (Node.longAttribute name).withChild (Node.attrsOf ["EventHandler"])

def errorAndLoad : Node :=
  Node.fileOf [((Node.interfaceOf "Child" ["x"]).withChild (handlerOf "onerror")).inheriting
    "Parent", (Node.interfaceOf "Parent" ["x"]).withChild (handlerOf "onload")]

theorem handler_taken_over_agrees :
    ∃ definitions child above resolved, Produced [errorAndLoad] definitions ∧
      definitions.interfaces.get? "Child" = some child ∧
      (resolveInheritance definitions).failure = none ∧
      (resolveInheritance definitions).state.interfaces.get? "Child" = some resolved ∧
      (resolved.HandlersAgree ↔ (∀ other ∈ child :: above, other.HandlersAgree) ∧
        Interface.NoneHidden child.names (above.flatMap (·.attributes.list))) ∧
      resolved.HandlersAgree ∧ resolved.eventHandlers.map (·.name) = ["onerror", "onload"] := by
  obtain ⟨definitions, built⟩ : ∃ definitions, ofNode errorAndLoad = .ok definitions := ⟨_, rfl⟩
  have produced := Produced.read errorAndLoad definitions (List.mem_singleton_self _) built
  have resolves := (handlers_agree_unless_hidden _ definitions produced).2.2.2
  cases built
  obtain ⟨above, resolved, _, found, agrees⟩ := resolves rfl "Child" _ rfl
  cases found
  exact ⟨_, _, above, _, produced, rfl, rfl, rfl, agrees, rfl, rfl⟩

theorem redeclared_handler_stays :
    ∃ definitions resolved,
      ofNode (Node.fileOf [(Node.interfaceOf "Parent" []).withChild (handlerOf "onload"),
        (Node.interfaceOf "Child" ["onload"]).inheriting "Parent"]) = .ok definitions ∧
      (resolveInheritance definitions).failure = none ∧
      (resolveInheritance definitions).state.interfaces.get? "Child" = some resolved ∧
      resolved.attributes.list.filter (·.isEventHandler) = [] ∧
      resolved.eventHandlers.map (·.name) = ["onload"] ∧ ¬ resolved.HandlersAgree := by
  refine ⟨_, _, rfl, rfl, rfl, rfl, rfl, ?_⟩
  intro agree
  have lengths := congrArg List.length agree
  cases lengths

end WebIdl.Definitions
