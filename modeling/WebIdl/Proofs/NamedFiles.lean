import WebIdl.Definitions.FileName
import WebIdl.Proofs.DraftNotes
import WebIdl.Proofs.KeptDeclarations

set_option autoImplicit false

namespace WebIdl

structure Title where
  cls : Declaration.Class
  name : String
  isPartial : Bool

def Title.slot (title : Title) : Declaration.Class × String := (title.cls, title.name)

def Declaration.Class.kind : Declaration.Class → String
  | .interface => "Interface"
  | .dictionary => "Dictionary"
  | .enumeration => "Enum"
  | .typedef => "Typedef"
  | .callback => "Callback"

def Node.title? (child : Node) : Option Title :=
  match child.kind with
  | "Interface" => some ⟨.interface, child.label, child.flag "PARTIAL"⟩
  | "Dictionary" => some ⟨.dictionary, child.label, child.flag "PARTIAL"⟩
  | _ => none

def Node.titles (root : Node) : List Title := root.children.filterMap Node.title?

-- The file holds one interface or dictionary at most, and is named after it if it is no fragment.
structure Node.TitledBy (root : Node) (path : String) : Prop where
  one : root.titles.length ≤ 1
  named : ∀ title ∈ root.titles, title.isPartial = false →
    Definitions.fitsStem title.name (Text.fileStem path) = true

namespace Declaration

def title? : Declaration → Option Title
  | .interface value => some ⟨.interface, value.name, value.isPartial⟩
  | .dictionary value => some ⟨.dictionary, value.name, value.isPartial⟩
  | _ => none

theorem title_slot (declaration : Declaration) (title : Title)
    (titled : declaration.title? = some title) :
    title.slot = (declaration.cls, declaration.name) := by
  cases declaration <;> cases titled <;> rfl

theorem stands_at_slot (declaration : Declaration) (title : Title)
    (titled : declaration.title? = some title) (slot : Class × String) :
    declaration.standsAt slot.1 slot.2 = (title.slot == slot) := by
  rw [title_slot declaration title titled]
  rfl

theorem title_counted (declaration : Declaration)
    (counted : declaration.cls = .interface ∨ declaration.cls = .dictionary) :
    declaration.title? ≠ none := by
  cases declaration <;> simp_all [cls, title?]

theorem kind_injective (one other : Class) (same : one.kind = other.kind) : one = other := by
  revert one other
  have apart : ∀ one ∈ [Class.interface, .dictionary, .enumeration, .typedef, .callback],
      ∀ other ∈ [Class.interface, .dictionary, .enumeration, .typedef, .callback],
        one.kind = other.kind → one = other := by decide
  intro one other
  exact apart one (by cases one <;> decide) other (by cases other <;> decide)

theorem of_node_kind (child : Node) (declaration : Declaration)
    (read : ofNode? child = some declaration) : child.kind = declaration.cls.kind := by
  unfold ofNode? at read
  split at read
  case h_6 => cases read
  all_goals
    rename_i kind
    obtain ⟨value, _, rfl⟩ := Option.map_eq_some_iff.mp read
    exact kind

end Declaration

theorem Dictionary.gather_kept (dictionary final : Dictionary) (children : List Node)
    (gathered : gather dictionary children = .ok final) :
    final.name = dictionary.name ∧ final.isPartial = dictionary.isPartial := by
  induction children generalizing dictionary with
  | nil =>
      cases gathered
      exact ⟨rfl, rfl⟩
  | cons child rest ih =>
      unfold gather at gathered
      split at gathered
      · exact (ih _ gathered :)
      · obtain ⟨member, _, gathered⟩ := (bind_ok_iff _ _ _).mp gathered
        exact (ih _ gathered :)
      · obtain ⟨attrs, _, gathered⟩ := (bind_ok_iff _ _ _).mp gathered
        exact (ih _ gathered :)
      · cases gathered

theorem Dictionary.of_node_title (node : Node) (dictionary : Dictionary)
    (built : ofNode node = .ok dictionary) :
    dictionary.name = node.label ∧ dictionary.isPartial = node.flag "PARTIAL" := by
  obtain ⟨name, required, gathered⟩ := (bind_ok_iff _ _ _).mp built
  obtain ⟨sameName, samePartial⟩ := gather_kept _ dictionary node.children gathered
  refine ⟨?_, samePartial⟩
  rw [sameName, Node.label, Node.required_name_ok _ _ _ required]
  rfl

theorem Declaration.of_node_title (child : Node) (declaration : Declaration)
    (read : ofNode? child = some declaration) : child.title? = declaration.title? := by
  have kind := of_node_kind child declaration read
  have made := of_node_reads child declaration read
  cases declaration with
  | interface value =>
      have name := Interface.of_node_name child value made
      have part := Interface.of_node_is_partial child value made
      simp only [Node.title?, kind, title?, cls, Class.kind, Node.label, name, part,
        Option.getD_some]
  | dictionary value =>
      obtain ⟨name, part⟩ := Dictionary.of_node_title child value made
      simp only [Node.title?, kind, title?, cls, Class.kind, name, part]
  | enumeration value =>
      simp only [Node.title?, kind]
      rfl
  | typedef value =>
      simp only [Node.title?, kind]
      rfl
  | callback value =>
      simp only [Node.title?, kind]
      rfl

theorem Declaration.last_title (declarations : List Declaration)
    (titled : ∀ declaration ∈ declarations, declaration.title? ≠ none) :
    (declarations.filterMap title?).getLast? = declarations.getLast?.bind title? := by
  induction declarations using List.reverseRecOn with
  | nil => rfl
  | append_singleton front last _ =>
      obtain ⟨title, found⟩ := Option.ne_none_iff_exists'.mp (titled last (by simp))
      rw [List.filterMap_append, List.filterMap_cons_some found, List.filterMap_nil,
        List.getLast?_concat, List.getLast?_concat, Option.bind_some, found]

namespace Definitions

theorem take_all_titles (definitions final : Definitions) (children : List Node)
    (taken : definitions.takeAll children = .ok final) :
    children.filterMap Node.title? =
      (children.filterMap Declaration.ofNode?).filterMap Declaration.title? := by
  induction children generalizing definitions with
  | nil => rfl
  | cons child rest ih =>
      obtain ⟨next, first, later⟩ := (bind_ok_iff _ _ _).mp taken
      have same := ih next later
      cases take_taken definitions next child first with
      | declaration declaration read =>
          rw [List.filterMap_cons_some read, List.filterMap_cons, List.filterMap_cons,
            Declaration.of_node_title child declaration read, same]
      | inclusion inclusion kind _ =>
          have untitled : child.title? = none := by
            simp only [Node.title?, kind]
            rfl
          rw [List.filterMap_cons_none (Declaration.of_node_inclusion child kind),
            List.filterMap_cons_none untitled, same]

section File

variable (root : Node) (definitions : Definitions) (built : ofNode root = .ok definitions)

include built

theorem titles_declared :
    root.titles = (declarations root).filterMap Declaration.title? := by
  obtain ⟨_, taken⟩ := (of_node_ok_iff root definitions).mp built
  exact take_all_titles _ definitions root.children taken

omit built in
def slots : List (Declaration.Class × String) :=
  definitions.interfaces.keys.map (.interface, ·) ++
    definitions.dictionaries.keys.map (.dictionary, ·)

omit built in
def titleAt (slot : Declaration.Class × String) : Option Title :=
  (definitions.standing slot.2 slot.1).bind Declaration.title?

omit built in
theorem slots_nodup : definitions.slots.Nodup := by
  refine List.nodup_append.mpr
    ⟨definitions.interfaces.keyed.map ?_, definitions.dictionaries.keyed.map ?_, ?_⟩
  · exact fun one other same => (Prod.mk.inj same).2
  · exact fun one other same => (Prod.mk.inj same).2
  · rintro _ interface _ dictionary rfl
    obtain ⟨_, _, rfl⟩ := List.mem_map.mp interface
    obtain ⟨_, _, same⟩ := List.mem_map.mp dictionary
    cases same

theorem title_at (slot : Declaration.Class × String)
    (counted : slot.1 = .interface ∨ slot.1 = .dictionary) :
    definitions.titleAt slot = (root.titles.filter (·.slot == slot)).getLast? := by
  have chosen : root.titles.filter (·.slot == slot) =
      ((declarations root).filter (·.standsAt slot.1 slot.2)).filterMap Declaration.title? := by
    rw [titles_declared root definitions built, List.filter_filterMap, List.filterMap_filter]
    refine List.filterMap_congr fun declaration _ => ?_
    cases titled : declaration.title? with
    | none => simp
    | some title => rw [declaration.stands_at_slot title titled, Option.filter_some]
  have each : ∀ declaration ∈ (declarations root).filter (·.standsAt slot.1 slot.2),
      declaration.title? ≠ none := by
    intro declaration member
    have stands := Bool.and_eq_true_iff.mp (List.mem_filter.mp member).2
    exact declaration.title_counted (eq_of_beq stands.1 ▸ counted)
  rw [titleAt, standing_of_node root definitions built, chosen, Declaration.last_title _ each]
  rfl

omit built in
theorem title_at_absent {α : Type} (table : Table α) (wrap : α → Declaration)
    (cls : Declaration.Class)
    (stands : ∀ name, definitions.standing name cls = (table.get? name).map wrap) (name : String)
    (absent : name ∉ table.keys) : definitions.titleAt (cls, name) = none := by
  rw [titleAt, stands, (Table.get_eq_none_iff table name).mpr absent]
  rfl

omit built in
theorem title_at_entry {α : Type} (table : Table α) (wrap : α → Declaration)
    (cls : Declaration.Class)
    (stands : ∀ name, definitions.standing name cls = (table.get? name).map wrap)
    (entry : String × α) (member : entry ∈ table.entries) :
    definitions.titleAt (cls, entry.1) = (wrap entry.2).title? := by
  rw [titleAt, stands, Table.get_of_mem table entry.1 entry.2 member]
  rfl

omit built in
theorem title_at_interface (entry : String × Interface)
    (member : entry ∈ definitions.interfaces.entries) :
    definitions.titleAt (.interface, entry.1) =
      some ⟨.interface, entry.2.name, entry.2.isPartial⟩ :=
  title_at_entry definitions definitions.interfaces .interface .interface (fun _ => rfl)
    entry member

omit built in
theorem title_at_dictionary (entry : String × Dictionary)
    (member : entry ∈ definitions.dictionaries.entries) :
    definitions.titleAt (.dictionary, entry.1) =
      some ⟨.dictionary, entry.2.name, entry.2.isPartial⟩ :=
  title_at_entry definitions definitions.dictionaries .dictionary .dictionary (fun _ => rfl)
    entry member

omit built in
theorem named_titles :
    definitions.named.map some =
      definitions.slots.map fun slot =>
        (definitions.titleAt slot).map fun title => (title.name, title.isPartial) := by
  simp only [named, slots, Table.values, Table.keys_eq, List.map_append, List.map_map]
  congr 1
  · refine List.map_congr_left fun entry member => ?_
    simp [title_at_interface definitions entry member]
  · refine List.map_congr_left fun entry member => ?_
    simp [title_at_dictionary definitions entry member]

theorem slot_titled (slot : Declaration.Class × String) (member : slot ∈ definitions.slots) :
    definitions.titleAt slot = (root.titles.filter (·.slot == slot)).getLast? ∧
      ∃ title ∈ root.titles, title.slot = slot := by
  have stands : (slot.1 = .interface ∨ slot.1 = .dictionary) ∧
      ∃ title, definitions.titleAt slot = some title := by
    rcases List.mem_append.mp member with interface | dictionary
    · obtain ⟨_, key, rfl⟩ := List.mem_map.mp interface
      obtain ⟨entry, listed, rfl⟩ := (Table.mem_keys_iff _ _).mp key
      exact ⟨.inl rfl, _, title_at_interface definitions entry listed⟩
    · obtain ⟨_, key, rfl⟩ := List.mem_map.mp dictionary
      obtain ⟨entry, listed, rfl⟩ := (Table.mem_keys_iff _ _).mp key
      exact ⟨.inr rfl, _, title_at_dictionary definitions entry listed⟩
  obtain ⟨counted, title, found⟩ := stands
  have last := title_at root definitions built slot counted
  rw [found] at last
  obtain ⟨listed, same⟩ := List.mem_filter.mp (List.mem_of_getLast? last.symm)
  exact ⟨found.trans last, title, listed, eq_of_beq same⟩

theorem title_slotted (title : Title) (member : title ∈ root.titles) :
    title.slot ∈ definitions.slots := by
  have stands : (title.slot.1 = .interface ∨ title.slot.1 = .dictionary) →
      definitions.titleAt title.slot ≠ none := by
    intro counted
    rw [title_at root definitions built title.slot counted, ne_eq, List.getLast?_eq_none_iff]
    exact List.ne_nil_of_mem (List.mem_filter.mpr ⟨member, beq_self_eq_true _⟩)
  rw [titles_declared root definitions built] at member
  obtain ⟨declaration, _, titled⟩ := List.mem_filterMap.mp member
  rw [declaration.title_slot title titled] at stands ⊢
  cases declaration with
  | interface value =>
      refine List.mem_append_left _ (List.mem_map_of_mem (not_not.mp fun absent => ?_))
      exact stands (.inl rfl) (title_at_absent definitions definitions.interfaces .interface
        .interface (fun _ => rfl) value.name absent)
  | dictionary value =>
      refine List.mem_append_right _ (List.mem_map_of_mem (not_not.mp fun absent => ?_))
      exact stands (.inr rfl) (title_at_absent definitions definitions.dictionaries .dictionary
        .dictionary (fun _ => rfl) value.name absent)
  | enumeration value => cases titled
  | typedef value => cases titled
  | callback value => cases titled

theorem table_declared {α : Type} (table : Table α) (wrap : α → Declaration)
    (cls : Declaration.Class)
    (stands : ∀ name, definitions.standing name cls = (table.get? name).map wrap) :
    table.isEmpty = false ↔ ∃ child ∈ root.children, child.kind = cls.kind := by
  constructor
  · intro inhabited
    obtain ⟨entry, listed⟩ := List.isEmpty_eq_false_iff_exists_mem.mp inhabited
    have present := (Table.contains_iff table entry.1).mpr (Table.key_of_mem table entry listed)
    obtain ⟨value, found⟩ := Option.isSome_iff_exists.mp present
    have last := stands entry.1
    rw [found, standing_of_node root definitions built] at last
    obtain ⟨declared, here⟩ := List.mem_filter.mp (List.mem_of_getLast? last)
    obtain ⟨child, member, read⟩ := List.mem_filterMap.mp declared
    refine ⟨child, member, ?_⟩
    rw [Declaration.of_node_kind child _ read, eq_of_beq (Bool.and_eq_true_iff.mp here).1]
  · rintro ⟨child, member, kind⟩
    have other : child.kind ≠ "Includes" := by
      rw [kind]
      cases cls <;> decide
    obtain ⟨_, taken⟩ := (of_node_ok_iff root definitions).mp built
    obtain ⟨declaration, read⟩ := take_all_declares _ definitions _ taken child member other
    obtain rfl := Declaration.kind_injective _ _
      (kind.symm.trans (Declaration.of_node_kind child declaration read))
    have listed : declaration ∈ (root.children.filterMap Declaration.ofNode?).filter
        (·.standsAt declaration.cls declaration.name) :=
      List.mem_filter.mpr ⟨List.mem_filterMap.mpr ⟨child, member, read⟩, declaration.stands_at_own⟩
    have there := List.getLast?_eq_none_iff.not.mpr (List.ne_nil_of_mem listed)
    rw [← standing_of_node root definitions built, stands] at there
    refine Bool.eq_false_iff.mpr fun empty => there ?_
    rw [(Table.get_eq_none_iff table _).mpr, Option.map_none]
    rw [(Table.is_empty_iff table).mp empty]
    exact List.not_mem_nil

theorem others_declared :
    definitions.hasOthers = true ↔
      ∃ child ∈ root.children, child.kind ∈ ["Enum", "Typedef", "Callback"] := by
  have enumerations := table_declared root definitions built definitions.enumerations .enumeration
    .enumeration fun _ => rfl
  have typedefs := table_declared root definitions built definitions.typedefs .typedef
    .typedef fun _ => rfl
  have callbacks := table_declared root definitions built definitions.callbacks .callback
    .callback fun _ => rfl
  simp only [hasOthers, Bool.or_eq_true, Bool.not_eq_true', enumerations, typedefs, callbacks,
    Declaration.Class.kind, List.mem_cons, List.not_mem_nil, or_false]
  simp only [← exists_or, ← and_or_left, or_assoc]

theorem one_slot (slot : Declaration.Class × String) (counted : definitions.slots = [slot]) :
    ∃ last, root.titles.getLast? = some last ∧ (∀ title ∈ root.titles, title.slot = last.slot) ∧
      definitions.named = [(last.name, last.isPartial)] := by
  obtain ⟨found, title, member, _⟩ := slot_titled root definitions built slot (by simp [counted])
  have all : ∀ title ∈ root.titles, title.slot = slot := fun title member => by
    simpa [counted] using title_slotted root definitions built title member
  have whole : root.titles.filter (·.slot == slot) = root.titles :=
    List.filter_eq_self.mpr fun title member => by simp [all title member]
  obtain ⟨last, stands⟩ := Option.ne_none_iff_exists'.mp
    (List.getLast?_eq_none_iff.not.mpr (List.ne_nil_of_mem member))
  refine ⟨last, stands, fun title member => ?_, ?_⟩
  · rw [all title member, all last (List.mem_of_getLast? stands)]
  · have named := named_titles definitions
    rw [counted, List.map_singleton, found, whole, stands] at named
    exact List.map_injective_iff.mpr (fun _ _ => Option.some.inj) named

theorem several_slots (one other : Declaration.Class × String)
    (rest : List (Declaration.Class × String))
    (counted : definitions.slots = one :: other :: rest) :
    (∃ first second others, definitions.named = first :: second :: others) ∧
      ∃ last, root.titles.getLast? = some last ∧
        ¬ ∀ title ∈ root.titles, title.slot = last.slot := by
  constructor
  · have length := congrArg List.length (named_titles definitions)
    rw [counted, List.length_map, List.length_map] at length
    match definitions.named, length with
    | first :: second :: others, _ => exact ⟨first, second, others, rfl⟩
  · have distinct := slots_nodup definitions
    rw [counted, List.nodup_cons] at distinct
    obtain ⟨_, title, member, here⟩ := slot_titled root definitions built one (by simp [counted])
    obtain ⟨_, next, alsoMember, there⟩ :=
      slot_titled root definitions built other (by simp [counted])
    obtain ⟨last, stands⟩ := Option.ne_none_iff_exists'.mp
      (List.getLast?_eq_none_iff.not.mpr (List.ne_nil_of_mem member))
    refine ⟨last, stands, fun all => distinct.1 ?_⟩
    have same := (all title member).trans (all next alsoMember).symm
    rw [here, there] at same
    exact same ▸ List.mem_cons_self

theorem check_file_name_iff (path : String) :
    definitions.checkFileName path = .ok () ↔
      match root.titles.getLast? with
      | none => ∃ child ∈ root.children, child.kind ∈ ["Enum", "Typedef", "Callback"]
      | some last => (∀ title ∈ root.titles, title.slot = last.slot) ∧
          (last.isPartial = true ∨ fitsStem last.name (Text.fileStem path) = true) := by
  match counted : definitions.slots with
  | [] =>
      have untitled : root.titles = [] :=
        List.eq_nil_iff_forall_not_mem.mpr fun title member => by
          simpa [counted] using title_slotted root definitions built title member
      have named := named_titles definitions
      rw [counted, List.map_nil, List.map_eq_nil_iff] at named
      simp only [untitled, checkFileName, named, List.getLast?_nil]
      rw [← others_declared root definitions built]
      cases definitions.hasOthers <;> simp
  | [slot] =>
      obtain ⟨last, stands, all, named⟩ := one_slot root definitions built slot counted
      rw [stands]
      by_cases fits : last.isPartial = true ∨ fitsStem last.name (Text.fileStem path) = true
      · simpa [checkFileName, named, fits] using all
      · simp [checkFileName, named, fits]
  | one :: other :: rest =>
      obtain ⟨⟨_, _, _, several⟩, last, stands, apart⟩ :=
        several_slots root definitions built one other rest counted
      rw [stands]
      exact iff_of_false (by simp [checkFileName, several]) fun passes => apart passes.1

theorem titled_iff_declared_once (path : String)
    (passes : definitions.checkFileName path = .ok ()) :
    (root.TitledBy path ↔ (root.titles.map (·.slot)).Nodup) ∧
      ∀ last, root.titles.getLast? = some last →
        (∀ title ∈ root.titles, title.slot = last.slot) ∧
          (last.isPartial = true ∨ fitsStem last.name (Text.fileStem path) = true) := by
  rw [check_file_name_iff root definitions built] at passes
  cases stands : root.titles.getLast? with
  | none =>
      have untitled := List.getLast?_eq_none_iff.mp stands
      refine ⟨iff_of_true ⟨?_, ?_⟩ ?_, by simp⟩ <;> simp [untitled]
  | some last =>
      rw [stands] at passes
      obtain ⟨same, fits⟩ := passes
      have slots : root.titles.map (·.slot) = List.replicate root.titles.length last.slot :=
        List.map_eq_replicate_iff.mpr same
      have titled : root.titles.length ≤ 1 → root.TitledBy path := by
        intro one
        refine ⟨one, fun title member whole => ?_⟩
        match listed : root.titles, one with
        | [only], _ =>
            rw [listed] at member stands
            obtain rfl := List.mem_singleton.mp member
            cases stands
            exact fits.resolve_left (Bool.eq_false_iff.mp whole)
        | [], _ => simp [listed] at member
      refine ⟨?_, ?_⟩
      · rw [slots, List.nodup_replicate]
        exact ⟨Node.TitledBy.one, titled⟩
      · rintro _ ⟨⟩
        exact ⟨same, fits⟩

end File

theorem snake_case_file_titled :
    ∃ definitions,
      ofNode (Node.fileOf [(Node.leaf "Enum").named "Mode",
        Node.interfaceOf "ReadableStream" ["locked"]]) = .ok definitions ∧
      definitions.checkFileName "streams/readable_stream.json" = .ok () ∧
      (Node.fileOf [(Node.leaf "Enum").named "Mode",
        Node.interfaceOf "ReadableStream" ["locked"]]).TitledBy "streams/readable_stream.json" := by
  obtain ⟨definitions, built⟩ : ∃ definitions, ofNode (Node.fileOf [(Node.leaf "Enum").named "Mode",
    Node.interfaceOf "ReadableStream" ["locked"]]) = .ok definitions := ⟨_, rfl⟩
  have titled := titled_iff_declared_once _ definitions built "streams/readable_stream.json"
  cases built
  exact ⟨_, rfl, rfl, (titled rfl).1.mpr (List.nodup_singleton _)⟩

theorem misnamed_behind_fragment :
    ∃ definitions,
      ofNode (Node.fileOf [Node.interfaceOf "Foo" ["x"],
        (Node.interfaceOf "Foo" ["y"]).asPartial]) = .ok definitions ∧
      definitions.checkFileName "Bar.idl" = .ok () ∧
      ¬ (Node.fileOf [Node.interfaceOf "Foo" ["x"],
        (Node.interfaceOf "Foo" ["y"]).asPartial]).TitledBy "Bar.idl" :=
  ⟨_, rfl, rfl, fun titled => absurd titled.one (by decide)⟩

end Definitions

end WebIdl
