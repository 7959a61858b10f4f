import WebIdl.Member.OfNode
import WebIdl.Proofs.AttributeGrammar

set_option autoImplicit false

namespace WebIdl

namespace Operation

structure ListedName (name : String) : Prop where
  named : name ≠ ""
  apart : ',' ∉ name.toList
  solid : name.toList.any Unicode.isBlank = false

def Padded (name : String) (part : List Char) : Prop :=
  ∃ before after, part = List.replicate before ' ' ++ name.toList ++ List.replicate after ' '

def Parenthesised (names : List String) (text : String) : Prop :=
  ∃ parts, List.Forall₂ Padded names parts ∧
    text.toList = '(' :: [','].intercalate parts ++ [')']

def middle (text : String) : String := String.ofList text.toList.tail.dropLast

theorem filter_intercalate (test : Char → Bool) (mark : Char) (parts : List (List Char))
    (kept : test mark = true) : ([mark].intercalate parts).filter test =
      [mark].intercalate (parts.map (·.filter test)) := by
  cases parts with
  | nil => rfl
  | cons first rest =>
      rw [List.map_cons, Text.intercalate_cons, Text.intercalate_cons, List.filter_append,
        List.filter_flatMap, List.flatMap_map]
      simp only [List.filter_cons, if_pos kept]

theorem ListedName.unspaced {name : String} (listed : ListedName name) :
    ∀ c ∈ name.toList, Unicode.isBlank c = false := by
  simpa using listed.solid

theorem solid_kept (text : List Char) (solid : ∀ c ∈ text, Unicode.isBlank c = false) :
    text.filter (· != ' ') = text := by
  refine List.filter_eq_self.mpr fun c listed => bne_iff_ne.mpr ?_
  rintro rfl
  cases solid ' ' listed

theorem padded_bare (names : List String) (parts : List (List Char))
    (listed : ∀ name ∈ names, ListedName name) (padded : List.Forall₂ Padded names parts) :
    parts.map (·.filter (· != ' ')) = names.map String.toList := by
  induction padded with
  | nil => rfl
  | cons around _ ih =>
      obtain ⟨own, others⟩ := List.forall_mem_cons.mp listed
      obtain ⟨before, after, rfl⟩ := around
      have spaces : ∀ count, (List.replicate count ' ').filter (· != ' ') = [] := by simp
      rw [List.map_cons, List.map_cons, ih others, List.filter_append, List.filter_append, spaces,
        spaces, solid_kept _ own.unspaced, List.nil_append, List.append_nil]

theorem split_names_parenthesised (names : List String) (text : String)
    (listed : ∀ name ∈ names, ListedName name) (around : Parenthesised names text) :
    splitNames text.toList = names := by
  obtain ⟨parts, padded, shape⟩ := around
  have inside : text.toList.tail.dropLast = [','].intercalate parts := by
    rw [shape, List.cons_append, List.tail_cons, List.dropLast_concat]
  have apart : ∀ part ∈ names.map String.toList, ',' ∉ part :=
    List.forall_mem_map.mpr fun name among => (listed name among).apart
  have inked : ∀ part ∈ names.map String.toList, (!part.isEmpty) = true :=
    List.forall_mem_map.mpr fun name among => by simpa using (listed name among).named
  rw [splitNames, inside, filter_intercalate _ ',' parts (by decide),
    padded_bare names parts listed padded]
  cases names with
  | nil => rfl
  | cons first rest =>
      have some_name : (first :: rest).map String.toList ≠ [] := List.cons_ne_nil _ _
      rw [Text.split_at_intercalate ',' _ some_name apart]
      simp only [List.filter_eq_self.mpr inked, List.map_map]
      exact List.map_id'' (fun _ => String.ofList_toList) _

theorem split_names_bare (name : String) (listed : ListedName name) :
    splitNames name.toList = if middle name = "" then [] else [middle name] := by
  have within : ∀ c ∈ name.toList.tail.dropLast, c ∈ name.toList := fun c inside =>
    List.mem_of_mem_tail (List.dropLast_subset _ inside)
  have solid := solid_kept _ fun c inside => listed.unspaced c (within c inside)
  have whole := Text.split_at_intercalate ',' [name.toList.tail.dropLast] (List.cons_ne_nil _ _)
    (List.forall_mem_singleton.mpr fun inside => listed.apart (within ',' inside))
  rw [List.intercalate_singleton] at whole
  rw [splitNames, solid, whole, middle]
  by_cases nothing : name.toList.tail.dropLast = [] <;> simp [nothing]

theorem split_names_loses (name : String) (listed : ListedName name) :
    splitNames name.toList ≠ [name] := by
  rw [split_names_bare name listed]
  split
  · exact (List.cons_ne_nil _ _).symm
  · intro same
    have long : name.toList.length ≠ 0 := by simpa using listed.named
    have length := congrArg (fun text => text.toList.length) (List.singleton_inj.mp same)
    simp only [middle, String.toList_ofList, List.length_dropLast, List.length_tail] at length
    omega

theorem listed_names (names : List String) (listed : ∀ name ∈ names, ListedName name) :
    (names.map fun name => String.ofList (Unicode.trim name.toList)) = names := by
  refine (List.map_congr_left fun name among => ?_).trans (List.map_id names)
  rw [Unicode.trim_solid _ (listed name among).unspaced, String.ofList_toList]
  rfl

theorem gather_cons (name : Option String) (parts : Parts) (child : Node) (rest : List Node) :
    gather name parts (child :: rest) =
      gather name parts [child] >>= fun next => gather name next rest := by
  simp only [gather]
  split
  · cases Argument.ofParent child <;> rfl
  · cases IdlType.ofNode child <;> rfl
  · cases ExtAttrs.ofNode child <;> rfl
  · rfl

theorem gather_append (name : Option String) (parts : Parts) (front back : List Node) :
    gather name parts (front ++ back) =
      gather name parts front >>= fun next => gather name next back := by
  induction front generalizing parts with
  | nil => rfl
  | cons child rest ih =>
      rw [List.cons_append, gather_cons, gather_cons name parts child rest, bind_assoc]
      exact congrArg _ (funext ih)

def Parts.withAttrs (parts : Parts) (attrs : ExtAttrs) : Parts := { parts with attrs }

theorem gather_one_with_attrs (name : Option String) (parts : Parts) (attrs : ExtAttrs)
    (child : Node) (other : child.kind ≠ "ExtAttributes") :
    gather name (parts.withAttrs attrs) [child] =
      (gather name parts [child]).map (·.withAttrs attrs) := by
  simp only [gather]
  split
  · cases Argument.ofParent child <;> rfl
  · cases IdlType.ofNode child <;> rfl
  · next kind => exact absurd kind other
  · rfl

theorem gather_with_attrs (name : Option String) (parts : Parts) (attrs : ExtAttrs)
    (children : List Node) (others : ∀ child ∈ children, child.kind ≠ "ExtAttributes") :
    gather name (parts.withAttrs attrs) children =
      (gather name parts children).map (·.withAttrs attrs) := by
  induction children generalizing parts with
  | nil => rfl
  | cons child rest ih =>
      obtain ⟨other, others⟩ := List.forall_mem_cons.mp others
      rw [gather_cons, gather_cons name parts, gather_one_with_attrs name parts attrs child other]
      cases gather name parts [child] with
      | error => rfl
      | ok next => exact ih next others

theorem gather_last_list (name : Option String) (parts final : Parts) (front back : List Node)
    (list : Node) (kind : list.kind = "ExtAttributes")
    (others : ∀ child ∈ back, child.kind ≠ "ExtAttributes") :
    gather name parts (front ++ list :: back) = .ok final ↔
      ∃ first attrs last, gather name parts front = .ok first ∧ ExtAttrs.ofNode list = .ok attrs ∧
        gather name first back = .ok last ∧ final = last.withAttrs attrs := by
  have taken : ∀ first, gather name first [list] =
      (ExtAttrs.ofNode list).map first.withAttrs := by
    intro first
    simp only [gather, kind]
    cases ExtAttrs.ofNode list <;> rfl
  simp only [gather_append, gather_cons name _ list back, taken, bind_ok_iff, map_ok_iff]
  constructor
  · rintro ⟨first, gathered, _, ⟨attrs, read, rfl⟩, rest⟩
    rw [gather_with_attrs name first attrs back others, map_ok_iff] at rest
    obtain ⟨last, rest, rfl⟩ := rest
    exact ⟨first, attrs, last, gathered, read, rest, rfl⟩
  · rintro ⟨first, attrs, last, gathered, read, rest, rfl⟩
    refine ⟨first, gathered, _, ⟨attrs, read, rfl⟩, ?_⟩
    rw [gather_with_attrs name first attrs back others, rest]
    rfl

end Operation

theorem ExtAttrs.of_nodes_append (attrs : ExtAttrs) (front back : List Node) :
    ofNodes attrs (front ++ back) = ofNodes attrs front >>= fun next => ofNodes next back := by
  induction front generalizing attrs with
  | nil => rfl
  | cons node rest ih => simp only [List.cons_append, ofNodes, bind_assoc, ih]

-- An operation with a place for what `[CallAfter]` says, in its last list of extended attributes
-- and behind every other attribute of that name.
structure CallSlot where
  node : Node
  before : List Node
  list : Node
  earlier : List Node
  call : Node
  later : List Node
  after : List Node
  lists : list.kind = "ExtAttributes"
  calls : call.name = some "CallAfter"
  alone : call.children = []
  lastCall : ∀ other ∈ later, other.label ≠ "CallAfter"
  lastList : ∀ child ∈ after, child.kind ≠ "ExtAttributes"

namespace CallSlot

variable (slot : CallSlot) (value other : PropertyValue)

def attributes : Node :=
  { slot.list with
    children := slot.earlier ++ slot.call.withProperty "VALUE" value :: slot.later }

def fill : Node :=
  { slot.node with children := slot.before ++ slot.attributes value :: slot.after }

theorem call_read : ExtAttrs.entryOf (slot.call.withProperty "VALUE" value) =
    .ok ("CallAfter", ExtAttrValue.ofProperty (some value)) := by
  have given : (slot.call.withProperty "VALUE" value).property "VALUE" = some value := by
    rw [Node.property, Node.withProperty, Table.get_insert, if_pos rfl]
  refine (ExtAttrs.entry_of_iff _ _).mpr ⟨slot.calls, ?_⟩
  refine .plain "CallAfter" _ ⟨slot.calls, by decide⟩ (by decide) slot.alone ?_
  rw [given]
  exact (ExtAttrs.plain_iff _ _).mp rfl

theorem filled_list_read_iff (attrs : ExtAttrs) :
    ExtAttrs.ofNode (slot.attributes value) = .ok attrs ↔
      ∃ first entries, ExtAttrs.ofNodes .empty slot.earlier = .ok first ∧
        List.Forall₂ ExtAttrs.Puts slot.later entries ∧
        attrs = (first.insert "CallAfter" (ExtAttrValue.ofProperty (some value))).insertAll
          entries := by
  rw [ExtAttrs.of_node_eq, attributes, ExtAttrs.of_nodes_append, bind_ok_iff]
  refine exists_congr fun first => ?_
  rw [ExtAttrs.ofNodes, slot.call_read value, exists_and_left]
  exact and_congr_right fun _ => ExtAttrs.of_nodes_iff _ _ _

theorem later_calls (entries : List (String × ExtAttrValue))
    (puts : List.Forall₂ ExtAttrs.Puts slot.later entries) :
    Table.under "CallAfter" entries = [] := by
  rw [Table.under_eq_nil_iff, ExtAttrs.labels_read slot.later entries puts, List.mem_map]
  rintro ⟨other, declared, called⟩
  exact slot.lastCall other declared called

theorem call_found (attrs : ExtAttrs)
    (read : ExtAttrs.ofNode (slot.attributes value) = .ok attrs) :
    attrs.get? "CallAfter" = some (ExtAttrValue.ofProperty (some value)) := by
  obtain ⟨first, entries, -, puts, rfl⟩ := (slot.filled_list_read_iff value attrs).mp read
  rw [Table.get_insert_all, slot.later_calls entries puts, Table.get_insert, if_pos rfl]
  rfl

theorem others_alike (attrs : ExtAttrs)
    (read : ExtAttrs.ofNode (slot.attributes value) = .ok attrs) :
    ∃ others, ExtAttrs.ofNode (slot.attributes other) = .ok others ∧
      ∀ name, name ≠ "CallAfter" → others.get? name = attrs.get? name := by
  obtain ⟨first, entries, begun, puts, rfl⟩ := (slot.filled_list_read_iff value attrs).mp read
  refine ⟨_, (slot.filled_list_read_iff other _).mpr ⟨first, entries, begun, puts, rfl⟩, ?_⟩
  intro name apart
  simp only [Table.get_insert_all, Table.get_insert, if_neg apart.symm]

theorem fill_gathered_iff (final : Operation.Parts) :
    Operation.gather (slot.fill value).name .empty (slot.fill value).children = .ok final ↔
      ∃ first attrs last, Operation.gather slot.node.name .empty slot.before = .ok first ∧
        ExtAttrs.ofNode (slot.attributes value) = .ok attrs ∧
        Operation.gather slot.node.name first slot.after = .ok last ∧
        final = last.withAttrs attrs :=
  Operation.gather_last_list slot.node.name .empty final slot.before slot.after
    (slot.attributes value) slot.lists slot.lastList

theorem fill_read_for (operation : Operation)
    (read : Operation.ofNode (slot.fill value) = .ok operation) :
    ∃ operation, Operation.ofNode (slot.fill other) = .ok operation := by
  obtain ⟨parts, given⟩ := Operation.of_node_given _ operation read
  obtain ⟨first, attrs, last, begun, listed, ended, rfl⟩ :=
    (slot.fill_gathered_iff value parts).mp given.gathered
  obtain ⟨others, relisted, alike⟩ := slot.others_alike value other attrs listed
  have regathered :=
    (slot.fill_gathered_iff other _).mpr ⟨first, others, last, begun, relisted, ended, rfl⟩
  have weighed : Operation.weightOf others = Operation.weightOf attrs := by
    rw [Operation.weightOf, alike "Weight" (by decide), Operation.weightOf]
  have marked : others.contains "Unforgeable" = attrs.contains "Unforgeable" :=
    congrArg Option.isSome (alike "Unforgeable" (by decide))
  refine Operation.given_of_node _ _ operation.weight regathered ?_ (weighed.trans given.weighed)
  rw [Operation.Parts.withAttrs, marked]
  exact given.forgeable

theorem fill_calls (operation : Operation)
    (read : Operation.ofNode (slot.fill value) = .ok operation) :
    operation.attrs.get? "CallAfter" = some (ExtAttrValue.ofProperty (some value)) ∧
      operation.callAfter = Operation.callAfterOf operation.attrs := by
  obtain ⟨parts, given⟩ := Operation.of_node_given _ operation read
  obtain ⟨-, attrs, last, -, listed, -, rfl⟩ :=
    (slot.fill_gathered_iff value parts).mp given.gathered
  rw [given.callAfter, given.attrs]
  exact ⟨slot.call_found value attrs listed, rfl⟩

end CallSlot

inductive CallForm (names : List String) : PropertyValue → Prop
  | list : CallForm names (.list names)
  | text (text : String) (around : Operation.Parenthesised names text) : CallForm names (.text text)
  | bare (name : String) (only : names = [name]) : CallForm names (.text name)

-- The names are read as they are from every form but the bare one. It says one name, and that name
-- is never what is read.
theorem Operation.call_after_read_iff (slot : CallSlot) (names : List String)
    (listed : ∀ name ∈ names, ListedName name) (value : PropertyValue)
    (form : CallForm names value) :
    (∀ other, (∃ operation, ofNode (slot.fill value) = .ok operation) ↔
        ∃ operation, ofNode (slot.fill other) = .ok operation) ∧
      ∀ operation, ofNode (slot.fill value) = .ok operation →
        (operation.callAfter = names ↔ ∀ name, names = [name] → value ≠ .text name) ∧
        ∀ name, names = [name] → value = .text name →
          operation.callAfter = if middle name = "" then [] else [middle name] := by
  refine ⟨fun other => ⟨fun ⟨operation, read⟩ => slot.fill_read_for value other operation read,
    fun ⟨operation, read⟩ => slot.fill_read_for other value operation read⟩, ?_⟩
  intro operation read
  obtain ⟨given, follows⟩ := slot.fill_calls value operation read
  rw [callAfterOf, given] at follows
  rw [follows]
  cases form with
  | list =>
      refine ⟨iff_of_true (listed_names names listed) ?_, ?_⟩ <;> rintro _ _ ⟨⟩
  | text text around =>
      have found := split_names_parenthesised names text listed around
      have whole : ∀ name, names = [name] → PropertyValue.text text ≠ .text name := by
        rintro name rfl ⟨⟩
        exact split_names_loses text (listed text List.mem_cons_self) found
      exact ⟨iff_of_true found whole, fun name only same => absurd same (whole name only)⟩
  | bare name only =>
      subst only
      have own := listed name List.mem_cons_self
      refine ⟨iff_of_false (split_names_loses name own) fun none => none name rfl rfl, ?_⟩
      rintro _ ⟨⟩ ⟨⟩
      exact split_names_bare name own

def sendSlot : CallSlot where
  node := (Node.leaf "Operation").named "send"
  before := [Node.leaf "Arguments"]
  list := Node.leaf "ExtAttributes"
  earlier := [((Node.leaf "ExtAttribute").named "CallAfter").withProperty "VALUE" (.text "close")]
  call := (Node.leaf "ExtAttribute").named "CallAfter"
  later := [((Node.leaf "ExtAttribute").named "Weight").withProperty "VALUE" (.text "3")]
  after := [(Node.leaf "Type").withChild (Node.leaf "Any")]
  lists := rfl
  calls := rfl
  alone := rfl
  lastCall := by decide
  lastList := by decide

theorem Operation.spaced_names_read :
    (∀ name ∈ ["open", "bind"], ListedName name) ∧
      CallForm ["open", "bind"] (.text "( open ,bind  )") ∧
      ∃ operation, ofNode (sendSlot.fill (.text "( open ,bind  )")) = .ok operation ∧
        operation.callAfter = ["open", "bind"] := by
  have listed : ∀ name ∈ ["open", "bind"], ListedName name :=
    List.forall_mem_cons.mpr ⟨⟨by decide, by decide, by decide⟩,
      List.forall_mem_singleton.mpr ⟨by decide, by decide, by decide⟩⟩
  have form : CallForm ["open", "bind"] (.text "( open ,bind  )") :=
    .text _ ⟨[" open ".toList, "bind  ".toList], .cons ⟨1, 1, rfl⟩ (.cons ⟨0, 2, rfl⟩ .nil), rfl⟩
  obtain ⟨operation, read⟩ : ∃ operation,
    ofNode (sendSlot.fill (.text "( open ,bind  )")) = .ok operation := ⟨_, rfl⟩
  have whole := ((call_after_read_iff sendSlot _ listed _ form).2 operation read).1
  exact ⟨listed, form, operation, read, whole.mpr fun _ several => by cases several⟩

theorem Operation.bare_name_cut :
    (∃ operation, ofNode (sendSlot.fill (.text "open")) = .ok operation ∧
        operation.callAfter = ["pe"]) ∧
      ¬ ∀ names value, names ≠ [] →
        (∀ name ∈ names, ListedName name ∧ '(' ∉ name.toList ∧ ')' ∉ name.toList) →
        CallForm names value →
        ∃ operation, ofNode (sendSlot.fill value) = .ok operation ∧
          operation.callAfter = names := by
  have cut : ∃ operation, ofNode (sendSlot.fill (.text "open")) = .ok operation ∧
      operation.callAfter = ["pe"] := ⟨_, rfl, rfl⟩
  refine ⟨cut, fun every => ?_⟩
  obtain ⟨operation, read, called⟩ := cut
  have listed : ListedName "open" := ⟨by decide, by decide, by decide⟩
  obtain ⟨again, reread, whole⟩ := every ["open"] (.text "open") (List.cons_ne_nil _ _)
    (List.forall_mem_singleton.mpr ⟨listed, by decide, by decide⟩) (.bare "open" rfl)
  rw [read] at reread
  cases reread
  rw [called] at whole
  exact absurd whole (by decide)

end WebIdl
