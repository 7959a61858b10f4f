import Mathlib.Data.List.Forall2
import WebIdl.Proofs.Absorbing
import WebIdl.Proofs.TypeGrammar

set_option autoImplicit false

namespace WebIdl

namespace Table

variable {α : Type}

theorem keys_insert_all (table : Table α) (entries : List (String × α)) :
    (table.insertAll entries).keys =
      table.keys ++ ((entries.map (·.1)).filter (!table.keys.contains ·)).eraseDups := by
  rw [← new_only_from, joinNew, insertAll]
  induction entries generalizing table with
  | nil => rfl
  | cons entry rest ih =>
      rw [List.foldl_cons, ih, List.map_cons, List.foldl_cons, keys_insert]
      simp only [List.contains_iff_mem]

theorem entries_listed (table : Table α) :
    table.entries = table.keys.filterMap fun name => (table.get? name).map (Prod.mk name) := by
  have own : ∀ entry ∈ table.entries,
      (table.get? entry.1).map (Prod.mk entry.1) = some entry := by
    intro entry member
    rw [get_of_mem table entry.1 entry.2 member, Option.map_some]
  rw [keys_eq, List.filterMap_map]
  exact ((List.filterMap_congr own).trans List.filterMap_some).symm

theorem eq_of_get (table other : Table α) (keys : table.keys = other.keys)
    (values : ∀ name, table.get? name = other.get? name) : table = other :=
  ext (by rw [entries_listed table, entries_listed other, keys, funext values])

end Table

section Related

variable {α β : Type} {related : α → β → Prop}

theorem all_related_iff (items : List α) :
    (∃ others, List.Forall₂ related items others) ↔
      ∀ item ∈ items, ∃ other, related item other := by
  induction items with
  | nil => exact ⟨fun _ _ listed => (List.not_mem_nil listed).elim, fun _ => ⟨[], .nil⟩⟩
  | cons item rest ih =>
      rw [List.forall_mem_cons, ← ih]
      constructor
      · rintro ⟨_, _ | ⟨first, later⟩⟩
        exact ⟨⟨_, first⟩, _, later⟩
      · rintro ⟨⟨_, first⟩, _, later⟩
        exact ⟨_, .cons first later⟩

theorem last_related (items : List α) (others : List β) (each : List.Forall₂ related items others) :
    Option.Rel related items.getLast? others.getLast? := by
  rw [← List.head?_reverse, ← List.head?_reverse]
  exact match items.reverse, others.reverse, List.forall₂_reverse_iff.mpr each with
  | _, _, .nil => .none
  | _, _, .cons last _ => .some last

end Related

theorem Argument.of_nodes_iff (nodes : List Node) (arguments : List Argument) :
    ofNodes nodes = .ok arguments ↔
      List.Forall₂ (fun node argument => ofNode node = .ok argument) nodes arguments := by
  induction nodes generalizing arguments with
  | nil => rw [ofNodes, List.forall₂_nil_left_iff, Except.ok.injEq, eq_comm]
  | cons node rest ih =>
      simp only [ofNodes, bind_ok_iff, ih, List.forall₂_cons_left_iff]
      constructor
      · rintro ⟨argument, first, others, later, ⟨⟩⟩
        exact ⟨argument, others, first, later, rfl⟩
      · rintro ⟨argument, others, first, later, rfl⟩
        exact ⟨argument, first, others, later, rfl⟩

structure Node.Arguments (node : Node) (arguments : List Argument) : Prop where
  kind : node.kind = "Arguments"
  each : List.Forall₂ (fun child argument => Argument.ofNode child = .ok argument) node.children
    arguments

theorem Node.arguments_iff (place : Place) (node : Node) (arguments : List Argument) :
    (do expectKind "Arguments" place node.kind; Argument.ofParent node) = .ok arguments ↔
      node.Arguments arguments := by
  obtain ⟨kind, _, _, children⟩ := node
  simp only [bind_ok_iff, expect_kind_iff, Argument.ofParent, Argument.of_nodes_iff]
  exact ⟨fun ⟨_, kind, each⟩ => ⟨kind, each⟩, fun ⟨kind, each⟩ => ⟨(), kind, each⟩⟩

namespace ExtAttrs

inductive Plain : Option PropertyValue → ExtAttrValue → Prop
  | nothing : Plain none .valueless
  | text (value : String) : Plain (some (.text value)) (.text value)
  | list (items : List String) : Plain (some (.list items)) (.list items)
  | yes : Plain (some (.flag true)) (.text "true")
  | no : Plain (some (.flag false)) (.text "false")

inductive Globals : Option PropertyValue → List Exposure → Prop
  | one (name : String) : Globals (some (.text name)) [⟨name, none⟩]
  | several (names : List String) :
      Globals (some (.list names)) (names.map fun name => ⟨name, none⟩)

-- What an attribute stands for. `[NamedConstructor]` without a call is a plain attribute. In
-- `[Exposed(Window Feature)]` the type of an argument is the global and its name the flag.
inductive Denotes (node : Node) : ExtAttrValue → Prop
  | plain (name : String) (value : ExtAttrValue) (named : node.name = some name ∧ name ≠ "")
      (other : name ∉ ["Constructor", "CustomConstructor", "Exposed"])
      (alone : node.children = []) (written : Plain (node.property "VALUE") value) :
      Denotes node value
  | call (child parent : Node) (name : String) (arguments : List Argument)
      (named : node.name = some "NamedConstructor") (only : node.children = [child])
      (kind : child.kind = "Call") (called : child.name = some name ∧ name ≠ "")
      (inside : child.children = [parent]) (given : parent.Arguments arguments) :
      Denotes node (.call name arguments)
  | exposed (items : List Exposure) (named : node.name = some "Exposed")
      (alone : node.children = []) (written : Globals (node.property "VALUE") items) :
      Denotes node (.exposures items)
  | flagged (parent : Node) (arguments : List Argument) (named : node.name = some "Exposed")
      (only : node.children = [parent]) (given : parent.Arguments arguments) :
      Denotes node
        (.exposures (arguments.map fun argument => ⟨argument.type.text, some argument.name⟩))

theorem plain_iff (property : Option PropertyValue) (value : ExtAttrValue) :
    ExtAttrValue.ofProperty property = value ↔ Plain property value := by
  constructor
  · rintro rfl
    match property with
    | none => exact .nothing
    | some (.text value) => exact .text value
    | some (.list items) => exact .list items
    | some (.flag true) => exact .yes
    | some (.flag false) => exact .no
  · rintro ⟨⟩ <;> rfl

theorem globals_iff (property : Option PropertyValue) (items : List Exposure) :
    exposuresOfProperty property = .ok items ↔ Globals property items := by
  constructor
  · intro read
    match property, read with
    | some (.text name), rfl => exact .one name
    | some (.list names), rfl => exact .several names
  · rintro ⟨⟩ <;> rfl

theorem call_of_iff (child : Node) (value : ExtAttrValue) :
    callOf child = .ok value ↔
      ∃ name parent arguments, child.kind = "Call" ∧ (child.name = some name ∧ name ≠ "") ∧
        child.children = [parent] ∧ parent.Arguments arguments ∧ value = .call name arguments := by
  obtain ⟨kind, name, _, children⟩ := child
  simp only [callOf, bind_ok_iff, Node.expect_kind_iff, Node.required_name_iff]
  constructor
  · rintro ⟨_, called, arguments, given, name, named, ⟨⟩⟩
    match children, given with
    | [parent], given =>
        have given := (Node.arguments_iff _ _ _).mp given
        exact ⟨name, parent, arguments, called, named, rfl, given, rfl⟩
  · rintro ⟨name, parent, arguments, called, named, rfl, given, rfl⟩
    exact ⟨(), called, arguments, (Node.arguments_iff _ _ _).mpr given, name, named, rfl⟩

section Value

variable (kind name : String) (properties : Table PropertyValue) (children : List Node)
  (value : ExtAttrValue)

theorem value_denotes (named : name ≠ "")
    (read : valueOf name (properties.get? "VALUE") children = .ok value) :
    Denotes ⟨kind, some name, properties, children⟩ value := by
  unfold valueOf at read
  match children with
  | [] =>
      dsimp only at read
      split at read
      · cases read
      · cases read
      · obtain ⟨items, found, rfl⟩ := (map_ok_iff _ _ _).mp read
        exact .exposed items rfl rfl ((globals_iff _ _).mp found)
      · rename_i noConstructor noCustom noExposed
        have other : name ∉ ["Constructor", "CustomConstructor", "Exposed"] := by
          rw [List.mem_cons, List.mem_cons, List.mem_singleton]
          rintro (same | same | same)
          · exact noConstructor same
          · exact noCustom same
          · exact noExposed same
        cases read
        exact .plain name _ ⟨rfl, named⟩ other rfl ((plain_iff _ _).mp rfl)
  | [child] =>
      dsimp only at read
      split at read
      · cases read
      · cases read
      · obtain ⟨name, parent, arguments, kind, called, inside, given, rfl⟩ :=
          (call_of_iff child value).mp read
        exact .call child parent name arguments rfl rfl kind called inside given
      · obtain ⟨_, isList, read⟩ := (bind_ok_iff _ _ _).mp read
        obtain ⟨arguments, given, done⟩ := (bind_ok_iff _ _ _).mp read
        cases done
        have given := (Node.arguments_iff _ _ _).mp ((bind_ok_iff _ _ _).mpr ⟨_, isList, given⟩)
        exact .flagged child arguments rfl rfl given
      · cases read
  | _ :: _ :: _ => cases read

theorem denotes_value (denotes : Denotes ⟨kind, some name, properties, children⟩ value) :
    valueOf name (properties.get? "VALUE") children = .ok value := by
  cases denotes with
  | plain own _ named other alone written =>
      cases named.1
      cases alone
      rw [← (plain_iff _ _).mpr written]
      unfold valueOf
      split
      · exact absurd (.head _) other
      · exact absurd (.tail _ (.head _)) other
      · exact absurd (.tail _ (.tail _ (.head _))) other
      · rfl
  | call child parent called arguments named only kind own inside given =>
      cases named
      cases only
      exact (call_of_iff child _).mpr ⟨called, parent, arguments, kind, own, inside, given, rfl⟩
  | exposed items named alone written =>
      cases named
      cases alone
      exact (map_ok_iff _ _ _).mpr ⟨items, (globals_iff _ _).mpr written, rfl⟩
  | flagged parent arguments named only given =>
      cases named
      cases only
      have given := (Node.arguments_iff .exposed parent arguments).mpr given
      obtain ⟨_, isList, given⟩ := (bind_ok_iff _ _ _).mp given
      exact (bind_ok_iff _ _ _).mpr ⟨_, isList, (bind_ok_iff _ _ _).mpr ⟨arguments, given, rfl⟩⟩

end Value

theorem denotes_named (node : Node) (value : ExtAttrValue) (denotes : Denotes node value) :
    ∃ name, node.name = some name ∧ name ≠ "" := by
  cases denotes with
  | plain name _ named => exact ⟨name, named⟩
  | call _ _ _ _ named => exact ⟨_, named, by decide⟩
  | exposed _ named => exact ⟨_, named, by decide⟩
  | flagged _ _ named => exact ⟨_, named, by decide⟩

structure Puts (node : Node) (entry : String × ExtAttrValue) : Prop where
  named : node.name = some entry.1
  denotes : Denotes node entry.2

theorem Puts.label (node : Node) (entry : String × ExtAttrValue) (puts : Puts node entry) :
    node.label = entry.1 := by
  rw [Node.label, puts.named]
  rfl

theorem entry_of_iff (node : Node) (entry : String × ExtAttrValue) :
    entryOf node = .ok entry ↔ Puts node entry := by
  obtain ⟨kind, found, properties, children⟩ := node
  simp only [entryOf, bind_ok_iff, Node.required_name_iff]
  constructor
  · rintro ⟨name, ⟨rfl, named⟩, value, read, ⟨⟩⟩
    exact ⟨rfl, value_denotes kind name properties children value named read⟩
  · rintro ⟨own, denotes⟩
    obtain ⟨name, same, named⟩ := denotes_named _ _ denotes
    cases own
    cases same
    have read := denotes_value kind entry.1 properties children entry.2 denotes
    exact ⟨entry.1, ⟨rfl, named⟩, entry.2, read, rfl⟩

theorem denotes_puts (node : Node) (value : ExtAttrValue) (denotes : Denotes node value) :
    Puts node (node.label, value) := by
  obtain ⟨name, own, _⟩ := denotes_named node value denotes
  exact ⟨by rw [Node.label, own]; rfl, denotes⟩

theorem denotes_unique (node : Node) (one other : ExtAttrValue) (first : Denotes node one)
    (second : Denotes node other) : one = other := by
  have read := (entry_of_iff node _).mpr (denotes_puts node one first)
  rw [(entry_of_iff node _).mpr (denotes_puts node other second)] at read
  cases read
  rfl

theorem of_nodes_iff (attrs final : ExtAttrs) (nodes : List Node) :
    ofNodes attrs nodes = .ok final ↔
      ∃ entries, List.Forall₂ Puts nodes entries ∧ final = attrs.insertAll entries := by
  induction nodes generalizing attrs with
  | nil => simp [ofNodes, eq_comm, Table.insertAll]
  | cons node rest ih =>
      simp only [ofNodes, bind_ok_iff, ih, entry_of_iff, List.forall₂_cons_left_iff]
      constructor
      · rintro ⟨entry, first, entries, later, rfl⟩
        exact ⟨_, ⟨entry, entries, first, later, rfl⟩, rfl⟩
      · rintro ⟨_, ⟨entry, entries, first, later, rfl⟩, rfl⟩
        exact ⟨entry, first, entries, later, rfl⟩

section Read

variable (nodes : List Node) (entries : List (String × ExtAttrValue))
  (read : List.Forall₂ Puts nodes entries)

include read

theorem labels_read : entries.map (·.1) = nodes.map (·.label) := by
  induction read with
  | nil => rfl
  | cons first _ ih => rw [List.map_cons, List.map_cons, ih, first.label]

theorem last_read_iff (name : String) (value : ExtAttrValue) :
    (Table.under name entries).getLast? = some value ↔
      ∃ node, (nodes.filter (·.label == name)).getLast? = some node ∧ Denotes node value := by
  have own : List.Forall₂ Puts (nodes.filter (·.label == name)) (entries.filter (·.1 == name)) := by
    refine List.rel_filter (fun node entry puts => ?_) read
    dsimp only
    rw [puts.label]
  have last := last_related _ _ own
  rw [Table.under, List.getLast?_map]
  generalize (nodes.filter (·.label == name)).getLast? = node at last ⊢
  generalize (entries.filter (·.1 == name)).getLast? = entry at last ⊢
  cases last with
  | none => simp
  | some puts =>
      constructor
      · rintro ⟨⟩
        exact ⟨_, rfl, puts.denotes⟩
      · rintro ⟨_, ⟨⟩, denotes⟩
        exact congrArg some (denotes_unique _ _ _ puts.denotes denotes)

end Read

theorem of_node_eq (node : Node) : ofNode node = ofNodes .empty node.children := by
  cases node
  rfl

theorem attributes_read_iff (node : Node) :
    ((∃ attrs, ofNode node = .ok attrs) ↔ ∀ child ∈ node.children, ∃ value, Denotes child value) ∧
      ∀ attrs, ofNode node = .ok attrs →
        attrs.keys = (node.children.map (·.label)).eraseDups ∧
          ∀ name value, attrs.get? name = some value ↔
            ∃ child, (node.children.filter (·.label == name)).getLast? = some child ∧
              Denotes child value := by
  have puts_iff : ∀ child, (∃ entry, Puts child entry) ↔ ∃ value, Denotes child value :=
    fun child => ⟨fun ⟨entry, puts⟩ => ⟨entry.2, puts.denotes⟩,
      fun ⟨value, denotes⟩ => ⟨_, denotes_puts child value denotes⟩⟩
  simp only [of_node_eq, of_nodes_iff]
  constructor
  · simp only [← puts_iff, ← all_related_iff]
    exact ⟨fun ⟨_, entries, read, _⟩ => ⟨entries, read⟩,
      fun ⟨entries, read⟩ => ⟨_, entries, read, rfl⟩⟩
  · rintro _ ⟨entries, read, rfl⟩
    constructor
    · rw [Table.keys_insert_all, ← labels_read node.children entries read]
      simp
    · intro name value
      rw [Table.get_insert_all, ← last_read_iff node.children entries read]
      simp

def worker : Node :=
  ((Node.leaf "ExtAttribute").named "Exposed").withProperty "VALUE" (.text "Worker")

def image : Node :=
  ((Node.leaf "ExtAttribute").named "NamedConstructor").withChild
    (((Node.leaf "Call").named "Image").withChild (Node.leaf "Arguments"))

def window : Node :=
  ((Node.leaf "ExtAttribute").named "Exposed").withChild ((Node.leaf "Arguments").withChild
    (((Node.leaf "Argument").named "Feature").withChild
      ((Node.leaf "Type").withChild ((Node.leaf "Typeref").named "Window"))))

def exposedAgain : Node := (Node.leaf "ExtAttributes").withChildren [worker, image, window]

theorem exposed_again_read :
    ∃ attrs, ofNode exposedAgain = .ok attrs ∧ attrs.keys = ["Exposed", "NamedConstructor"] ∧
      attrs.get? "Exposed" = some (.exposures [⟨"Window", some "Feature"⟩]) ∧
      attrs.get? "NamedConstructor" = some (.call "Image" []) := by
  have ofWorker : Denotes worker (.exposures [⟨"Worker", none⟩]) :=
    .exposed _ rfl rfl (.one "Worker")
  have ofImage : Denotes image (.call "Image" []) :=
    .call _ _ "Image" [] rfl rfl rfl ⟨rfl, by decide⟩ rfl ⟨rfl, .nil⟩
  have ofWindow : Denotes window (.exposures [⟨"Window", some "Feature"⟩]) :=
    .flagged _ [⟨"Feature", .typeref "Window", .empty, false, false, none, .anywhere, _⟩] rfl rfl
      ⟨rfl, .cons rfl .nil⟩
  have spec := attributes_read_iff exposedAgain
  obtain ⟨attrs, read⟩ := spec.1.mpr <| List.forall_mem_cons.mpr ⟨⟨_, ofWorker⟩,
    List.forall_mem_cons.mpr ⟨⟨_, ofImage⟩, List.forall_mem_singleton.mpr ⟨_, ofWindow⟩⟩⟩
  obtain ⟨keys, values⟩ := spec.2 attrs read
  exact ⟨attrs, read, keys, (values _ _).mpr ⟨_, rfl, ofWindow⟩, (values _ _).mpr ⟨_, rfl, ofImage⟩⟩

end ExtAttrs

end WebIdl
