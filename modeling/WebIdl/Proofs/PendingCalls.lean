import WebIdl.Proofs.AttributeGrammar
import WebIdl.Proofs.InterfaceDraft

set_option autoImplicit false

namespace WebIdl

def ExtAttrValue.isCall : ExtAttrValue → Bool
  | .call _ _ => true
  | _ => false

namespace ExtAttrs

def CallsNamed (attrs : ExtAttrs) : Prop :=
  ∀ entry ∈ attrs.entries, entry.2.isCall = true → entry.1 = "NamedConstructor"

def Settled (attrs : ExtAttrs) : Prop := attrs.All fun value => value.isCall = false

-- What a value tells of where it was read. A call has a name of its own, and its arguments were
-- read from nodes.
def ReadAs (name : String) (value : ExtAttrValue) : Prop :=
  value.isCall = true → name = "NamedConstructor" ∧ ∃ called arguments nodes,
    value = .call called arguments ∧ called ≠ "" ∧ Argument.ofNodes nodes = .ok arguments

theorem uncalled_read_as (name : String) (value : ExtAttrValue) (uncalled : value.isCall = false) :
    ReadAs name value := by
  intro call
  rw [uncalled] at call
  cases call

theorem plain_uncalled (property : Option PropertyValue) (value : ExtAttrValue)
    (written : Plain property value) : value.isCall = false := by
  cases written <;> rfl

theorem puts_read_as (node : Node) (entry : String × ExtAttrValue) (puts : Puts node entry) :
    ReadAs entry.1 entry.2 := by
  obtain ⟨name, value⟩ := entry
  obtain ⟨named, denotes⟩ := puts
  cases denotes with
  | plain _ _ _ _ _ written => exact uncalled_read_as _ _ (plain_uncalled _ _ written)
  | call _ parent called arguments own _ _ present _ given =>
      cases named.symm.trans own
      have read := (Argument.of_nodes_iff parent.children arguments).mpr given.each
      exact fun _ => ⟨rfl, called, arguments, parent.children, rfl, present.2, read⟩
  | exposed => exact uncalled_read_as _ _ rfl
  | flagged => exact uncalled_read_as _ _ rfl

theorem of_node_read (node : Node) (attrs : ExtAttrs) (read : ofNode node = .ok attrs) :
    attrs.Each ReadAs := by
  rw [of_node_eq, of_nodes_iff] at read
  obtain ⟨entries, each, rfl⟩ := read
  refine Table.insert_all_each ReadAs .empty entries (Table.empty_each ReadAs) fun entry listed => ?_
  obtain ⟨child, puts⟩ := (all_related_iff entries).mp ⟨node.children, .flip each⟩ entry listed
  exact puts_read_as child entry puts

theorem of_node_calls (node : Node) (attrs : ExtAttrs) (read : ofNode node = .ok attrs) :
    attrs.CallsNamed :=
  fun entry member call => (of_node_read node attrs read entry member call).1

theorem extend_calls (attrs other : ExtAttrs) (calls : attrs.CallsNamed)
    (others : other.CallsNamed) : CallsNamed (attrs.extend other) := by
  intro entry member call
  rcases Table.mem_insert_all attrs other.entries entry member with later | earlier
  · exact others entry later call
  · exact calls entry earlier call

theorem extend_settled (attrs other : ExtAttrs) (settled : attrs.Settled)
    (others : other.Settled) : Settled (attrs.extend other) := by
  intro entry member
  rcases Table.mem_insert_all attrs other.entries entry member with later | earlier
  · exact others entry later
  · exact settled entry earlier

theorem extend_other (attrs other : ExtAttrs) (name : String) (absent : name ∉ other.keys) :
    (attrs.extend other).get? name = attrs.get? name := by
  rw [Table.get_extend, (Table.get_eq_none_iff other name).mpr absent, Option.none_or]

end ExtAttrs

end WebIdl
