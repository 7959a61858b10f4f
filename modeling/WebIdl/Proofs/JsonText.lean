import WebIdl.Node.Reader
import WebIdl.Proofs.JsonStrings

set_option autoImplicit false

namespace WebIdl

namespace Json

def separated : List Bytes → Bytes
  | [] => []
  | first :: rest => first ++ rest.flatMap (0x2C :: ·)

theorem utf8_joined (parts : List String) :
    utf8 (Text.joined "," parts) = separated (parts.map utf8) := by
  induction parts with
  | nil => rw [Text.joined, utf8_eq]; rfl
  | cons part rest ih =>
      cases rest with
      | nil => simp [Text.joined, separated]
      | cons next rest =>
          have comma : utf8 "," = [0x2C] := by rw [utf8_eq]; rfl
          rw [Text.joined, utf8_append, utf8_append, ih, comma]
          · simp [separated]
          · simp

def written (value : Json) : Bytes := utf8 value.compact

def writtenMember (member : String × Json) : Bytes :=
  0x22 :: quoted member.1 ++ 0x3A :: written member.2

theorem compact_items_eq (items : List Json) : compactItems items = items.map compact := by
  induction items with
  | nil => rfl
  | cons item rest ih => rw [compactItems, ih, List.map_cons]

theorem compact_members_eq (members : List (String × Json)) :
    compactMembers members = members.map compactMember := by
  induction members with
  | nil => rfl
  | cons member rest ih => rw [compactMembers, ih, List.map_cons]

theorem written_string (text : String) : written (.string text) = 0x22 :: quoted text :=
  utf8_quote text

theorem written_true : written (.bool true) = 0x74 :: ofTrue := by
  rw [written, utf8_eq]
  rfl

theorem written_false : written (.bool false) = 0x66 :: ofFalse := by
  rw [written, utf8_eq]
  rfl

theorem written_array (items : List Json) :
    written (.array items) = 0x5B :: separated (items.map written) ++ [0x5D] := by
  have start : utf8 "[" = [0x5B] := by rw [utf8_eq]; rfl
  have stop : utf8 "]" = [0x5D] := by rw [utf8_eq]; rfl
  rw [written, compact, utf8_append, utf8_append, utf8_joined, compact_items_eq, start, stop,
    List.map_map]
  rfl

theorem written_member_eq (member : String × Json) :
    utf8 (compactMember member) = writtenMember member := by
  have colon : utf8 ":" = [0x3A] := by rw [utf8_eq]; rfl
  rw [compactMember, utf8_append, utf8_append, utf8_quote, colon, writtenMember, written]
  simp

theorem written_object (members : List (String × Json)) :
    written (.object members) = 0x7B :: separated (members.map writtenMember) ++ [0x7D] := by
  have start : utf8 "\x7b" = [0x7B] := by rw [utf8_eq]; rfl
  have stop : utf8 "\x7d" = [0x7D] := by rw [utf8_eq]; rfl
  have parts : (compactMembers members).map utf8 = members.map writtenMember := by
    rw [compact_members_eq, List.map_map]
    exact List.map_congr_left fun member _ => written_member_eq member
  rw [written, compact, utf8_append, utf8_append, utf8_joined, start, stop, parts]
  rfl

end Json

namespace Node

open Json (Bytes Result separated written writtenMember quoted)

-- Whatever follows, the reader takes this text and gives this value.
def Reads {α : Type} (read : Bytes → Result (α × Bytes)) (text : Bytes) (value : α) : Prop :=
  ∀ rest, read (text ++ rest) = .ok (value, rest)

def Opens (text : Bytes) : Prop :=
  ∃ mark rest, text = mark :: rest ∧ Json.isBlank mark = false ∧ mark ≠ 0x5D

theorem skip_no_blanks (text rest : Bytes) (opens : Opens text) :
    Json.skipBlanks (text ++ rest) = text ++ rest := by
  obtain ⟨mark, behind, rfl, solid, _⟩ := opens
  rw [List.cons_append, Json.skipBlanks, if_neg (by rw [solid]; decide)]

theorem skip_comma (rest : Bytes) : Json.skipBlanks (0x2C :: rest) = 0x2C :: rest := rfl

theorem skip_quote (rest : Bytes) : Json.skipBlanks (0x22 :: rest) = 0x22 :: rest := rfl

theorem next_first_item (text rest : Bytes) (opens : Opens text) :
    Json.nextItem true (text ++ rest) = .ok (some (text ++ rest)) := by
  rw [Json.nextItem, skip_no_blanks text rest opens]
  obtain ⟨mark, behind, rfl, _, inside⟩ := opens
  simp

theorem next_later_item (text rest : Bytes) (opens : Opens text) :
    Json.nextItem false (0x2C :: (text ++ rest)) = .ok (some (text ++ rest)) := by
  have solid := skip_no_blanks text rest opens
  obtain ⟨mark, behind, rfl, _, inside⟩ := opens
  rw [List.cons_append] at solid ⊢
  have between : ¬ (0x2C : UInt8) = 0x5D := by decide
  simp only [Json.nextItem, skip_comma, Bool.false_eq_true, if_false, if_true, solid]
  split
  · rename_i empty
    cases empty
  · rename_i closed
    exact absurd (List.cons.inj closed).1 inside
  · rfl

theorem next_first_name (name : String) (rest : Bytes) :
    Json.nextName true (0x22 :: (quoted name ++ rest)) = .ok (some (name, rest)) := by
  simp [Json.nextName, skip_quote, Json.quoted_read, Except.map]

theorem next_later_name (name : String) (rest : Bytes) :
    Json.nextName false (0x2C :: 0x22 :: (quoted name ++ rest)) = .ok (some (name, rest)) := by
  simp [Json.nextName, skip_comma, skip_quote, Json.quoted_read, Except.map]

theorem length_le_flat_map {β : Type} (items : List β) (mark : UInt8) (text : β → Bytes) :
    items.length ≤ (items.flatMap fun item => mark :: text item).length := by
  induction items with
  | nil => exact Nat.le_refl 0
  | cons item items ih =>
      rw [List.flatMap_cons, List.length_append, List.length_cons, List.length_cons]
      omega

section Lists

variable {α β : Type} (read : Bytes → Result (α × Bytes)) (text : β → Bytes) (value : β → α)

theorem later_items_read (items : List β)
    (each : ∀ item ∈ items, Opens (text item) ∧ Reads read (text item) (value item))
    (fuel index : Nat) (enough : items.length < fuel) (rest : Bytes) :
    readItems read fuel (index + 1)
        (items.flatMap (fun item => 0x2C :: text item) ++ 0x5D :: rest) =
      .ok (items.map value, 0x5D :: rest) := by
  induction items generalizing fuel index with
  | nil =>
      obtain ⟨fuel, rfl⟩ := Nat.exists_eq_add_of_lt enough
      rfl
  | cons item items ih =>
      obtain ⟨fuel, rfl⟩ := Nat.exists_eq_succ_of_ne_zero (Nat.ne_of_gt (Nat.zero_lt_of_lt enough))
      obtain ⟨⟨opens, reads⟩, later⟩ := List.forall_mem_cons.mp each
      rw [List.flatMap_cons, List.append_assoc, List.cons_append, readItems]
      have later := ih later fuel (index + 1) (by simpa using enough)
      have notFirst : (index + 1 == 0) = false := rfl
      simp only [notFirst, next_later_item _ _ opens, Json.here, reads _, Json.within, later, bind,
        Except.bind, pure, Except.pure, List.map_cons]

theorem list_body_read (items : List β)
    (each : ∀ item ∈ items, Opens (text item) ∧ Reads read (text item) (value item))
    (rest : Bytes) :
    readListBody read (separated (items.map text) ++ 0x5D :: rest) =
      .ok (items.map value, rest) := by
  cases items with
  | nil => rfl
  | cons item items =>
      obtain ⟨⟨opens, reads⟩, later⟩ := List.forall_mem_cons.mp each
      have enough := length_le_flat_map items 0x2C text
      rw [List.map_cons, separated, List.flatMap_map, List.append_assoc, readListBody, readItems]
      have others := later_items_read read text value items later
        (text item ++ (items.flatMap (fun item => 0x2C :: text item) ++ 0x5D :: rest)).length 0
        (by simp only [List.length_append, List.length_cons]; omega) rest
      have first : ((0 : Nat) == 0) = true := rfl
      simp only [first, next_first_item _ _ opens, Json.here, reads _, Json.within, others, bind,
        Except.bind, pure, Except.pure, List.map_cons]
      rfl

end Lists

section Members

variable {α : Type} (read : α → String → Bytes → Result (α × Bytes))

inductive Folds : α → List (String × Json) → α → Prop
  | nil (state : α) : Folds state [] state
  | cons (state next final : α) (name : String) (value : Json) (rest : List (String × Json))
      (step : Reads (read state name) (0x3A :: written value) next)
      (later : Folds next rest final) : Folds state ((name, value) :: rest) final

theorem folds_append (front back : List (String × Json)) (state middle final : α)
    (first : Folds read state front middle) (second : Folds read middle back final) :
    Folds read state (front ++ back) final := by
  induction first with
  | nil => exact second
  | cons state next middle name value rest step _ ih =>
      exact .cons state next final name value (rest ++ back) step (ih second)

theorem later_members_read (state final : α) (members : List (String × Json))
    (folds : Folds read state members final) (fuel : Nat) (enough : members.length < fuel)
    (rest : Bytes) :
    readMembers read fuel false state
        (members.flatMap (fun member => 0x2C :: writtenMember member) ++ 0x7D :: rest) =
      .ok (final, 0x7D :: rest) := by
  induction folds generalizing fuel with
  | nil state =>
      obtain ⟨fuel, rfl⟩ := Nat.exists_eq_add_of_lt enough
      rfl
  | cons state next final name value members step _ ih =>
      obtain ⟨fuel, rfl⟩ := Nat.exists_eq_succ_of_ne_zero (Nat.ne_of_gt (Nat.zero_lt_of_lt enough))
      have later := ih fuel (by simpa using enough)
      rw [List.flatMap_cons, writtenMember, List.append_assoc, List.cons_append, List.cons_append,
        List.cons_append, List.append_assoc, readMembers]
      simp only [next_later_name, Json.here, Json.within, step _, later, bind, Except.bind]

theorem members_read (state final : α) (members : List (String × Json))
    (folds : Folds read state members final) (fuel : Nat)
    (enough : (separated (members.map writtenMember)).length < fuel) (rest : Bytes) :
    readMembers read fuel true state (separated (members.map writtenMember) ++ 0x7D :: rest) =
      .ok (final, 0x7D :: rest) := by
  obtain ⟨fuel, rfl⟩ := Nat.exists_eq_succ_of_ne_zero (Nat.ne_of_gt (Nat.zero_lt_of_lt enough))
  cases folds with
  | nil => rfl
  | cons _ next _ name value members step later =>
      have few := length_le_flat_map members 0x2C writtenMember
      rw [List.map_cons, separated, List.flatMap_map] at enough ⊢
      rw [List.length_append, writtenMember, List.length_append, List.length_cons] at enough
      have others := later_members_read read next final members later fuel (by omega) rest
      rw [List.append_assoc, writtenMember, List.cons_append, List.cons_append, List.append_assoc,
        readMembers]
      simp only [next_first_name, Json.here, Json.within, step _, others, bind, Except.bind]

theorem object_body_read (state final : α) (members : List (String × Json))
    (folds : Folds read state members final) (rest : Bytes) :
    readObjectBody read state (separated (members.map writtenMember) ++ 0x7D :: rest) =
      .ok (final, rest) := by
  have fits := members_read read state final members folds
    ((separated (members.map writtenMember) ++ 0x7D :: rest).length + 1)
    (by rw [List.length_append]; omega) rest
  rw [readObjectBody, fits]
  rfl

end Members

theorem value_reads {α : Type} (name : String) (read : Bytes → Result (α × Bytes)) (text : Bytes)
    (value : α) (reads : Reads read text value) :
    Reads (readValue name read) (0x3A :: text) value := by
  intro rest
  have colon : Json.readColon (0x3A :: text ++ rest) = .ok (text ++ rest) := rfl
  rw [readValue, colon]
  simp only [Json.here, bind, Except.bind, reads rest, Json.within]

end Node

end WebIdl
