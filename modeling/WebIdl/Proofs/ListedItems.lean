import WebIdl.Proofs.AttributeGrammar
import WebIdl.NumericConstraints.OfAttrs

set_option autoImplicit false

namespace WebIdl

namespace ExtAttrValue

def spaced : List (List Char) → List (List Char)
  | [] => []
  | first :: rest => first :: rest.map (' ' :: ·)

theorem shown_list (items : List String) :
    (list items).shown.toList =
      '(' :: [','].intercalate (spaced (items.map String.toList)) ++ [')'] := by
  cases items with
  | nil => rfl
  | cons first rest =>
      simp [shown, Text.joined_to_list, spaced, Text.intercalate_cons, List.flatMap_map]

theorem spaced_apart (parts : List (List Char)) (apart : ∀ part ∈ parts, ',' ∉ part) :
    ∀ part ∈ spaced parts, ',' ∉ part := by
  cases parts with
  | nil => exact apart
  | cons first rest =>
      obtain ⟨own, others⟩ := List.forall_mem_cons.mp apart
      refine List.forall_mem_cons.mpr ⟨own, fun part listed => ?_⟩
      obtain ⟨bare, below, rfl⟩ := List.mem_map.mp listed
      simpa using others bare below

theorem spaced_trimmed (parts : List (List Char)) :
    (spaced parts).map Unicode.trim = parts.map Unicode.trim := by
  have space : ∀ part, Unicode.trim (' ' :: part) = Unicode.trim part := fun part =>
    Unicode.trim_blank ' ' part (by decide)
  cases parts with
  | nil => rfl
  | cons first rest => simp [spaced, Function.comp_def, space]

end ExtAttrValue

namespace NumberEnum

def inked (item : String) : Bool := !(Unicode.trim item.toList).isEmpty

theorem split_spaced (parts : List (List Char)) (apart : ∀ part ∈ parts, ',' ∉ part) :
    ((Text.splitAt ',' ([','].intercalate (ExtAttrValue.spaced parts))).map Unicode.trim).filter
      (!·.isEmpty) = (parts.map Unicode.trim).filter (!·.isEmpty) := by
  cases parts with
  | nil => rfl
  | cons first rest =>
      have whole : ExtAttrValue.spaced (first :: rest) ≠ [] := List.cons_ne_nil _ _
      rw [Text.split_at_intercalate ',' _ whole (ExtAttrValue.spaced_apart _ apart),
        ExtAttrValue.spaced_trimmed]

theorem split_items_shown (items : List String) (apart : ∀ item ∈ items, ',' ∉ item.toList) :
    splitItems (ExtAttrValue.list items).shown.toList =
      some ((items.filter inked).map fun item => Unicode.trim item.toList) := by
  have parts_apart : ∀ part ∈ items.map String.toList, ',' ∉ part := by
    intro part listed
    obtain ⟨item, among, rfl⟩ := List.mem_map.mp listed
    exact apart item among
  have kept : ((items.map String.toList).map Unicode.trim).filter (!·.isEmpty) =
      (items.filter inked).map fun item => Unicode.trim item.toList := by
    rw [List.map_map, List.filter_map]
    rfl
  have enclosed : Unicode.trim (ExtAttrValue.list items).shown.toList =
      (ExtAttrValue.list items).shown.toList := by
    rw [ExtAttrValue.shown_list]
    apply Unicode.trim_enclosed
    · rintro _ ⟨⟩
      decide
    · rw [List.getLast?_concat]
      rintro _ ⟨⟩
      decide
  rw [splitItems, enclosed, ExtAttrValue.shown_list]
  simp only [List.cons_append, List.getLast?_concat, List.dropLast_concat,
    split_spaced _ parts_apart, kept]

theorem read_all_ok_iff {α : Type} (read : List Char → Option α) (items : List (List Char))
    (values : List α) : readAll read items = .ok values ↔
      List.Forall₂ (fun item value => read item = some value) items values := by
  induction items generalizing values with
  | nil => rw [readAll, List.forall₂_nil_left_iff, Except.ok.injEq, eq_comm]
  | cons item rest ih =>
      rw [readAll, List.forall₂_cons_left_iff]
      split
      · next unread => simp [unread]
      · next value known =>
          simp only [map_ok_iff, ih, known, Option.some.injEq]
          constructor
          · rintro ⟨others, each, rfl⟩
            exact ⟨value, others, rfl, each, rfl⟩
          · rintro ⟨_, others, rfl, each, rfl⟩
            exact ⟨others, each, rfl⟩

def isNumber (integer : Bool) (item : String) : Bool :=
  if integer then (Decimal.readInt128 (Unicode.trim item.toList)).isSome
  else (Decimal.readFloat (Unicode.trim item.toList)).isSome

theorem list_ok_iff (items : List String) (integer : Bool) :
    (∃ numbers, ofValue (.list items) integer = .ok numbers) ↔
      ∀ item ∈ items, isNumber integer item = true := by
  have read : ∀ {α : Type} (read : List Char → Option α),
      (∃ values, readAll read (items.map fun item => Unicode.trim item.toList) = .ok values) ↔
        ∀ item ∈ items, (read (Unicode.trim item.toList)).isSome = true := by
    intro α read
    simp only [read_all_ok_iff, all_related_iff, List.forall_mem_map, Option.isSome_iff_exists]
  cases integer
  · simp [ofValue, ofItems, map_ok_iff, isNumber, ← read]
  · simp [ofValue, ofItems, map_ok_iff, isNumber, ← read]

theorem list_length (items : List String) (integer : Bool) (numbers : NumberEnum)
    (read : ofValue (.list items) integer = .ok numbers) : numbers.length = items.length := by
  have every : ∀ {α : Type} (read : List Char → Option α) (values : List α),
      readAll read (items.map fun item => Unicode.trim item.toList) = .ok values →
        values.length = items.length := by
    intro α read values known
    simpa using ((read_all_ok_iff read _ values).mp known).length_eq.symm
  cases integer
  · obtain ⟨values, known, rfl⟩ := (map_ok_iff _ _ _).mp read
    exact every _ values known
  · obtain ⟨values, known, rfl⟩ := (map_ok_iff _ _ _).mp read
    exact every _ values known

theorem list_unread_iff (items : List String) (integer : Bool) :
    (ofValue (.list items) integer).toOption = none ↔
      ∃ item ∈ items, isNumber integer item = false := by
  rw [Option.eq_none_iff_forall_ne_some]
  simp only [ne_eq, to_option_eq_some_iff]
  rw [← not_exists, list_ok_iff]
  simp

theorem blank_no_number (item : String) (integer : Bool) (blank : inked item = false) :
    isNumber integer item = false := by
  have nothing : Unicode.trim item.toList = [] := by simpa [inked] using blank
  rw [isNumber, nothing]
  cases integer <;> rfl

end NumberEnum

-- The text of a list is read as the items that are not blank. So the list and its text are read for
-- the same numbers, or neither is read, unless an item is blank and all that are not are numbers.
theorem NumberEnum.forms_agree_iff (items : List String) (integer : Bool)
    (apart : ∀ item ∈ items, ',' ∉ item.toList) :
    ofValue (.text (ExtAttrValue.list items).shown) integer =
        ofValue (.list (items.filter inked)) integer ∧
      ((ofValue (.list items) integer).toOption =
          (ofValue (.text (ExtAttrValue.list items).shown) integer).toOption ↔
        (∀ item ∈ items, inked item = true) ∨
          ∃ item ∈ items, inked item = true ∧ isNumber integer item = false) ∧
      ∀ numbers, ofValue (.list items) integer = .ok numbers → numbers.length = items.length := by
  have text : ofValue (.text (ExtAttrValue.list items).shown) integer =
      ofValue (.list (items.filter inked)) integer := by
    simp only [ofValue, split_items_shown items apart]
  refine ⟨text, ?_, list_length items integer⟩
  rw [text]
  by_cases whole : ∀ item ∈ items, inked item = true
  · rw [List.filter_eq_self.mpr whole]
    exact iff_of_true rfl (.inl whole)
  · obtain ⟨blank, among, nothing⟩ : ∃ item ∈ items, inked item = false := by
      simpa using whole
    have unread : (ofValue (.list items) integer).toOption = none :=
      (list_unread_iff items integer).mpr ⟨blank, among, blank_no_number blank integer nothing⟩
    rw [unread, eq_comm, list_unread_iff, or_iff_right whole]
    simp only [List.mem_filter, and_assoc]

theorem NumberEnum.spaced_items_agree :
    (∀ item ∈ [" +4", "16\t", "-0"], ',' ∉ item.toList) ∧
      (ExtAttrValue.list [" +4", "16\t", "-0"]).shown = "( +4, 16\t, -0)" ∧
      ofValue (.list [" +4", "16\t", "-0"]) true = .ok (.integer [4, 16, 0]) ∧
      (ofValue (.list [" +4", "16\t", "-0"]) true).toOption =
        (ofValue (.text (ExtAttrValue.list [" +4", "16\t", "-0"]).shown) true).toOption := by
  have apart : ∀ item ∈ [" +4", "16\t", "-0"], ',' ∉ item.toList := by decide
  exact ⟨apart, rfl, rfl, (forms_agree_iff _ true apart).2.1.mpr (.inl (by decide))⟩

theorem NumberEnum.blank_item_told_apart :
    ¬ ∀ (items : List String) (integer : Bool), (∀ item ∈ items, ',' ∉ item.toList) →
      (ofValue (.list items) integer).toOption =
        (ofValue (.text (ExtAttrValue.list items).shown) integer).toOption := by
  intro every
  have same := every ["1", ""] true (by decide)
  have listed : (ofValue (.list ["1", ""]) true).toOption = none := rfl
  have shown : (ofValue (.text (ExtAttrValue.list ["1", ""]).shown) true).toOption =
      some (.integer [1]) := rfl
  rw [listed, shown] at same
  cases same

end WebIdl
