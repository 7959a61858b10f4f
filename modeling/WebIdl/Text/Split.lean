set_option autoImplicit false

namespace WebIdl.Text

def splitAt (mark : Char) : List Char → List (List Char)
  | [] => [[]]
  | c :: rest =>
      if c = mark then [] :: splitAt mark rest
      else
        match splitAt mark rest with
        | [] => [[c]]
        | part :: parts => (c :: part) :: parts

def cutAt (mark : Char) : List Char → Option (List Char × List Char)
  | [] => none
  | c :: rest =>
      if c = mark then some ([], rest)
      else (cutAt mark rest).map fun (before, after) => (c :: before, after)

def joined (glue : String) : List String → String
  | [] => ""
  | [part] => part
  | part :: rest => part ++ glue ++ joined glue rest

theorem split_at_ne_nil (mark : Char) (text : List Char) : splitAt mark text ≠ [] := by
  cases text with
  | nil => simp [splitAt]
  | cons c rest =>
      by_cases same : c = mark
      · simp [splitAt, same]
      · cases parts : splitAt mark rest <;> simp [splitAt, same, parts]

theorem split_at_eq (mark : Char) (text : List Char) : splitAt mark text = text.splitOn mark := by
  induction text with
  | nil => rfl
  | cons c rest ih =>
      rw [List.splitOn, List.splitOnP_cons_eq_if_modifyHead, ← List.splitOn, ← ih, splitAt]
      by_cases same : c = mark
      · simp [same]
      · cases parts : splitAt mark rest with
        | nil => exact absurd parts (split_at_ne_nil mark rest)
        | cons => simp [same]

theorem split_at_intercalate (mark : Char) (parts : List (List Char)) (some_part : parts ≠ [])
    (apart : ∀ part ∈ parts, mark ∉ part) : splitAt mark ([mark].intercalate parts) = parts := by
  rw [split_at_eq, List.splitOn_intercalate mark apart some_part]

theorem intercalate_cons (mark : Char) (first : List Char) (rest : List (List Char)) :
    [mark].intercalate (first :: rest) = first ++ rest.flatMap (mark :: ·) := by
  induction rest generalizing first with
  | nil => simp
  | cons second rest ih => simp [List.intercalate_cons_cons, ih]

theorem cut_at_eq_some (mark : Char) (text before after : List Char)
    (cut : cutAt mark text = some (before, after)) :
    text = before ++ mark :: after ∧ mark ∉ before := by
  induction text generalizing before with
  | nil => simp [cutAt] at cut
  | cons c rest ih =>
      by_cases same : c = mark
      · simp only [cutAt, if_pos same, Option.some.injEq, Prod.mk.injEq] at cut
        obtain ⟨rfl, rfl⟩ := cut
        simp [same]
      · simp only [cutAt, if_neg same, Option.map_eq_some_iff] at cut
        obtain ⟨⟨front, back⟩, found, shape⟩ := cut
        simp only [Prod.mk.injEq] at shape
        obtain ⟨rfl, rfl⟩ := shape
        obtain ⟨whole, absent⟩ := ih front found
        exact ⟨by simp [whole], by simp [absent, Ne.symm same]⟩

theorem cut_at_iff (mark : Char) (text before after : List Char) :
    cutAt mark text = some (before, after) ↔ text = before ++ mark :: after ∧ mark ∉ before := by
  refine ⟨cut_at_eq_some mark text before after, ?_⟩
  rintro ⟨rfl, absent⟩
  induction before with
  | nil => simp [cutAt]
  | cons c rest ih =>
      rw [List.mem_cons, not_or] at absent
      obtain ⟨other, absent⟩ := absent
      simp [cutAt, Ne.symm other, ih absent]

theorem joined_to_list (glue first : String) (rest : List String) :
    (joined glue (first :: rest)).toList =
      first.toList ++ rest.flatMap fun part => glue.toList ++ part.toList := by
  induction rest generalizing first with
  | nil => simp [joined]
  | cons second rest ih => simp [joined, ih]

end WebIdl.Text
