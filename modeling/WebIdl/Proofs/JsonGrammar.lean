import Mathlib.Tactic.SplitIfs
import WebIdl.Json.Skip

set_option autoImplicit false

namespace WebIdl.Json

def Blanks (text : Bytes) : Prop := ∀ b ∈ text, isBlank b = true

def Digits (text : Bytes) : Prop := text ≠ [] ∧ ∀ b ∈ text, isDigit b = true

def Whole (text : Bytes) : Prop := text = [0x30] ∨ Digits text ∧ text.head? ≠ some 0x30

def Fraction (text : Bytes) : Prop := text = [] ∨ ∃ digits, text = 0x2E :: digits ∧ Digits digits

def Power (text : Bytes) : Prop :=
  text = [] ∨ ∃ letter sign digits, text = letter :: (sign ++ digits) ∧
    (letter = 0x65 ∨ letter = 0x45) ∧ (sign = [] ∨ sign = [0x2B] ∨ sign = [0x2D]) ∧ Digits digits

def Unsigned (text : Bytes) : Prop :=
  ∃ whole fraction power, text = whole ++ (fraction ++ power) ∧ Whole whole ∧ Fraction fraction ∧
    Power power

inductive Quoted : Bytes → Prop
  | close : Quoted [0x22]
  | plain (b : UInt8) (rest : Bytes) (quote : b ≠ 0x22) (backslash : b ≠ 0x5C)
      (printed : ¬ b < 0x20) (later : Quoted rest) : Quoted (b :: rest)
  | escaped (b : UInt8) (rest : Bytes) (letter : (escapedByte b).isSome) (later : Quoted rest) :
      Quoted (0x5C :: b :: rest)
  | code (a b c d : UInt8) (rest : Bytes) (quad : (hexQuad a b c d).isSome)
      (later : Quoted rest) : Quoted (0x5C :: 0x75 :: a :: b :: c :: d :: rest)

inductive Led (part : Bytes → Prop) : Bytes → Prop
  | intro (lead text : Bytes) (blanks : Blanks lead) (inside : part text) : Led part (lead ++ text)

-- The parts of a list or an object, up to its closing mark; `true` if there is none before.
inductive Row (part : Bytes → Prop) : Bool → Bytes → Prop
  | done (first : Bool) : Row part first []
  | first (text later : Bytes) (inside : Led part text) (rest : Row part false later) :
      Row part true (text ++ later)
  | next (gap text later : Bytes) (blanks : Blanks gap) (inside : Led part text)
      (rest : Row part false later) : Row part false (gap ++ 0x2C :: (text ++ later))

inductive Body (part : Bytes → Prop) (close : UInt8) : Bytes → Prop
  | intro (parts gap : Bytes) (row : Row part true parts) (blanks : Blanks gap) :
      Body part close (parts ++ (gap ++ [close]))

inductive Member (value : Bytes → Prop) : Bytes → Prop
  | intro (name gap text : Bytes) (quoted : Quoted name) (blanks : Blanks gap)
      (inside : Led value text) : Member value (0x22 :: (name ++ (gap ++ 0x3A :: text)))

def words : List Bytes := [0x6E :: ofNull, 0x74 :: ofTrue, 0x66 :: ofFalse]

inductive Value : Bytes → Prop
  | word (text : Bytes) (member : text ∈ words) : Value text
  | positive (text : Bytes) (number : Unsigned text) : Value text
  | negative (text : Bytes) (number : Unsigned text) : Value (0x2D :: text)
  | string (text : Bytes) (quoted : Quoted text) : Value (0x22 :: text)
  | list (text : Bytes) (inside : Body Value 0x5D text) : Value (0x5B :: text)
  | object (text : Bytes) (inside : Body (Member Value) 0x7D text) : Value (0x7B :: text)

inductive Nested : Bytes → Prop
  | list (text : Bytes) (inside : Body Value 0x5D text) : Nested (0x5B :: text)
  | object (text : Bytes) (inside : Body (Member Value) 0x7D text) : Nested (0x7B :: text)

def Alone (text : Bytes) : Prop :=
  ∃ front trail, text = front ++ trail ∧ Led Value front ∧ Blanks trail

def Stopped (such : UInt8 → Bool) (rest : Bytes) : Prop := ∀ b ∈ rest.head?, such b = false

theorem stopped_mark {such : UInt8 → Bool} (mark : UInt8) (rest : Bytes) (no : such mark = false) :
    Stopped such (mark :: rest) := by
  simpa [Stopped] using no

section Runs

variable (such : UInt8 → Bool) (front front' rest rest' : Bytes)
  (run : ∀ b ∈ front, such b = true) (stopped : Stopped such rest)

include run stopped

theorem run_take :
    (front ++ rest).takeWhile such = front ∧ (front ++ rest).dropWhile such = rest := by
  have behind : rest.takeWhile such = [] ∧ rest.dropWhile such = rest := by
    cases rest with
    | nil => exact ⟨rfl, rfl⟩
    | cons b rest => simp [stopped b rfl]
  rw [List.takeWhile_append_of_pos run, List.dropWhile_append_of_pos run, behind.1, behind.2,
    List.append_nil]
  exact ⟨rfl, rfl⟩

theorem run_cut (run' : ∀ b ∈ front', such b = true) (stopped' : Stopped such rest')
    (same : front ++ rest = front' ++ rest') : front = front' ∧ rest = rest' := by
  have cut := run_take such front rest run stopped
  have cut' := run_take such front' rest' run' stopped'
  rw [same] at cut
  exact ⟨cut.1.symm.trans cut'.1, cut.2.symm.trans cut'.2⟩

end Runs

theorem blanks_append (front back : Bytes) (first : Blanks front) (second : Blanks back) :
    Blanks (front ++ back) :=
  List.forall_mem_append.mpr ⟨first, second⟩

theorem led_blanks (part : Bytes → Prop) (lead text : Bytes) (blanks : Blanks lead)
    (led : Led part text) : Led part (lead ++ text) := by
  obtain ⟨front, text, fronts, inside⟩ := led
  rw [← List.append_assoc]
  exact .intro _ text (blanks_append lead front blanks fronts) inside

theorem skip_blanks (lead rest : Bytes) (blanks : Blanks lead) :
    skipBlanks (lead ++ rest) = skipBlanks rest := by
  induction lead with
  | nil => rfl
  | cons b lead ih =>
      obtain ⟨blank, later⟩ := List.forall_mem_cons.mp blanks
      rw [List.cons_append, skipBlanks, if_pos blank, ih later]

theorem skip_stopped (text : Bytes) (stopped : Stopped isBlank text) : skipBlanks text = text := by
  cases text with
  | nil => rfl
  | cons b rest =>
      rw [skipBlanks, stopped b rfl]
      rfl

theorem skip_solid (b : UInt8) (rest : Bytes) (solid : isBlank b = false) :
    skipBlanks (b :: rest) = b :: rest :=
  skip_stopped _ (stopped_mark b rest solid)

theorem blanks_split (text : Bytes) :
    ∃ lead, Blanks lead ∧ text = lead ++ skipBlanks text ∧ Stopped isBlank (skipBlanks text) := by
  induction text with
  | nil => exact ⟨[], by simp [Blanks], rfl, by simp [skipBlanks, Stopped]⟩
  | cons b rest ih =>
      by_cases blank : isBlank b = true
      · obtain ⟨lead, blanks, split, solid⟩ := ih
        rw [skipBlanks, if_pos blank]
        exact ⟨b :: lead, List.forall_mem_cons.mpr ⟨blank, blanks⟩, congrArg _ split, solid⟩
      · rw [skipBlanks, if_neg blank]
        exact ⟨[], by simp [Blanks], rfl, stopped_mark b rest (by simpa using blank)⟩

theorem skip_twice (text : Bytes) : skipBlanks (skipBlanks text) = skipBlanks text := by
  obtain ⟨_, _, _, stopped⟩ := blanks_split text
  exact skip_stopped _ stopped

def numeric (b : UInt8) : Bool := isDigit b || [0x2B, 0x2D, 0x2E, 0x45, 0x65].contains b

abbrev Ends : Bytes → Prop := Stopped numeric

theorem numeric_of_digit (b : UInt8) (digit : isDigit b = true) : numeric b = true := by
  rw [numeric, digit]
  rfl

theorem digits_numeric (text : Bytes) (digits : Digits text) : ∀ b ∈ text, numeric b = true :=
  fun b member => numeric_of_digit b (digits.2 b member)

theorem unsigned_numeric (text : Bytes) (number : Unsigned text) :
    ∀ b ∈ text, numeric b = true := by
  obtain ⟨whole, fraction, power, rfl, first, second, third⟩ := number
  refine List.forall_mem_append.mpr ⟨?_, List.forall_mem_append.mpr ⟨?_, ?_⟩⟩
  · rcases first with rfl | ⟨digits, _⟩
    · exact List.forall_mem_singleton.mpr (by decide)
    · exact digits_numeric _ digits
  · rcases second with rfl | ⟨digits, rfl, some⟩
    · simp
    · exact List.forall_mem_cons.mpr ⟨by decide, digits_numeric _ some⟩
  · rcases third with rfl | ⟨letter, sign, digits, rfl, letters, signs, some⟩
    · simp
    · refine List.forall_mem_cons.mpr ⟨?_, List.forall_mem_append.mpr ⟨?_, digits_numeric _ some⟩⟩
      · rcases letters with rfl | rfl <;> decide
      · rcases signs with rfl | rfl | rfl <;> simp [numeric]

theorem unsigned_head (text : Bytes) (number : Unsigned text) :
    ∃ b rest, text = b :: rest ∧ isDigit b = true := by
  obtain ⟨whole, fraction, power, rfl, first, _⟩ := number
  rcases first with rfl | ⟨⟨some, digits⟩, _⟩
  · exact ⟨0x30, fraction ++ power, rfl, by decide⟩
  · cases whole with
    | nil => exact absurd rfl some
    | cons b rest =>
        exact ⟨b, rest ++ (fraction ++ power), rfl, digits b List.mem_cons_self⟩

theorem quoted_cut (text text' rest rest' : Bytes) (quoted : Quoted text) (quoted' : Quoted text')
    (same : text ++ rest = text' ++ rest') : text = text' := by
  induction quoted generalizing text' with
  | close =>
      cases quoted' with
      | close => rfl
      | plain b _ quote => exact absurd (List.cons.inj same).1.symm quote
      | escaped => cases same
      | code => cases same
  | plain b later quote backslash _ _ ih =>
      cases quoted' with
      | close => exact absurd (List.cons.inj same).1 quote
      | plain b' later' _ _ _ inside =>
          obtain ⟨rfl, behind⟩ := List.cons.inj same
          rw [ih later' inside behind]
      | escaped => exact absurd (List.cons.inj same).1 backslash
      | code => exact absurd (List.cons.inj same).1 backslash
  | escaped b later letter _ ih =>
      cases quoted' with
      | close => cases same
      | plain _ _ _ backslash => exact absurd (List.cons.inj same).1.symm backslash
      | escaped b' later' _ inside =>
          obtain ⟨rfl, behind⟩ := List.cons.inj (List.cons.inj same).2
          rw [ih later' inside behind]
      | code =>
          obtain ⟨rfl, _⟩ := List.cons.inj (List.cons.inj same).2
          cases letter
  | code a b c d later quad _ ih =>
      cases quoted' with
      | close => cases same
      | plain _ _ _ backslash => exact absurd (List.cons.inj same).1.symm backslash
      | escaped b' _ letter =>
          obtain ⟨rfl, _⟩ := List.cons.inj (List.cons.inj same).2
          cases letter
      | code a' b' c' d' later' _ inside =>
          simp only [List.cons_append, List.cons.injEq, true_and] at same
          obtain ⟨rfl, rfl, rfl, rfl, behind⟩ := same
          rw [ih later' inside behind]

def Begins (text : Bytes) : Prop :=
  ∃ mark rest, text = mark :: rest ∧ isBlank mark = false ∧ mark ≠ 0x5D ∧ mark ≠ 0x7D

theorem begins_stopped (text rest : Bytes) (begins : Begins text) :
    Stopped isBlank (text ++ rest) := by
  obtain ⟨mark, behind, rfl, solid, _⟩ := begins
  exact stopped_mark mark (behind ++ rest) solid

def Closes (rest : Bytes) : Prop :=
  ∃ gap mark tail, rest = gap ++ mark :: tail ∧ Blanks gap ∧ (mark = 0x5D ∨ mark = 0x7D)

theorem ends_of_gap (gap : Bytes) (mark : UInt8) (tail : Bytes) (blanks : Blanks gap)
    (other : numeric mark = false) : Ends (gap ++ mark :: tail) := by
  cases gap with
  | nil => exact stopped_mark mark tail other
  | cons b gap =>
      have blank := blanks b List.mem_cons_self
      simp only [isBlank, Bool.or_eq_true, beq_iff_eq] at blank
      rcases blank with ((rfl | rfl) | rfl) | rfl <;> exact stopped_mark _ _ (by decide)

theorem closes_mark (gap : Bytes) (mark : UInt8) (tail : Bytes) (blanks : Blanks gap)
    (solid : isBlank mark = false) (closes : Closes (gap ++ mark :: tail)) :
    mark = 0x5D ∨ mark = 0x7D := by
  obtain ⟨gap', mark', tail', same, blanks', close⟩ := closes
  have solid' : isBlank mark' = false := by rcases close with rfl | rfl <;> decide
  have marks := (run_cut isBlank _ _ _ _ blanks (stopped_mark _ _ solid) blanks'
    (stopped_mark _ _ solid') same).2
  obtain ⟨rfl, _⟩ := List.cons.inj marks
  exact close

def Apart (part : Bytes → Prop) (bound : Nat) : Prop :=
  ∀ text text' rest rest', text.length < bound → part text → part text' → Ends rest → Ends rest' →
    text ++ rest = text' ++ rest' → text = text'

theorem row_ends (part : Bytes → Prop) (text rest : Bytes) (row : Row part false text)
    (closes : Closes rest) : Ends (text ++ rest) := by
  cases row with
  | done =>
      obtain ⟨gap, mark, tail, rfl, blanks, close⟩ := closes
      refine ends_of_gap gap mark tail blanks ?_
      rcases close with rfl | rfl <;> decide
  | next gap text later blanks =>
      rw [List.append_assoc]
      exact ends_of_gap gap 0x2C _ blanks (by decide)

section Rows

variable (part : Bytes → Prop) (begins : ∀ text, part text → Begins text)

include begins

theorem led_some (text : Bytes) (led : Led part text) : text ≠ [] := by
  obtain ⟨lead, text, _, inside⟩ := led
  obtain ⟨mark, behind, rfl, _⟩ := begins text inside
  simp

theorem led_not_closes (text rest : Bytes) (led : Led part text) : ¬ Closes (text ++ rest) := by
  rintro closes
  obtain ⟨lead, text, blanks, inside⟩ := led
  obtain ⟨mark, behind, rfl, solid, list, object⟩ := begins text inside
  rw [List.append_assoc, List.cons_append] at closes
  rcases closes_mark lead mark _ blanks solid closes with rfl | rfl
  · exact list rfl
  · exact object rfl

theorem row_closes (first : Bool) (text rest : Bytes) (row : Row part first text)
    (closes : Closes (text ++ rest)) : text = [] := by
  cases row with
  | done => rfl
  | first text later inside =>
      rw [List.append_assoc] at closes
      exact absurd closes (led_not_closes part begins text _ inside)
  | next gap text later blanks =>
      rw [List.append_assoc, List.cons_append] at closes
      have mark := closes_mark gap 0x2C _ blanks (by decide) closes
      exact absurd mark (by decide)

theorem led_cut (bound : Nat) (text text' rest rest' : Bytes) (apart : Apart part bound)
    (short : text.length < bound) (led : Led part text) (led' : Led part text') (ends : Ends rest)
    (ends' : Ends rest') (same : text ++ rest = text' ++ rest') : text = text' := by
  obtain ⟨lead, text, blanks, inside⟩ := led
  obtain ⟨lead', text', blanks', inside'⟩ := led'
  rw [List.append_assoc, List.append_assoc] at same
  obtain ⟨rfl, behind⟩ := run_cut isBlank _ _ _ _ blanks (begins_stopped _ _ (begins _ inside))
    blanks' (begins_stopped _ _ (begins _ inside')) same
  rw [List.length_append] at short
  rw [apart text text' rest rest' (by omega) inside inside' ends ends' behind]

theorem row_cut (bound : Nat) (first : Bool) (text text' rest rest' : Bytes)
    (apart : Apart part bound) (short : text.length < bound) (row : Row part first text)
    (row' : Row part first text') (closes : Closes rest) (closes' : Closes rest')
    (same : text ++ rest = text' ++ rest') : text = text' := by
  -- A row that goes on does not stand where the other one ends.
  induction row generalizing text' with
  | done first => exact (row_closes part begins first text' rest' row' (same ▸ closes)).symm
  | first text later inside row ih =>
      cases row' with
      | done =>
          refine row_closes part begins true _ rest (.first text later inside row) ?_
          exact same ▸ closes'
      | first text' later' inside' row' =>
          rw [List.length_append] at short
          rw [List.append_assoc, List.append_assoc] at same
          obtain rfl := led_cut part begins bound text text' _ _ apart (by omega) inside inside'
            (row_ends part later rest row closes) (row_ends part later' rest' row' closes') same
          rw [ih later' (by omega) row' (List.append_cancel_left same)]
  | next gap text later blanks inside row ih =>
      cases row' with
      | done =>
          refine row_closes part begins false _ rest (.next gap text later blanks inside row) ?_
          exact same ▸ closes'
      | next gap' text' later' blanks' inside' row' =>
          simp only [List.length_append, List.length_cons] at short
          simp only [List.append_assoc, List.cons_append] at same
          obtain ⟨rfl, behind⟩ := run_cut isBlank _ _ _ _ blanks (stopped_mark _ _ (by decide))
            blanks' (stopped_mark _ _ (by decide)) same
          have behind := (List.cons.inj behind).2
          obtain rfl := led_cut part begins bound text text' _ _ apart (by omega) inside inside'
            (row_ends part later rest row closes) (row_ends part later' rest' row' closes') behind
          rw [ih later' (by omega) row' (List.append_cancel_left behind)]

theorem body_cut (close : UInt8) (bound : Nat) (text text' rest rest' : Bytes)
    (marks : close = 0x5D ∨ close = 0x7D) (apart : Apart part bound) (short : text.length ≤ bound)
    (body : Body part close text) (body' : Body part close text')
    (same : text ++ rest = text' ++ rest') : text = text' := by
  obtain ⟨parts, gap, row, blanks⟩ := body
  obtain ⟨parts', gap', row', blanks'⟩ := body'
  have solid : isBlank close = false := by rcases marks with rfl | rfl <;> decide
  simp only [List.length_append, List.length_cons] at short
  simp only [List.append_assoc, List.cons_append, List.nil_append] at same
  obtain rfl := row_cut part begins bound true parts parts' _ _ apart (by omega) row row'
    ⟨gap, close, rest, rfl, blanks, marks⟩ ⟨gap', close, rest', rfl, blanks', marks⟩ same
  obtain ⟨rfl, _⟩ := run_cut isBlank _ _ _ _ blanks (stopped_mark _ _ solid) blanks'
    (stopped_mark _ _ solid) (List.append_cancel_left same)
  rfl

end Rows

def After (mark : UInt8) (rest : Bytes) : Prop :=
  if mark = 0x22 then Quoted rest
  else if mark = 0x5B then Body Value 0x5D rest
  else if mark = 0x7B then Body (Member Value) 0x7D rest
  else if mark = 0x2D then Unsigned rest
  else if isDigit mark then Unsigned (mark :: rest)
  else mark :: rest ∈ words

theorem digit_ne (mark other : UInt8) (digit : isDigit mark = true) (no : isDigit other = false) :
    mark ≠ other := by
  rintro rfl
  exact Bool.false_ne_true (no.symm.trans digit)

theorem digit_solid (mark : UInt8) (digit : isDigit mark = true) : isBlank mark = false := by
  have other := fun other => digit_ne mark other digit
  simp [isBlank, other 0x20 (by decide), other 0x0A (by decide), other 0x0D (by decide),
    other 0x09 (by decide)]

theorem value_after (mark : UInt8) (rest : Bytes) (value : Value (mark :: rest)) :
    After mark rest := by
  cases value with
  | word _ member =>
      simp only [words, List.mem_cons, List.cons.injEq, List.not_mem_nil, or_false] at member
      rcases member with ⟨rfl, rfl⟩ | ⟨rfl, rfl⟩ | ⟨rfl, rfl⟩ <;> simp [After, isDigit, words]
  | positive _ number =>
      obtain ⟨b, later, same, digit⟩ := unsigned_head _ number
      obtain ⟨rfl, rfl⟩ := List.cons.inj same
      have other := fun other => digit_ne mark other digit
      simpa [After, digit, other 0x22 (by decide), other 0x5B (by decide), other 0x7B (by decide),
        other 0x2D (by decide)] using number
  | negative _ number => simpa [After] using number
  | string _ quoted => simpa [After] using quoted
  | list _ inside => simpa [After] using inside
  | object _ inside => simpa [After] using inside

theorem value_begins (text : Bytes) (value : Value text) : Begins text := by
  cases value with
  | word _ member =>
      simp only [words, List.mem_cons, List.not_mem_nil, or_false] at member
      rcases member with rfl | rfl | rfl <;> exact ⟨_, _, rfl, by decide, by decide, by decide⟩
  | positive _ number =>
      obtain ⟨b, later, rfl, digit⟩ := unsigned_head _ number
      exact ⟨b, later, rfl, digit_solid b digit, digit_ne b 0x5D digit (by decide),
        digit_ne b 0x7D digit (by decide)⟩
  | _ => exact ⟨_, _, rfl, by decide, by decide, by decide⟩

theorem member_begins (text : Bytes) (member : Member Value text) : Begins text := by
  cases member
  exact ⟨_, _, rfl, by decide, by decide, by decide⟩

theorem member_apart (bound : Nat) (apart : Apart Value bound) : Apart (Member Value) bound := by
  rintro text text' rest rest' short ⟨name, gap, text, quoted, blanks, inside⟩
    ⟨name', gap', text', quoted', blanks', inside'⟩ ends ends' same
  simp only [List.length_append, List.length_cons] at short
  simp only [List.append_assoc, List.cons_append, List.cons.injEq, true_and] at same
  obtain rfl := quoted_cut _ _ _ _ quoted quoted' same
  obtain ⟨rfl, behind⟩ := run_cut isBlank _ _ _ _ blanks (stopped_mark _ _ (by decide)) blanks'
    (stopped_mark _ _ (by decide)) (List.append_cancel_left same)
  have behind := (List.cons.inj behind).2
  rw [led_cut Value value_begins bound text text' rest rest' apart (by omega) inside inside' ends
    ends' behind]

theorem value_apart (bound : Nat) : Apart Value bound := by
  induction bound with
  | zero => exact fun _ _ _ _ short => absurd short (Nat.not_lt_zero _)
  | succ bound ih =>
      intro text text' rest rest' short value value' ends ends' same
      obtain ⟨mark, text, rfl, _⟩ := value_begins text value
      obtain ⟨mark', text', rfl, _⟩ := value_begins text' value'
      obtain ⟨rfl, behind⟩ := List.cons.inj same
      have after := value_after mark text value
      have after' := value_after mark text' value'
      have shorter : text.length ≤ bound := Nat.le_of_lt (Nat.lt_of_succ_lt_succ short)
      unfold After at after after'
      split_ifs at after after' with quote list object minus digit
      · rw [quoted_cut _ _ _ _ after after' behind]
      · rw [body_cut Value value_begins _ bound _ _ _ _ (.inl rfl) ih shorter after after' behind]
      · rw [body_cut (Member Value) member_begins _ bound _ _ _ _ (.inr rfl) (member_apart _ ih)
          shorter after after' behind]
      · rw [(run_cut numeric _ _ _ _ (unsigned_numeric _ after) ends (unsigned_numeric _ after')
          ends' behind).1]
      · exact (run_cut numeric _ _ _ _ (unsigned_numeric _ after) ends (unsigned_numeric _ after')
          ends' same).1
      · simp only [words, List.mem_cons, List.cons.injEq, List.not_mem_nil,
          or_false] at after after'
        rcases after with ⟨rfl, rfl⟩ | ⟨rfl, rfl⟩ | ⟨rfl, rfl⟩ <;> simpa [eq_comm] using after'

theorem nested_value (text : Bytes) (nested : Nested text) : Value text := by
  cases nested with
  | list text inside => exact .list text inside
  | object text inside => exact .object text inside

theorem nested_cut (text text' rest rest' : Bytes) (nested : Nested text) (value : Value text')
    (same : text ++ rest = text' ++ rest') : text = text' := by
  obtain ⟨mark', text', rfl, _⟩ := value_begins text' value
  cases nested with
  | list text inside =>
      obtain ⟨rfl, behind⟩ := List.cons.inj same
      have after : Body Value 0x5D text' := by simpa [After] using value_after _ text' value
      rw [body_cut Value value_begins _ _ _ _ _ _ (.inl rfl) (value_apart text.length)
        (Nat.le_refl _) inside after behind]
  | object text inside =>
      obtain ⟨rfl, behind⟩ := List.cons.inj same
      have after : Body (Member Value) 0x7D text' := by
        simpa [After] using value_after _ text' value
      rw [body_cut (Member Value) member_begins _ _ _ _ _ _ (.inr rfl)
        (member_apart _ (value_apart text.length)) (Nat.le_refl _) inside after behind]

theorem alone_iff (front rest : Bytes) (led : Led Nested front) :
    Alone (front ++ rest) ↔ Blanks rest := by
  obtain ⟨lead, text, blanks, nested⟩ := led
  constructor
  · rintro ⟨_, trail, same, ⟨lead', text', blanks', value⟩, trails⟩
    rw [List.append_assoc, List.append_assoc] at same
    obtain ⟨rfl, behind⟩ := run_cut isBlank _ _ _ _ blanks
      (begins_stopped _ _ (value_begins text (nested_value text nested))) blanks'
      (begins_stopped _ _ (value_begins text' value)) same
    obtain rfl := nested_cut text text' rest trail nested value behind
    rw [List.append_cancel_left behind]
    exact trails
  · intro trails
    exact ⟨lead ++ text, rest, rfl, .intro lead text blanks (nested_value text nested), trails⟩

end WebIdl.Json
