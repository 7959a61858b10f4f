import WebIdl.Interval
import WebIdl.Proofs.IntegerLiterals

set_option autoImplicit false

namespace WebIdl

namespace Decimal

inductive Signed : List Char → Int → Prop
  | unsigned (text : List Char) (value : Nat) (denotes : Denotes 10 text value) : Signed text value
  | positive (text : List Char) (value : Nat) (denotes : Denotes 10 text value) :
      Signed ('+' :: text) value
  | negative (text : List Char) (value : Nat) (denotes : Denotes 10 text value) :
      Signed ('-' :: text) (-value)

def Signed128 (text : List Char) (value : Int) : Prop :=
  Signed text value ∧ least128 ≤ value ∧ value ≤ greatest128

theorem signed_iff (text : List Char) (value : Int) :
    Signed text value ↔ ∃ n : Nat,
      Denotes 10 (Literal.signOf text).2 n ∧ (Literal.signOf text).1 * n = value := by
  constructor
  · rintro (⟨_, n, denotes⟩ | ⟨_, n, denotes⟩ | ⟨_, n, denotes⟩)
    · rw [Literal.digits_sign 10 text n (by decide) denotes]
      exact ⟨n, denotes, by simp⟩
    · exact ⟨n, denotes, by simp [Literal.signOf]⟩
    · exact ⟨n, denotes, by simp [Literal.signOf]⟩
  · rintro ⟨n, denotes, rfl⟩
    unfold Literal.signOf at denotes ⊢
    split at denotes
    · simpa using Signed.negative _ n denotes
    · simpa using Signed.positive _ n denotes
    · simpa using Signed.unsigned _ n denotes

theorem read_int128_eq (text : List Char) :
    readInt128 text = ((readNat 10 (Literal.signOf text).2).map
      fun n : Nat => (Literal.signOf text).1 * (n : Int)).filter fits128 := by
  unfold readInt128
  split
  · next rest => cases read : readNat 10 rest <;> simp [Literal.signOf, read]
  · next rest => cases read : readNat 10 rest <;> simp [Literal.signOf, read]
  · cases read : readNat 10 text <;> simp [Literal.signOf, read]

theorem read_int128_iff (text : List Char) (value : Int) :
    readInt128 text = some value ↔ Signed128 text value := by
  rw [read_int128_eq, Option.filter_eq_some_iff, Option.map_eq_some_iff, Signed128, signed_iff,
    fits128, decide_eq_true_eq]
  simp only [read_nat_iff 10 _ _ (show 10 ≤ 16 by decide)]

end Decimal

namespace Interval

section Grammar

variable {α : Type} (Denotes : List Char → α → Prop)

inductive End (text : List Char) : Option α → Prop
  | missing (blank : Unicode.trim text = []) : End text none
  | given (value : α) (denotes : Denotes (Unicode.trim text) value) : End text (some value)

-- Two brackets around two ends with the only comma between them.
structure Written (text : List Char) (opening : Char) (low high : Option α) (closing : Char) :
    Prop where
  opens : opening = '[' ∨ opening = '('
  closes : closing = ']' ∨ closing = ')'
  ends : ∃ front back, text = opening :: (front ++ ',' :: back) ++ [closing] ∧
    ',' ∉ front ∧ ',' ∉ back ∧ End Denotes front low ∧ End Denotes back high

end Grammar

def bound {α : Type} (square bracket : Char) : Option α → Bound α
  | none => .unbounded
  | some value => if bracket = square then .included value else .excluded value

section Reading

variable {α : Type} (read : List Char → Option α)

theorem unwrap_iff (text body : List Char) (first last : Char) :
    unwrap text = some (first, body, last) ↔ text = first :: body ++ [last] := by
  cases text with
  | nil => simp [unwrap]
  | cons c rest =>
      obtain rfl | ⟨front, back, rfl⟩ := List.eq_nil_or_concat rest
      · simp [unwrap]
      · simp [unwrap]

def readEnd (text : List Char) : Option (Option α) :=
  if (Unicode.trim text).isEmpty then some none else (read (Unicode.trim text)).map some

theorem read_bound_eq (square round bracket : Char) (text : List Char) :
    readBound read square round bracket text =
      if bracket = square ∨ bracket = round then (readEnd read text).map (bound square bracket)
      else none := by
  unfold readBound readEnd
  by_cases empty : (Unicode.trim text).isEmpty
  · by_cases same : bracket = square <;> simp [empty, same, bound]
  · by_cases same : bracket = square <;> cases found : read (Unicode.trim text) <;>
      simp [empty, same, bound, found]

variable (Denotes : List Char → α → Prop)
  (judged : ∀ text value, read text = some value ↔ Denotes text value)
  (inked : ∀ value, ¬ Denotes [] value)

include judged inked

theorem read_end_iff (text : List Char) (value : Option α) :
    readEnd read text = some value ↔ End Denotes text value := by
  unfold readEnd
  split
  · next blank =>
      have blank := List.isEmpty_iff.mp blank
      constructor
      · rintro ⟨⟩
        exact .missing blank
      · intro ended
        cases ended with
        | missing => rfl
        | given value denotes =>
            rw [blank] at denotes
            exact absurd denotes (inked value)
  · next some_text =>
      constructor
      · intro found
        obtain ⟨number, known, rfl⟩ := Option.map_eq_some_iff.mp found
        exact .given number ((judged _ number).mp known)
      · intro ended
        cases ended with
        | missing blank => exact absurd (List.isEmpty_iff.mpr blank) some_text
        | given number denotes =>
            exact Option.map_eq_some_iff.mpr ⟨number, (judged _ number).mpr denotes, rfl⟩

theorem read_bound_iff (square round bracket : Char) (text : List Char) (result : Bound α) :
    readBound read square round bracket text = some result ↔
      (bracket = square ∨ bracket = round) ∧
        ∃ value, End Denotes text value ∧ bound square bracket value = result := by
  simp only [read_bound_eq, ← read_end_iff read Denotes judged inked,
    Option.ite_none_right_eq_some, Option.map_eq_some_iff]

theorem read_iff (text : List Char) (interval : Interval α) :
    Interval.read read text = some interval ↔ ∃ opening low high closing,
      Written Denotes (Unicode.trim text) opening low high closing ∧
        interval = ⟨bound '[' opening low, bound ']' closing high⟩ := by
  have ends := read_bound_iff read Denotes judged inked
  simp only [Interval.read, Option.bind_eq_bind, Option.bind_eq_some_iff, Prod.exists, unwrap_iff,
    Text.cut_at_iff]
  constructor
  · rintro ⟨opening, body, closing, shape, front, back, ⟨rfl, single⟩, read⟩
    split at read
    · cases read
    · next only =>
        obtain ⟨lower, lowRead, upper, highRead, ⟨⟩⟩ := by
          simpa only [Option.bind_eq_some_iff] using read
        obtain ⟨opens, low, lowEnd, rfl⟩ := (ends _ _ _ _ _).mp lowRead
        obtain ⟨closes, high, highEnd, rfl⟩ := (ends _ _ _ _ _).mp highRead
        rw [List.contains_iff_mem] at only
        exact ⟨opening, low, high, closing,
          ⟨opens, closes, front, back, shape, single, only, lowEnd, highEnd⟩, rfl⟩
  · rintro ⟨opening, low, high, closing,
      ⟨opens, closes, front, back, shape, single, only, lowEnd, highEnd⟩, rfl⟩
    refine ⟨opening, front ++ ',' :: back, closing, shape, front, back, ⟨rfl, single⟩, ?_⟩
    rw [← List.contains_iff_mem] at only
    rw [if_neg only, (ends _ _ _ _ _).mpr ⟨opens, low, lowEnd, rfl⟩, Option.bind_some,
      (ends _ _ _ _ _).mpr ⟨closes, high, highEnd, rfl⟩]
    rfl

end Reading

def Above (opening : Char) : Option Int → Int → Prop
  | none, _ => True
  | some low, value => if opening = '[' then low ≤ value else low < value

def Below (closing : Char) : Option Int → Int → Prop
  | none, _ => True
  | some high, value => if closing = ']' then value ≤ high else value < high

theorem holds_iff (opening closing : Char) (low high : Option Int) (value : Int) :
    holds NumberRange.leInt NumberRange.ltInt ⟨bound '[' opening low, bound ']' closing high⟩
      value = true ↔ Above opening low value ∧ Below closing high value := by
  unfold holds
  rw [Bool.and_eq_true]
  refine and_congr ?_ ?_
  · cases low with
    | none => simp [bound, Above]
    | some low =>
        by_cases square : opening = '[' <;>
          simp [bound, Above, square, NumberRange.leInt, NumberRange.ltInt]
  · cases high with
    | none => simp [bound, Below]
    | some high =>
        by_cases square : closing = ']' <;>
          simp [bound, Below, square, NumberRange.leInt, NumberRange.ltInt]

end Interval

theorem NumberRange.integers_read_iff (text : String) :
    ((∃ range, ofText text false = .ok range) ↔ ∃ opening low high closing,
      Interval.Written Decimal.Signed128 (Unicode.trim text.toList) opening low high closing) ∧
    ∀ opening low high closing,
      Interval.Written Decimal.Signed128 (Unicode.trim text.toList) opening low high closing →
        ∃ range, ofText text false = .ok range ∧ ∀ value, range.holdsInt value = true ↔
          Interval.Above opening low value ∧ Interval.Below closing high value := by
  have inked : ∀ value, ¬ Decimal.Signed128 [] value := by
    intro value written
    cases (Decimal.read_int128_iff [] value).mpr written
  have intervals := Interval.read_iff Decimal.readInt128 Decimal.Signed128 Decimal.read_int128_iff
    inked text.toList
  have given : ∀ interval, Interval.read Decimal.readInt128 text.toList = some interval →
      ofText text false = .ok (.integer interval) := by
    intro interval read
    simp [ofText, read]
  refine ⟨⟨fun ⟨range, found⟩ => ?_, ?_⟩, ?_⟩
  · cases read : Interval.read Decimal.readInt128 text.toList with
    | none => simp [ofText, read] at found
    | some interval =>
        obtain ⟨opening, low, high, closing, written, -⟩ := (intervals interval).mp read
        exact ⟨opening, low, high, closing, written⟩
  · rintro ⟨opening, low, high, closing, written⟩
    exact ⟨_, given _ ((intervals _).mpr ⟨opening, low, high, closing, written, rfl⟩)⟩
  · intro opening low high closing written
    exact ⟨_, given _ ((intervals _).mpr ⟨opening, low, high, closing, written, rfl⟩),
      Interval.holds_iff opening closing low high⟩

theorem NumberRange.half_open_read :
    Interval.Written Decimal.Signed128 (Unicode.trim "\u00a0( -5,+07]\n".toList) '(' (some (-5))
      (some 7) ']' ∧
    ∃ range, ofText "\u00a0( -5,+07]\n" false = .ok range ∧ ∀ value,
      range.holdsInt value = true ↔ -5 < value ∧ value ≤ 7 := by
  have denoted := fun text value => Decimal.read_int128_iff text value
  have written : Interval.Written Decimal.Signed128 (Unicode.trim "\u00a0( -5,+07]\n".toList) '('
      (some (-5)) (some 7) ']' :=
    ⟨.inr rfl, .inl rfl, [' ', '-', '5'], ['+', '0', '7'], by decide, by decide, by decide,
      .given (-5) ((denoted _ _).mp (by decide)), .given 7 ((denoted _ _).mp (by decide))⟩
  obtain ⟨range, read, holds⟩ := (integers_read_iff "\u00a0( -5,+07]\n").2 _ _ _ _ written
  exact ⟨written, range, read, holds⟩

end WebIdl
