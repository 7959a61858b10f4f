import Mathlib.Data.List.Forall2
import Mathlib.Data.Nat.Digits.Defs
import Mathlib.Tactic.Ring
import WebIdl.Decimal.Digits

set_option autoImplicit false

namespace WebIdl.Decimal

def IsDigit (radix : Nat) (c : Char) (count : Nat) : Prop :=
  count < radix ∧ (c = Nat.digitChar count ∨ c = (Nat.digitChar count).toUpper)

-- One or more digits, the last one counting once and every other one `radix` times what it would
-- count in the place behind it.
def Denotes (radix : Nat) (text : List Char) (value : Nat) : Prop :=
  text ≠ [] ∧ ∃ counts, List.Forall₂ (IsDigit radix) text counts ∧
    Nat.ofDigits radix counts.reverse = value

theorem between_iff (low high c : Char) :
    low ≤ c ∧ c ≤ high ↔ low.toNat ≤ c.toNat ∧ c.toNat ≤ high.toNat :=
  Iff.rfl

theorem digit_value_iff (radix : Nat) (c : Char) (count : Nat) (bound : radix ≤ 16) :
    digitValue radix c = some count ↔ IsDigit radix c count := by
  constructor
  · have decimal : ∀ n < 10, (Nat.digitChar n).toNat = n + 48 := by decide
    have small : ∀ n < 16, 10 ≤ n → (Nat.digitChar n).toNat = n + 87 := by decide
    have capital : ∀ n < 16, 10 ≤ n → (Nat.digitChar n).toUpper.toNat = n + 55 := by decide
    intro known
    simp only [digitValue, between_iff, Option.filter_eq_some_iff, decide_eq_true_eq] at known
    obtain ⟨place, below⟩ := known
    have nine : '0'.toNat = 48 ∧ '9'.toNat = 57 := by decide
    have letters : 'a'.toNat = 97 ∧ 'f'.toNat = 102 ∧ 'A'.toNat = 65 ∧ 'F'.toNat = 70 := by decide
    refine ⟨below, ?_⟩
    split at place
    · cases place
      exact .inl (Char.toNat_inj.mp (by rw [decimal _ (by omega)]; omega))
    · split at place
      · cases place
        exact .inl (Char.toNat_inj.mp (by rw [small _ (by omega) (by omega)]; omega))
      · split at place
        · cases place
          exact .inr (Char.toNat_inj.mp (by rw [capital _ (by omega) (by omega)]; omega))
        · cases place
  · have places : ∀ n < 16, digitValue 16 (Nat.digitChar n) = some n ∧
        digitValue 16 (Nat.digitChar n).toUpper = some n := by decide
    rintro ⟨below, digit⟩
    have known : digitValue 16 c = some count := by
      obtain rfl | rfl := digit
      · exact (places count (by omega)).1
      · exact (places count (by omega)).2
    simp only [digitValue, Option.filter_eq_some_iff, decide_eq_true_eq] at known ⊢
    exact ⟨known.1, below⟩

theorem read_from_iff (radix start : Nat) (text : List Char) (value : Nat) (bound : radix ≤ 16) :
    readFrom radix start text = some value ↔ ∃ counts, List.Forall₂ (IsDigit radix) text counts ∧
      start * radix ^ counts.length + Nat.ofDigits radix counts.reverse = value := by
  induction text generalizing start with
  | nil => simp [readFrom, List.forall₂_nil_left_iff]
  | cons c rest ih =>
      simp only [readFrom, Option.bind_eq_some_iff, digit_value_iff radix c _ bound, ih]
      constructor
      · rintro ⟨count, digit, counts, digits, rfl⟩
        refine ⟨count :: counts, .cons digit digits, ?_⟩
        simp only [List.length_cons, List.reverse_cons, Nat.ofDigits_append, List.length_reverse,
          Nat.ofDigits_singleton]
        ring
      · rintro ⟨_, _ | ⟨digit, digits⟩, rfl⟩
        refine ⟨_, digit, _, digits, ?_⟩
        simp only [List.length_cons, List.reverse_cons, Nat.ofDigits_append, List.length_reverse,
          Nat.ofDigits_singleton]
        ring

theorem read_nat_iff (radix : Nat) (text : List Char) (value : Nat) (bound : radix ≤ 16) :
    readNat radix text = some value ↔ Denotes radix text value := by
  cases text with
  | nil => simp [readNat, Denotes]
  | cons c rest =>
      simp only [readNat, read_from_iff _ _ _ _ bound, Denotes, Nat.zero_mul, Nat.zero_add]
      simp

theorem read_digits (n : Nat) : readNat 10 (digits n) = some n := by
  have read : ∀ text ≠ [], readNat 10 text = readFrom 10 0 text := by
    intro text some_digit
    cases text with
    | nil => exact absurd rfl some_digit
    | cons => rfl
  induction n using Nat.strongRecOn with
  | ind n ih =>
      have last : digitValue 10 (Nat.digitChar (n % 10)) = some (n % 10) :=
        (digit_value_iff 10 _ _ (by decide)).mpr ⟨Nat.mod_lt n (by decide), .inl rfl⟩
      by_cases small : n < 10
      · rw [Nat.mod_eq_of_lt small] at last
        simp [digits, Nat.toDigits_of_lt_base small, readNat, readFrom, last]
      · have front := ih (n / 10) (by omega)
        rw [digits, read _ Nat.toDigits_ne_nil] at front
        rw [digits, read _ Nat.toDigits_ne_nil,
          Nat.toDigits_of_base_le (by decide) (by omega), read_from_append 10 0 _ _ _ last, front,
          Option.map_some]
        congr 1
        omega

theorem digits_leading (n : Nat) (zero : (digits n).head? = some '0') : digits n = ['0'] := by
  induction n using Nat.strongRecOn with
  | ind n ih =>
      by_cases small : n < 10
      · rw [digits, Nat.toDigits_of_lt_base small] at zero ⊢
        simpa using zero
      · have cut := Nat.toDigits_of_base_le (show 1 < 10 by decide) (show 10 ≤ n by omega)
        rw [digits, cut, List.head?_append_of_ne_nil _ Nat.toDigits_ne_nil] at zero
        have front := read_digits (n / 10)
        rw [ih (n / 10) (by omega) zero] at front
        have : n / 10 = 0 := (Option.some.inj front).symm
        omega

def held (value : Int) : Option Int := (some value).filter fits128

def heldFrom (radix : Nat) (value : Int) : List Char → Option Int
  | [] => some value
  | c :: rest => do
      let count ← digitValue radix c
      let product ← held (value * radix)
      let sum ← held (product + count)
      heldFrom radix sum rest

theorem fits_small (value : Int) (small : value.natAbs < 2 ^ 127) : fits128 value = true := by
  have power : 2 ^ 127 = 170141183460469231731687303715884105728 := by decide
  rw [power] at small
  rw [fits128, least128, greatest128, decide_eq_true_eq]
  omega

theorem held_small (value : Int) (small : value.natAbs < 2 ^ 127) : held value = some value := by
  simp [held, Option.filter, fits_small value small]

theorem held_natural (n : Nat) : held n = if n < Nat.pow 2 127 then some (n : Int) else none := by
  by_cases small : n < Nat.pow 2 127
  · rw [if_pos small]
    exact held_small n small
  · have power : Nat.pow 2 127 = 170141183460469231731687303715884105728 := by decide
    have outside : fits128 n = false := by
      rw [fits128, least128, greatest128, decide_eq_false_iff_not]
      omega
    simp [held, Option.filter, outside, small]

theorem read_from_le (radix start : Nat) (text : List Char) (value : Nat) (some_radix : 0 < radix)
    (read : readFrom radix start text = some value) : start ≤ value := by
  induction text generalizing start with
  | nil => exact Nat.le_of_eq (Option.some.inj read)
  | cons c rest ih =>
      obtain ⟨count, -, read⟩ := Option.bind_eq_some_iff.mp read
      have grown : start ≤ start * radix := Nat.le_mul_of_pos_right start some_radix
      have := ih _ read
      omega

theorem filter_large (radix start : Nat) (text : List Char) (some_radix : 0 < radix)
    (large : Nat.pow 2 127 ≤ start) :
    (readFrom radix start text).filter (· < Nat.pow 2 127) = none := by
  rw [Option.filter_eq_none_iff]
  intro value read
  have grown := read_from_le radix start text value some_radix read
  simp only [decide_eq_true_eq]
  omega

theorem held_from_eq (radix start : Nat) (text : List Char) (some_radix : 0 < radix)
    (small : start < Nat.pow 2 127) :
    heldFrom radix start text =
      ((readFrom radix start text).filter (· < Nat.pow 2 127)).map fun n : Nat => (n : Int) := by
  induction text generalizing start with
  | nil => simp [heldFrom, readFrom, Option.filter, small]
  | cons c rest ih =>
      rw [heldFrom, readFrom]
      cases digitValue radix c with
      | none => rfl
      | some count =>
          simp only [Option.bind_eq_bind, Option.bind_some]
          rw [← Int.natCast_mul, held_natural]
          by_cases next : start * radix + count < Nat.pow 2 127
          · have product : start * radix < Nat.pow 2 127 := by omega
            rw [if_pos product, Option.bind_some, ← Int.natCast_add, held_natural, if_pos next,
              Option.bind_some, ih _ next]
          · rw [filter_large radix _ rest some_radix (by omega)]
            by_cases product : start * radix < Nat.pow 2 127
            · rw [if_pos product, Option.bind_some, ← Int.natCast_add, held_natural, if_neg next]
              rfl
            · rw [if_neg product]
              rfl

end WebIdl.Decimal
