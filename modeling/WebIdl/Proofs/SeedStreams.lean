import Mathlib.Data.Nat.ModEq
import Mathlib.Data.Nat.Prime.Basic
import WebIdl.Seed

set_option autoImplicit false

namespace WebIdl.Seed

-- What the two words differ in would equal its own shift, which is smaller unless it is zero.
theorem xor_shift_injective (shift one other : UInt64) (positive : 0 < shift.toNat % 64)
    (same : one ^^^ (one >>> shift) = other ^^^ (other >>> shift)) : one = other := by
  have shifted : (one ^^^ other) >>> shift = one ^^^ other := by
    rw [← UInt64.xor_eq_zero_iff] at same ⊢
    rw [UInt64.shiftRight_xor, ← same]
    ac_rfl
  have halved : (one ^^^ other).toNat / 2 ^ (shift.toNat % 64) = (one ^^^ other).toNat := by
    rw [← Nat.shiftRight_eq_div_pow, ← UInt64.toNat_shiftRight, shifted]
  have nothing : (one ^^^ other).toNat = 0 := by
    by_contra left
    have less := Nat.div_lt_self (Nat.pos_of_ne_zero left) (Nat.one_lt_two_pow positive.ne')
    omega
  exact UInt64.xor_eq_zero_iff.mp (UInt64.toNat_inj.mp nothing)

theorem odd_mul_injective (factor one other : UInt64) (odd : factor.toNat % 2 = 1)
    (same : one * factor = other * factor) : one = other := by
  have coprime : Nat.gcd (2 ^ 64) factor.toNat = 1 :=
    Nat.Coprime.pow_left 64 (Nat.coprime_two_left.mpr (Nat.odd_iff.mpr odd))
  have products : one.toNat * factor.toNat ≡ other.toNat * factor.toNat [MOD 2 ^ 64] := by
    have numbers := congrArg UInt64.toNat same
    rwa [UInt64.toNat_mul, UInt64.toNat_mul] at numbers
  have words := Nat.ModEq.cancel_right_of_coprime coprime products
  exact UInt64.toNat_inj.mp (words.eq_of_lt_of_lt one.toNat_lt other.toNat_lt)

theorem mix_injective (one other : UInt64) (same : mix one = mix other) : one = other := by
  have second := xor_shift_injective 31 _ _ (by decide) same
  have first := xor_shift_injective 27 _ _ (by decide) (odd_mul_injective _ _ _ (by decide) second)
  exact xor_shift_injective 30 _ _ (by decide) (odd_mul_injective _ _ _ (by decide) first)

theorem next_injective (one other : Seed) (same : one.next.1 = other.next.1) : one = other := by
  have states := (UInt64.add_left_inj increment).mp (mix_injective _ _ same)
  cases one
  cases other
  exact congrArg Seed.mk states

def drawn {α : Type} (draw : Seed → α × Seed) : Nat → Seed → List α × Seed
  | 0, seed => ([], seed)
  | count + 1, seed =>
      let rest := drawn draw count (draw seed).2
      ((draw seed).1 :: rest.1, rest.2)

-- Proved by rewriting, so that no use of it is checked by computation: sums with a constant as large
-- as the increment go too deep for that.
theorem drawn_succ {α : Type} (draw : Seed → α × Seed) (count : Nat) (seed : Seed) :
    seed.drawn draw (count + 1) =
      ((draw seed).1 :: ((draw seed).2.drawn draw count).1, ((draw seed).2.drawn draw count).2) := by
  rw [drawn]

def advanced (seed : Seed) (steps : Nat) : Seed := ⟨seed.state + UInt64.ofNat steps * increment⟩

theorem advanced_zero (seed : Seed) : seed.advanced 0 = seed := by
  cases seed
  simp [advanced]

theorem next_advanced (seed : Seed) (steps : Nat) :
    seed.next.2.advanced steps = seed.advanced (steps + 1) := by
  simp only [next, advanced, Seed.mk.injEq, UInt64.ofNat_add, UInt64.add_mul]
  rw [UInt64.add_assoc, UInt64.add_comm increment]
  simp

theorem drawn_next (count : Nat) (seed : Seed) :
    seed.drawn next count =
      ((List.range count).map fun place => (seed.advanced place).next.1, seed.advanced count) := by
  induction count generalizing seed with
  | zero => simp [drawn, advanced_zero]
  | succ count ih =>
      simp only [drawn_succ, ih, next_advanced, List.range_succ_eq_map, List.map_cons, List.map_map,
        advanced_zero]
      rfl

theorem drawn_of_next {α : Type} (draw : Seed → α × Seed) (value : UInt64 → α)
    (made : ∀ seed : Seed, draw seed = (value seed.next.1, seed.next.2)) (count : Nat) (seed : Seed) :
    seed.drawn draw count =
      ((seed.drawn next count).1.map value, (seed.drawn next count).2) := by
  induction count generalizing seed with
  | zero => rfl
  | succ count ih => simp only [drawn_succ, made, ih, List.map_cons]

theorem next_eq_iff (one other : Seed) : one.next.1 = other.next.1 ↔ one = other :=
  ⟨next_injective one other, fun alike => congrArg (fun seed => seed.next.1) alike⟩

theorem drawn_eq_iff (one other : Seed) :
    (∀ count, (one.drawn next count).1 = (other.drawn next count).1) ↔ one = other := by
  constructor
  · intro streams
    have row := streams 1
    rw [drawn_succ, drawn_succ] at row
    exact next_injective one other (List.cons.inj row).1
  · rintro rfl count
    rfl

def StartAlike (one other : UInt64) : Prop :=
  one = other ∨ one = 0 ∧ other = increment ∨ one = increment ∧ other = 0

theorem of_word_eq_iff (one other : UInt64) :
    ofWord one = ofWord other ↔ StartAlike one other := by
  have some_increment : increment ≠ 0 := by decide
  simp only [ofWord, Seed.mk.injEq, StartAlike]
  grind

-- The first word is enough to tell two streams apart.
theorem streams_agree_iff (one other : UInt64) :
    ((ofWord one).next.1 = (ofWord other).next.1 ↔ StartAlike one other) ∧
    ((∀ count, ((ofWord one).drawn next count).1 = ((ofWord other).drawn next count).1) ↔
      StartAlike one other) := by
  rw [next_eq_iff, drawn_eq_iff, of_word_eq_iff]
  exact ⟨Iff.rfl, Iff.rfl⟩

theorem zero_starts_at_increment :
    (0 : UInt64) ≠ 0x9E3779B97F4A7C15 ∧ ofWord 0 = ofWord 0x9E3779B97F4A7C15 ∧
      (ofWord 0).next.1 = (ofWord 0x9E3779B97F4A7C15).next.1 := by
  decide

end WebIdl.Seed
