import Mathlib.Algebra.Order.Floor.Div
import Mathlib.Data.Int.CardIntervalMod
import WebIdl.Definitions.Basic
import WebIdl.Proofs.SeedStreams

set_option autoImplicit false

namespace WebIdl

namespace Seed

def everyWord : List UInt64 := (List.range UInt64.size).map UInt64.ofNat

theorem mem_every_word (word : UInt64) : word ∈ everyWord :=
  List.mem_map.mpr ⟨word.toNat, List.mem_range.mpr word.toNat_lt_size, UInt64.ofNat_toNat⟩

theorem advanced_injective (seed : Seed) (one other : Nat) (small : one < UInt64.size)
    (below : other < UInt64.size) (same : seed.advanced one = seed.advanced other) :
    one = other := by
  have products := (UInt64.add_right_inj seed.state).mp (congrArg Seed.state same)
  have words := odd_mul_injective increment _ _ (by decide) products
  have numbers := congrArg UInt64.toNat words
  rwa [UInt64.toNat_ofNat_of_lt' small, UInt64.toNat_ofNat_of_lt' below] at numbers

theorem advanced_size (seed : Seed) : seed.advanced UInt64.size = seed := by
  have round : UInt64.ofNat UInt64.size = 0 := by decide
  simp [advanced, round]

theorem drawn_nodup (seed : Seed) (count : Nat) (within : count ≤ UInt64.size) :
    (seed.drawn next count).1.Nodup := by
  rw [drawn_next]
  refine List.Nodup.map_on ?_ List.nodup_range
  intro one early other late same
  have small := Nat.lt_of_lt_of_le (List.mem_range.mp early) within
  have below := Nat.lt_of_lt_of_le (List.mem_range.mp late) within
  exact advanced_injective seed one other small below (next_injective _ _ same)

theorem drawn_length (seed : Seed) (count : Nat) : (seed.drawn next count).1.length = count := by
  rw [drawn_next, List.length_map, List.length_range]

-- No word is drawn twice, and there are as many draws as words.
theorem period_perm (seed : Seed) : (seed.drawn next UInt64.size).1.Perm everyWord := by
  have distinct := drawn_nodup seed UInt64.size (Nat.le_refl _)
  refine (distinct.subperm fun word _ => mem_every_word word).perm_of_length_le ?_
  rw [drawn_length, everyWord, List.length_map, List.length_range]

theorem period_returns (seed : Seed) : (seed.drawn next UInt64.size).2 = seed := by
  rw [drawn_next]
  exact advanced_size seed

theorem every_word_remainders (length : Nat) :
    everyWord.map (·.toNat % length) = (List.range UInt64.size).map (· % length) := by
  rw [everyWord, List.map_map]
  refine List.map_congr_left fun number below => ?_
  rw [Function.comp_apply, UInt64.toNat_ofNat_of_lt' (List.mem_range.mp below)]

theorem remainder_count (size length position : Nat) (inside : position < length) :
    ((List.range size).map (· % length)).count position =
      size / length + if position < size % length then 1 else 0 := by
  have residues := Nat.count_modEq_card size (Nat.zero_lt_of_lt inside) position
  rw [Nat.mod_eq_of_lt inside] at residues
  rw [← residues, Nat.count, List.count, List.countP_map]
  refine List.countP_congr fun number _ => ?_
  simp [Nat.ModEq, Nat.mod_eq_of_lt inside]

theorem rounded_up (size length : Nat) (positive : 0 < length) (left : 0 < size % length) :
    size ⌈/⌉ length = size / length + 1 := by
  have parts := Nat.div_add_mod size length
  have remainder := Nat.mod_lt size positive
  apply Nat.le_antisymm
  · rw [ceilDiv_le_iff_le_mul positive, Nat.mul_add_one]
    omega
  · by_contra lower
    have covered := (ceilDiv_le_iff_le_mul positive).mp (Nat.le_of_lt_succ (Nat.lt_of_not_le lower))
    omega

end Seed

namespace Enumeration

def positions (enumeration : Enumeration) (count : Nat) (seed : Seed) : List Nat :=
  (seed.drawn (·.nextIndex enumeration.values.length) count).1

section Picks

variable (enumeration : Enumeration) (some_value : enumeration.values ≠ [])

theorem positions_eq (count : Nat) (seed : Seed) :
    enumeration.positions count seed =
      (seed.drawn Seed.next count).1.map (·.toNat % enumeration.values.length) := by
  rw [positions, Seed.drawn_of_next (·.nextIndex enumeration.values.length)
    (·.toNat % enumeration.values.length) fun _ => rfl]

theorem period_positions (seed : Seed) (position : Nat)
    (inside : position < enumeration.values.length) :
    (enumeration.positions UInt64.size seed).count position =
      UInt64.size / enumeration.values.length +
        if position < UInt64.size % enumeration.values.length then 1 else 0 := by
  rw [positions_eq, ((Seed.period_perm seed).map _).count_eq, Seed.every_word_remainders,
    Seed.remainder_count _ _ _ inside]

include some_value

theorem pick_eq (seed : Seed) :
    enumeration.pick seed =
      (enumeration.values[seed.next.1.toNat % enumeration.values.length]?, seed.next.2) := by
  rw [pick, if_neg (by simpa using some_value)]
  rfl

theorem position_inside (seed : Seed) :
    (seed.nextIndex enumeration.values.length).1 < enumeration.values.length :=
  Nat.mod_lt _ (List.length_pos_iff.mpr some_value)

theorem picks_eq (count : Nat) (seed : Seed) :
    seed.drawn enumeration.pick count =
      ((enumeration.positions count seed).map (enumeration.values[·]?),
        (seed.drawn Seed.next count).2) := by
  rw [Seed.drawn_of_next enumeration.pick
    (fun word => enumeration.values[word.toNat % enumeration.values.length]?)
    (pick_eq enumeration some_value), positions_eq, List.map_map]
  rfl

end Picks

theorem picks_even (seed : Seed) :
    (seed.drawn Seed.next UInt64.size).1.Perm Seed.everyWord ∧
    (seed.drawn Seed.next UInt64.size).2 = seed ∧
    ∀ enumeration : Enumeration, enumeration.values ≠ [] →
      (∃ inside : (seed.nextIndex enumeration.values.length).1 < enumeration.values.length,
        (enumeration.pick seed).1 =
          some enumeration.values[(seed.nextIndex enumeration.values.length).1]) ∧
      seed.drawn enumeration.pick UInt64.size =
        ((enumeration.positions UInt64.size seed).map (enumeration.values[·]?), seed) ∧
      ∀ position < enumeration.values.length,
        (enumeration.positions UInt64.size seed).count position =
            UInt64.size / enumeration.values.length ∨
          (enumeration.positions UInt64.size seed).count position =
            UInt64.size ⌈/⌉ enumeration.values.length := by
  refine ⟨Seed.period_perm seed, Seed.period_returns seed, fun enumeration some_value => ?_⟩
  have inside := position_inside enumeration some_value seed
  refine ⟨⟨inside, ?_⟩, ?_, fun position below => ?_⟩
  · rw [pick_eq enumeration some_value]
    exact List.getElem?_eq_getElem inside
  · rw [picks_eq enumeration some_value, Seed.period_returns]
  · rw [period_positions enumeration seed position below]
    by_cases once_more : position < UInt64.size % enumeration.values.length
    · right
      rw [if_pos once_more, Seed.rounded_up _ _ (Nat.zero_lt_of_lt below)
        (Nat.zero_lt_of_lt once_more)]
    · left
      rw [if_neg once_more, Nat.add_zero]

theorem three_sides_even :
    ["left", "middle", "right"] ≠ [] ∧
      (((Enumeration.mk "Side" ["left", "middle", "right"]).positions UInt64.size
          (Seed.ofWord 0)).count 2 = 6148914691236517205 ∨
        ((Enumeration.mk "Side" ["left", "middle", "right"]).positions UInt64.size
          (Seed.ofWord 0)).count 2 = 6148914691236517206) := by
  have some_side : ["left", "middle", "right"] ≠ [] := by decide
  have third : UInt64.size / 3 = 6148914691236517205 := by decide
  have raised : UInt64.size ⌈/⌉ 3 = 6148914691236517206 := by decide
  rw [← third, ← raised]
  exact ⟨some_side, ((picks_even (Seed.ofWord 0)).2.2 ⟨"Side", _⟩ some_side).2.2 2 (by decide)⟩

end Enumeration

end WebIdl
