set_option autoImplicit false

namespace WebIdl

structure Seed where
  state : UInt64
deriving DecidableEq

namespace Seed

def increment : UInt64 := 0x9E3779B97F4A7C15

-- A generator that starts from a seed; zero starts from the increment.
def ofWord (seed : UInt64) : Seed := ⟨if seed = 0 then increment else seed⟩

def mix (z : UInt64) : UInt64 :=
  let z := (z ^^^ (z >>> 30)) * 0xBF58476D1CE4E5B9
  let z := (z ^^^ (z >>> 27)) * 0x94D049BB133111EB
  z ^^^ (z >>> 31)

def next (seed : Seed) : UInt64 × Seed :=
  let state := seed.state + increment
  (mix state, ⟨state⟩)

def nextIndex (seed : Seed) (length : Nat) : Nat × Seed :=
  let (word, seed) := seed.next
  (word.toNat % length, seed)

end Seed

end WebIdl
