set_option autoImplicit false

/-!
The shortest decimal that reads back as a given binary fraction. A finite number of 64 bits is
`m * 2 ^ q`. The reals that round to it form an interval around it, whose ends belong to it exactly
if `m` is even. Of all multiples of powers of ten inside the interval those of the largest power
have the fewest digits, and of these the nearest to the number is taken. If two are equally near,
the notation decides between them.
-/

namespace WebIdl.Decimal

structure Magnitude where
  mantissa : Nat
  exponent : Int
deriving DecidableEq

inductive Decoded where
  | finite (negative : Bool) (magnitude : Magnitude)
  | infinite (negative : Bool)
  | nan
deriving DecidableEq

def decode (x : Float) : Decoded :=
  let bits := x.toBits.toNat
  let negative := decide (Nat.pow 2 63 ≤ bits)
  let field : Nat := bits / Nat.pow 2 52 % Nat.pow 2 11
  let fraction : Nat := bits % Nat.pow 2 52
  if field = 2047 then if fraction = 0 then .infinite negative else .nan
  else if field = 0 then .finite negative ⟨fraction, -1074⟩
  else .finite negative ⟨Nat.pow 2 52 + fraction, (field : Int) - 1075⟩

structure Scaled where
  digits : Nat
  exponent : Int
deriving DecidableEq

structure Rounding where
  low : Nat
  middle : Nat
  high : Nat
  unit : Int
  closed : Bool

-- Below a power of two the neighbours lie at half the distance.
def Magnitude.rounding (x : Magnitude) : Rounding :=
  let middle := 4 * x.mantissa
  let low := if x.mantissa = Nat.pow 2 52 ∧ -1074 < x.exponent then middle - 1 else middle - 2
  ⟨low, middle, middle + 2, x.exponent - 2, x.mantissa % 2 == 0⟩

def Rounding.gridFactor (r : Rounding) (power : Int) : Nat :=
  Nat.pow 10 power.toNat * Nat.pow 2 (-r.unit).toNat

def Rounding.unitFactor (r : Rounding) (power : Int) : Nat :=
  Nat.pow 2 r.unit.toNat * Nat.pow 10 (-power).toNat

def Rounding.holds (r : Rounding) (power : Int) (digits : Nat) : Bool :=
  let point := digits * r.gridFactor power
  let low := r.low * r.unitFactor power
  let high := r.high * r.unitFactor power
  if r.closed then decide (low ≤ point ∧ point ≤ high) else decide (low < point ∧ point < high)

inductive Tie where
  | toEven
  | up
deriving DecidableEq

def Tie.choose (tie : Tie) (below : Nat) : Nat :=
  match tie with
  | .toEven => if below % 2 = 0 then below else below + 1
  | .up => below + 1

def Rounding.nearest (r : Rounding) (tie : Tie) (power : Int) : Option Nat :=
  let below := r.middle * r.unitFactor power / r.gridFactor power
  match r.holds power below, r.holds power (below + 1) with
  | false, false => none
  | true, false => some below
  | false, true => some (below + 1)
  | true, true =>
      let twice := 2 * r.middle * r.unitFactor power
      let between := (2 * below + 1) * r.gridFactor power
      if twice < between then some below
      else if between < twice then some (below + 1)
      else some (tie.choose below)

def Rounding.coarsest (r : Rounding) (tie : Tie) : Nat → Int → Scaled
  | 0, power => ⟨0, power⟩
  | tries + 1, power =>
      match r.nearest tie power with
      | some digits => ⟨digits, power⟩
      | none => r.coarsest tie tries (power - 1)

-- The shortest decimal that reads back as the number. No number of 64 bits reaches `10 ^
-- 309`, and `10 ^ (-326)` is finer than half the smallest of them.
def shortest (tie : Tie) (x : Magnitude) : Scaled :=
  if x.mantissa = 0 then ⟨0, 0⟩ else x.rounding.coarsest tie 636 309

end WebIdl.Decimal
