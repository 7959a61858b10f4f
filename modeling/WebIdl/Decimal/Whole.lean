import WebIdl.Decimal.Digits
import WebIdl.Decimal.Shortest

set_option autoImplicit false

namespace WebIdl.Decimal

def Magnitude.isWhole (x : Magnitude) : Bool :=
  decide (0 ≤ x.exponent) || x.mantissa % Nat.pow 2 (-x.exponent).toNat == 0

def Magnitude.floor (x : Magnitude) : Nat :=
  x.mantissa * Nat.pow 2 x.exponent.toNat / Nat.pow 2 (-x.exponent).toNat

def isWhole (x : Float) : Bool :=
  match decode x with
  | .finite _ magnitude => magnitude.isWhole
  | _ => false

-- The integer of 128 bits that lies next to a number towards zero; numbers out of range go to
-- the nearest end, and NaN goes to zero.
def toInt128 (x : Float) : Int :=
  match decode x with
  | .nan => 0
  | .infinite negative => if negative then least128 else greatest128
  | .finite negative magnitude =>
      let whole : Int := magnitude.floor
      if negative then max least128 (-whole) else min greatest128 whole

def ofInt (value : Int) : Float :=
  let magnitude := Float.ofScientific value.natAbs false 0
  if value < 0 then -magnitude else magnitude

end WebIdl.Decimal
