import WebIdl.Decimal.Digits

set_option autoImplicit false

namespace WebIdl.Decimal

def infinity : Float := Float.ofBits 0x7FF0000000000000

def notANumber : Float := 0.0 / 0.0

def spanDigits : List Char → List Char × List Char
  | [] => ([], [])
  | c :: rest =>
      if '0' ≤ c ∧ c ≤ '9' then
        let (digits, others) := spanDigits rest
        (c :: digits, others)
      else ([], c :: rest)

-- The number nearest to `digits * 10 ^ exponent`. Decimals beyond the range are settled by
-- their size alone: from `10 ^ 309` on everything is infinite, below `10 ^ (-324)` everything
-- is zero.
def nearest (digits : Nat) (exponent : Int) : Float :=
  let size : Int := (Decimal.digits digits).length + exponent
  if digits = 0 then 0.0
  else if 310 ≤ size then infinity
  else if size ≤ -324 then 0.0
  else if 0 ≤ exponent then Float.ofScientific digits false exponent.toNat
  else Float.ofScientific digits true exponent.natAbs

def readExponent : List Char → Option Int
  | [] => some 0
  | e :: rest =>
      if e = 'e' ∨ e = 'E' then
        match rest with
        | '-' :: text => (readNat 10 text).map fun n => -(n : Int)
        | '+' :: text => (readNat 10 text).map fun n => (n : Int)
        | text => (readNat 10 text).map fun n => (n : Int)
      else none

def readDecimal (text : List Char) : Option Float :=
  let (whole, rest) := spanDigits text
  let (fraction, rest) :=
    match rest with
    | '.' :: others => spanDigits others
    | others => ([], others)
  match readNat 10 (whole ++ fraction), readExponent rest with
  | some digits, some exponent => some (nearest digits (exponent - fraction.length))
  | _, _ => none

def readUnsigned (text : List Char) : Option Float :=
  let name := String.ofList (text.map Char.toLower)
  if name = "inf" ∨ name = "infinity" then some infinity
  else if name = "nan" then some notANumber
  else readDecimal text

def readFloat : List Char → Option Float
  | '-' :: rest => (readUnsigned rest).map Float.neg
  | '+' :: rest => readUnsigned rest
  | rest => readUnsigned rest

end WebIdl.Decimal
