import WebIdl.Decimal.Digits
import WebIdl.Decimal.Shortest

set_option autoImplicit false

/-!
How numbers of 64 bits are written. The plain notation never has an exponent and shows whole
numbers without a point. The notation of JSON always shows a fraction or an exponent: numbers from
a hundred-thousandth to below ten to the sixteenth have a point, all others an exponent with a sign.
Both have the fewest digits that read back. Where two such decimals are equally near, the plain
notation takes the larger one, JSON the one with the even last digit.
-/

namespace WebIdl.Decimal

def positional (digits : List Char) (place : Int) : List Char :=
  if place ≤ 0 then '0' :: '.' :: List.replicate (-place).toNat '0' ++ digits
  else if digits.length ≤ place.toNat then
    digits ++ List.replicate (place.toNat - digits.length) '0'
  else digits.take place.toNat ++ '.' :: digits.drop place.toNat

def signed (negative : Bool) (text : List Char) : String :=
  String.ofList (if negative then '-' :: text else text)

def plain (x : Float) : String :=
  match decode x with
  | .nan => "NaN"
  | .infinite negative => signed negative "inf".toList
  | .finite negative magnitude =>
      if magnitude.mantissa = 0 then signed negative ['0']
      else
        let decimal := shortest .up magnitude
        let shown := digits decimal.digits
        signed negative (positional shown (shown.length + decimal.exponent))

def exponential (digits : List Char) (power : Int) : List Char :=
  let mantissa :=
    match digits with
    | [] => []
    | [first] => [first]
    | first :: rest => first :: '.' :: rest
  let sign := if power < 0 then '-' else '+'
  mantissa ++ 'e' :: sign :: Decimal.digits power.natAbs

def json (x : Float) : String :=
  match decode x with
  | .nan => "NaN"
  | .infinite negative => signed negative "inf".toList
  | .finite negative magnitude =>
      if magnitude.mantissa = 0 then signed negative "0.0".toList
      else
        let decimal := shortest .toEven magnitude
        let shown := digits decimal.digits
        let place : Int := shown.length + decimal.exponent
        if -4 ≤ place ∧ place ≤ 16 then
          let text := positional shown place
          signed negative (if 0 ≤ decimal.exponent then text ++ ['.', '0'] else text)
        else signed negative (exponential shown (place - 1))

end WebIdl.Decimal
