set_option autoImplicit false

namespace WebIdl.Text

def hexDigit (n : Nat) : Char :=
  if n < 10 then Char.ofNat (48 + n) else Char.ofNat (87 + n)

def hexPadded : Nat → Nat → List Char
  | 0, _ => []
  | width + 1, n => hexPadded width (n / 16) ++ [hexDigit (n % 16)]

def hex (n : Nat) : List Char :=
  let digits := (hexPadded 8 n).dropWhile (· == '0')
  if digits.isEmpty then ['0'] else digits

end WebIdl.Text
