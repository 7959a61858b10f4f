set_option autoImplicit false

namespace WebIdl.Decimal

def digitValue (radix : Nat) (c : Char) : Option Nat :=
  let value :=
    if '0' ≤ c ∧ c ≤ '9' then some (c.toNat - 48)
    else if 'a' ≤ c ∧ c ≤ 'f' then some (c.toNat - 87)
    else if 'A' ≤ c ∧ c ≤ 'F' then some (c.toNat - 55)
    else none
  value.filter (· < radix)

def readFrom (radix value : Nat) : List Char → Option Nat
  | [] => some value
  | c :: rest => (digitValue radix c).bind fun digit => readFrom radix (value * radix + digit) rest

def readNat (radix : Nat) : List Char → Option Nat
  | [] => none
  | digits => readFrom radix 0 digits

def digits (n : Nat) : List Char := Nat.toDigits 10 n

def least128 : Int := -170141183460469231731687303715884105728

def greatest128 : Int := 170141183460469231731687303715884105727

def fits128 (value : Int) : Bool := decide (least128 ≤ value ∧ value ≤ greatest128)

def readInt128 (text : List Char) : Option Int :=
  let value :=
    match text with
    | '-' :: rest => (readNat 10 rest).map fun n => -(n : Int)
    | '+' :: rest => (readNat 10 rest).map fun n => (n : Int)
    | rest => (readNat 10 rest).map fun n => (n : Int)
  value.filter fits128

def readNat32 (text : List Char) : Option Nat :=
  let value :=
    match text with
    | '+' :: rest => readNat 10 rest
    | rest => readNat 10 rest
  value.filter (· < Nat.pow 2 32)

theorem read_from_append (radix value digit : Nat) (front : List Char) (last : Char)
    (known : digitValue radix last = some digit) :
    readFrom radix value (front ++ [last]) =
      (readFrom radix value front).map fun n => n * radix + digit := by
  induction front generalizing value with
  | nil => simp [readFrom, known]
  | cons c rest ih =>
      cases found : digitValue radix c with
      | none => simp [readFrom, found]
      | some n => simp [readFrom, found, ih]

end WebIdl.Decimal
