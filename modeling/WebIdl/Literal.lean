import WebIdl.Decimal.Notation
import WebIdl.Decimal.Reading
import WebIdl.Error
import WebIdl.Json
import WebIdl.Unicode.Blank

set_option autoImplicit false

namespace WebIdl

inductive Literal where
  | string (value : String)
  | integer (value : Int)
  | float (value : Float)
  | boolean (value : Bool)
  | null
  | dictionary (source : String)
  | sequence (source : String)
deriving DecidableEq, BEq

namespace Literal

def ofString (value : String) : Except IdlError Literal :=
  if value.toList.contains '"' || value.toList.contains '\\' then .error (.stringLiteral value)
  else .ok (.string value)

def radixed : List Char → Nat × List Char
  | '0' :: 'x' :: digits => (16, digits)
  | '0' :: 'X' :: digits => (16, digits)
  | '0' :: next :: rest => (8, next :: rest)
  | digits => (10, digits)

def magnitude (text : List Char) : Option Nat :=
  let (radix, digits) := radixed text
  (Decimal.readNat radix digits).filter (· < Nat.pow 2 127)

def signedInteger : List Char → Option Int
  | '-' :: rest => (magnitude rest).map fun n => -(n : Int)
  | '+' :: rest => (magnitude rest).map fun n => (n : Int)
  | rest => (magnitude rest).map fun n => (n : Int)

def ofInteger (text : String) : Except IdlError Literal :=
  match signedInteger (Unicode.trim text.toList) with
  | some value => .ok (.integer value)
  | none => .error (.malformedValue .integerLiteral text)

def ofFloat (text : String) : Except IdlError Literal :=
  match Decimal.readFloat (Unicode.trim text.toList) with
  | some value => .ok (.float value)
  | none => .error (.malformedValue .floatLiteral text)

def isNull : Literal → Bool
  | .null => true
  | _ => false

def text : Literal → String
  | .string value => if value.isEmpty then "g_empty_string" else "\"" ++ value ++ "\""
  | .integer value => toString value
  | .float value => Decimal.plain value
  | .boolean value => if value then "true" else "false"
  | .null => "null"
  | .dictionary source => source
  | .sequence source => source

def integerToJson (value : Int) : Json :=
  if -(Nat.pow 2 63 : Int) ≤ value ∧ value < (Nat.pow 2 64 : Int) then .int value
  else .string (toString value)

-- The value of a literal; numbers that JSON cannot hold become strings.
def toJson : Literal → Json
  | .string value => .string value
  | .integer value => integerToJson value
  | .float value =>
      match Decimal.decode value with
      | .nan => .string "NaN"
      | .infinite negative => .string (if negative then "-Infinity" else "Infinity")
      | .finite _ _ => .float value
  | .boolean value => .bool value
  | .null => .null
  | .dictionary source => .string source
  | .sequence source => .string source

end Literal

end WebIdl
