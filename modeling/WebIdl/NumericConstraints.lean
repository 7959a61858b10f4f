import WebIdl.Interval

set_option autoImplicit false

namespace WebIdl

inductive NumberEnum where
  | integer (values : List Int)
  | floating (values : List Float)
deriving DecidableEq, BEq

namespace NumberEnum

def splitItems (text : List Char) : Option (List (List Char)) :=
  match Unicode.trim text with
  | '(' :: rest =>
      match rest.getLast? with
      | some ')' =>
          let items := (Text.splitAt ',' rest.dropLast).map Unicode.trim
          some (items.filter fun item => !item.isEmpty)
      | _ => none
  | _ => none

def readAll {α : Type} (read : List Char → Option α) : List (List Char) → Except IdlError (List α)
  | [] => .ok []
  | item :: rest =>
      match read item with
      | none => .error (.malformedValue .numberEnum (String.ofList item))
      | some value => (readAll read rest).map (value :: ·)

def ofItems (items : List (List Char)) (integer : Bool) : Except IdlError NumberEnum :=
  if integer then (readAll Decimal.readInt128 items).map .integer
  else (readAll Decimal.readFloat items).map .floating

def length : NumberEnum → Nat
  | .integer values => values.length
  | .floating values => values.length

def isEmpty (numbers : NumberEnum) : Bool := numbers.length == 0

end NumberEnum

structure NumericConstraints where
  range : Option NumberRange
  enumeration : Option NumberEnum
deriving DecidableEq, BEq

namespace NumericConstraints

def empty : NumericConstraints := ⟨none, none⟩

def isEmpty (numeric : NumericConstraints) : Bool :=
  numeric.range.isNone && numeric.enumeration.isNone

end NumericConstraints

end WebIdl
