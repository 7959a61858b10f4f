import WebIdl.Decimal.Reading
import WebIdl.Decimal.Whole
import WebIdl.Error
import WebIdl.Text.Split
import WebIdl.Unicode.Blank

set_option autoImplicit false

/-!
Intervals of numbers as `[NumberRange]` gives them: `[0, 255]`, `(0, 1]`, `[0, )`. A square bracket
takes its end in, a round one leaves it out, and an end that is not given bounds nothing.
-/

namespace WebIdl

inductive Bound (α : Type) where
  | included (value : α)
  | excluded (value : α)
  | unbounded
deriving DecidableEq, BEq

structure Interval (α : Type) where
  lower : Bound α
  upper : Bound α
deriving DecidableEq, BEq

namespace Interval

def holds {α : Type} (le lt : α → α → Bool) (interval : Interval α) (value : α) : Bool :=
  let above :=
    match interval.lower with
    | .included low => le low value
    | .excluded low => lt low value
    | .unbounded => true
  let below :=
    match interval.upper with
    | .included high => le value high
    | .excluded high => lt value high
    | .unbounded => true
  above && below

def readBound {α : Type} (read : List Char → Option α) (square round : Char) (bracket : Char)
    (text : List Char) : Option (Bound α) :=
  let text := Unicode.trim text
  if bracket = square then
    if text.isEmpty then some .unbounded else (read text).map .included
  else if bracket = round then
    if text.isEmpty then some .unbounded else (read text).map .excluded
  else none

def unwrap : List Char → Option (Char × List Char × Char)
  | [] => none
  | first :: rest =>
      match rest.getLast? with
      | some last => some (first, rest.dropLast, last)
      | none => none

def read {α : Type} (read : List Char → Option α) (text : List Char) : Option (Interval α) := do
  let (first, body, last) ← unwrap (Unicode.trim text)
  let (low, high) ← Text.cutAt ',' body
  if high.contains ',' then none
  else
    let lower ← readBound read '[' '(' first low
    let upper ← readBound read ']' ')' last high
    return ⟨lower, upper⟩

end Interval

inductive NumberRange where
  | integer (interval : Interval Int)
  | floating (interval : Interval Float)
deriving DecidableEq, BEq

namespace NumberRange

def ofText (text : String) (floating : Bool) : Except IdlError NumberRange :=
  let range :=
    if floating then (Interval.read Decimal.readFloat text.toList).map .floating
    else (Interval.read Decimal.readInt128 text.toList).map .integer
  match range with
  | some range => .ok range
  | none => .error (.malformedValue .numberRange text)

def leInt (a b : Int) : Bool := decide (a ≤ b)
def ltInt (a b : Int) : Bool := decide (a < b)
def leFloat (a b : Float) : Bool := decide (a ≤ b)
def ltFloat (a b : Float) : Bool := decide (a < b)

-- Whether an integer lies in a range; a range of fractions takes the nearest number of 64
-- bits.
def holdsInt (range : NumberRange) (value : Int) : Bool :=
  match range with
  | .integer interval => interval.holds leInt ltInt value
  | .floating interval => interval.holds leFloat ltFloat (Decimal.ofInt value)

def holdsFloat (range : NumberRange) (value : Float) : Bool :=
  match range with
  | .integer interval =>
      Decimal.isWhole value && interval.holds leInt ltInt (Decimal.toInt128 value)
  | .floating interval => interval.holds leFloat ltFloat value

end NumberRange

end WebIdl
