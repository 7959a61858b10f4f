import WebIdl.Json.Fault

set_option autoImplicit false

namespace WebIdl.Json

def isBlank (b : UInt8) : Bool := b == 0x20 || b == 0x09 || b == 0x0A || b == 0x0D

def skipBlanks : Bytes → Bytes
  | [] => []
  | b :: rest => if isBlank b then skipBlanks rest else b :: rest

def isDigit (b : UInt8) : Bool := 0x30 ≤ b && b ≤ 0x39

def readWord : Bytes → Bytes → Except Fault Bytes
  | [], input => .ok input
  | _ :: _, [] => .error .endInValue
  | letter :: word, b :: rest => if b = letter then readWord word rest else .error .expectedIdent

def ofNull : Bytes := [0x75, 0x6C, 0x6C]
def ofTrue : Bytes := [0x72, 0x75, 0x65]
def ofFalse : Bytes := [0x61, 0x6C, 0x73, 0x65]

/-! ## Numbers

A number is gathered in a significand of 64 bits and a power of ten. Digits that do not fit the
significand any more only count by their place; after the point they do not count at all. -/

def gather : Nat → Bytes → Nat × Bytes
  | significand, [] => (significand, [])
  | significand, b :: rest =>
      let next := significand * 10 + (b.toNat - 0x30)
      if next < Nat.pow 2 64 then gather next rest else (significand, b :: rest)

def scale : Nat → Float → Int → Except Fault Float
  | 0, value, _ => .ok value
  | steps + 1, value, exponent =>
      if exponent.natAbs ≤ 308 then
        let power := Float.ofScientific 1 false exponent.natAbs
        if 0 ≤ exponent then
          let product := value * power
          if product.isInf then .error .numberOutOfRange else .ok product
        else .ok (value / power)
      else if value == 0.0 then .ok value
      else if 0 ≤ exponent then .error .numberOutOfRange
      else scale steps (value / Float.ofScientific 1 false 308) (exponent + 308)

-- The number with a sign, a significand and a power of ten. Three steps bring every
-- significand to zero.
def compose (positive : Bool) (significand : Nat) (exponent : Int) : Except Fault Float :=
  (scale 4 (Float.ofScientific significand false 0) exponent).map fun value =>
    if positive then value else -value

def readPower (positive : Bool) (significand : Nat) (before : Int) (input : Bytes) :
    Except Fault (Float × Bytes) :=
  let (rising, input) :=
    match input with
    | 0x2B :: rest => (true, rest)
    | 0x2D :: rest => (false, rest)
    | rest => (true, rest)
  match input with
  | [] => .error .endInValue
  | b :: _ =>
      if isDigit b then
        let power : Nat :=
          (input.takeWhile isDigit).foldl (fun n b => n * 10 + (b.toNat - 0x30)) 0
        let rest := input.dropWhile isDigit
        if Nat.pow 2 31 ≤ power then
          if significand ≠ 0 ∧ rising then .error .numberOutOfRange
          else .ok (if positive then 0.0 else -0.0, rest)
        else
          (compose positive significand (if rising then before + power else before - power)).map
            fun value => (value, rest)
      else .error .invalidNumber

def readTail (positive : Bool) (significand : Nat) (exponent : Int) (input : Bytes) :
    Except Fault (Float × Bytes) :=
  match input with
  | 0x65 :: rest => readPower positive significand exponent rest
  | 0x45 :: rest => readPower positive significand exponent rest
  | rest => (compose positive significand exponent).map fun value => (value, rest)

def readFraction (positive : Bool) (significand : Nat) (before : Int) (input : Bytes) :
    Except Fault (Float × Bytes) :=
  let fraction := input.takeWhile isDigit
  let rest := input.dropWhile isDigit
  let (significand, left) := gather significand fraction
  if fraction.isEmpty then
    match rest with
    | [] => .error .endInValue
    | _ :: _ => .error .invalidNumber
  else readTail positive significand (before - (fraction.length - left.length : Nat)) rest

def readAfterWhole (positive : Bool) (significand : Nat) (left : Bytes) (input : Bytes) :
    Except Fault (Found × Bytes) :=
  let floating := fun (result : Except Fault (Float × Bytes)) =>
    result.map fun (value, rest) => (Found.float value, rest)
  match input with
  | 0x2E :: rest => floating (readFraction positive significand left.length rest)
  | 0x65 :: rest => floating (readPower positive significand left.length rest)
  | 0x45 :: rest => floating (readPower positive significand left.length rest)
  | rest =>
      if !left.isEmpty then floating (readTail positive significand left.length rest)
      else if positive then .ok (.integer significand, rest)
      else if significand ≠ 0 ∧ significand ≤ Nat.pow 2 63 then
        .ok (.integer (-(significand : Int)), rest)
      else .ok (.float (-(Float.ofScientific significand false 0)), rest)

def readNumber (positive : Bool) (input : Bytes) : Except Fault (Found × Bytes) :=
  match input with
  | [] => .error .endInValue
  | 0x30 :: rest =>
      match rest with
      | [] => readAfterWhole positive 0 [] []
      | b :: _ => if isDigit b then .error .invalidNumber else readAfterWhole positive 0 [] rest
  | b :: _ =>
      if isDigit b then
        let (significand, left) := gather 0 (input.takeWhile isDigit)
        readAfterWhole positive significand left (input.dropWhile isDigit)
      else .error .invalidNumber

def hexValue (b : UInt8) : Option Nat :=
  if 0x30 ≤ b ∧ b ≤ 0x39 then some (b.toNat - 0x30)
  else if 0x41 ≤ b ∧ b ≤ 0x46 then some (b.toNat - 0x37)
  else if 0x61 ≤ b ∧ b ≤ 0x66 then some (b.toNat - 0x57)
  else none

def hexQuad (a b c d : UInt8) : Option Nat := do
  let a ← hexValue a
  let b ← hexValue b
  let c ← hexValue c
  let d ← hexValue d
  return ((a * 16 + b) * 16 + c) * 16 + d

def escapedByte (b : UInt8) : Option UInt8 :=
  if b = 0x22 ∨ b = 0x5C ∨ b = 0x2F then some b
  else if b = 0x62 then some 0x08
  else if b = 0x66 then some 0x0C
  else if b = 0x6E then some 0x0A
  else if b = 0x72 then some 0x0D
  else if b = 0x74 then some 0x09
  else none

def charBytes (n : Nat) : Bytes := String.utf8EncodeChar (Char.ofNat n)

def ahead (bytes : Bytes) :
    Except Fault (Bytes × Bytes) → Except Fault (Bytes × Bytes)
  | .ok (text, rest) => .ok (bytes ++ text, rest)
  | .error fault => .error fault

def readStringBytes : Bytes → Except Fault (Bytes × Bytes)
  | [] => .error .endInString
  | 0x5C :: 0x75 :: a :: b :: c :: d :: rest =>
      match hexQuad a b c d with
      | none => .error .invalidEscape
      | some unit =>
          if 0xDC00 ≤ unit ∧ unit ≤ 0xDFFF then .error .loneSurrogate
          else if unit < 0xD800 ∨ 0xDBFF < unit then ahead (charBytes unit) (readStringBytes rest)
          else
            match rest with
            | 0x5C :: 0x75 :: e :: f :: g :: h :: rest =>
                match hexQuad e f g h with
                | none => .error .invalidEscape
                | some second =>
                    if second < 0xDC00 ∨ 0xDFFF < second then .error .loneSurrogate
                    else
                      ahead (charBytes ((unit - 0xD800) * 0x400 + (second - 0xDC00) + 0x10000))
                        (readStringBytes rest)
            | [] => .error .endInString
            | [0x5C] => .error .endInString
            | 0x5C :: 0x75 :: _ => .error .endInString
            | _ => .error .unfinishedSurrogatePair
  | 0x5C :: 0x75 :: _ => .error .endInString
  | [0x5C] => .error .endInString
  | 0x5C :: b :: rest =>
      match escapedByte b with
      | some byte => ahead [byte] (readStringBytes rest)
      | none => .error .invalidEscape
  | b :: rest =>
      if b = 0x22 then .ok ([], rest)
      else if b < 0x20 then .error .controlCharacter
      else ahead [b] (readStringBytes rest)

def readString (input : Bytes) : Except Fault (String × Bytes) :=
  match readStringBytes input with
  | .error fault => .error fault
  | .ok (bytes, rest) =>
      match String.fromUTF8? ⟨bytes.toArray⟩ with
      | some text => .ok (text, rest)
      | none => .error .invalidCodePoint

def nextItem (first : Bool) (input : Bytes) : Except Fault (Option Bytes) :=
  match skipBlanks input with
  | [] => .error .endInList
  | 0x5D :: _ => .ok none
  | b :: rest =>
      if first then .ok (some (b :: rest))
      else if b = 0x2C then
        match skipBlanks rest with
        | [] => .error .endInValue
        | 0x5D :: _ => .error .trailingComma
        | rest => .ok (some rest)
      else .error .expectedCommaOrBracket

def endList (input : Bytes) : Except Fault Bytes :=
  match skipBlanks input with
  | [] => .error .endInList
  | 0x5D :: rest => .ok rest
  | 0x2C :: rest =>
      match skipBlanks rest with
      | 0x5D :: _ => .error .trailingComma
      | _ => .error .trailingCharacters
  | _ :: _ => .error .trailingCharacters

def nextName (first : Bool) (input : Bytes) : Except Fault (Option (String × Bytes)) :=
  match skipBlanks input with
  | [] => .error .endInObject
  | 0x7D :: _ => .ok none
  | b :: rest =>
      if first then
        if b = 0x22 then (readString rest).map some else .error .keyNotString
      else if b = 0x2C then
        match skipBlanks rest with
        | [] => .error .endInValue
        | 0x22 :: rest => (readString rest).map some
        | 0x7D :: _ => .error .trailingComma
        | _ :: _ => .error .keyNotString
      else .error .expectedCommaOrBrace

def readColon (input : Bytes) : Except Fault Bytes :=
  match skipBlanks input with
  | [] => .error .endInObject
  | 0x3A :: rest => .ok rest
  | _ :: _ => .error .expectedColon

def endObject (input : Bytes) : Except Fault Bytes :=
  match skipBlanks input with
  | [] => .error .endInObject
  | 0x7D :: rest => .ok rest
  | 0x2C :: _ => .error .trailingComma
  | _ :: _ => .error .trailingCharacters

def unexpected (expected : String) (input : Bytes) : Fault :=
  let shown : Except Fault Found :=
    match input with
    | [] => .error .endInValue
    | 0x6E :: rest => (readWord ofNull rest).map fun _ => .null
    | 0x74 :: rest => (readWord ofTrue rest).map fun _ => .bool true
    | 0x66 :: rest => (readWord ofFalse rest).map fun _ => .bool false
    | 0x2D :: rest => (readNumber false rest).map (·.1)
    | 0x22 :: rest => (readString rest).map fun result => .string result.1
    | 0x5B :: _ => .ok .sequence
    | 0x7B :: _ => .ok .map
    | b :: rest =>
        if isDigit b then (readNumber true (b :: rest)).map (·.1) else .error .expectedValue
  match shown with
  | .ok found => .invalidType found expected
  | .error fault => fault

end WebIdl.Json
