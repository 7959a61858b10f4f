import WebIdl.Json.Scan

set_option autoImplicit false

/-!
Values that nobody asked for are passed over. Only their marks are checked: strings need not be
well-formed text, numbers may be of any size, and nesting may be of any depth.
-/

namespace WebIdl.Json

def skipString : Bytes → Except Fault Bytes
  | [] => .error .endInString
  | 0x5C :: 0x75 :: a :: b :: c :: d :: rest =>
      if (hexQuad a b c d).isSome then skipString rest else .error .invalidEscape
  | 0x5C :: 0x75 :: _ => .error .endInString
  | [0x5C] => .error .endInString
  | 0x5C :: b :: rest =>
      if (escapedByte b).isSome then skipString rest else .error .invalidEscape
  | b :: rest =>
      if b = 0x22 then .ok rest
      else if b < 0x20 then .error .controlCharacter
      else skipString rest

def skipPower (input : Bytes) : Except Fault Bytes :=
  let digits :=
    match input with
    | 0x2B :: rest => rest
    | 0x2D :: rest => rest
    | rest => rest
  match digits with
  | [] => .error .invalidNumber
  | b :: rest => if isDigit b then .ok (rest.dropWhile isDigit) else .error .invalidNumber

def skipAfterWhole (input : Bytes) : Except Fault Bytes :=
  match input with
  | 0x65 :: rest => skipPower rest
  | 0x45 :: rest => skipPower rest
  | 0x2E :: rest =>
      if (rest.takeWhile isDigit).isEmpty then .error .invalidNumber
      else
        match rest.dropWhile isDigit with
        | 0x65 :: rest => skipPower rest
        | 0x45 :: rest => skipPower rest
        | rest => .ok rest
  | rest => .ok rest

def skipNumber (input : Bytes) : Except Fault Bytes :=
  match input with
  | [] => .error .invalidNumber
  | 0x30 :: rest =>
      match rest with
      | [] => .ok []
      | b :: _ => if isDigit b then .error .invalidNumber else skipAfterWhole rest
  | b :: rest =>
      if isDigit b then skipAfterWhole (rest.dropWhile isDigit) else .error .invalidNumber

inductive Frame where
  | list
  | object
deriving DecidableEq

def Frame.close : Frame → UInt8
  | .list => 0x5D
  | .object => 0x7D

def Frame.unended : Frame → Fault
  | .list => .endInList
  | .object => .endInObject

def Frame.expectedComma : Frame → Fault
  | .list => .expectedCommaOrBracket
  | .object => .expectedCommaOrBrace

def skipName (frame : Frame) (input : Bytes) : Except Fault Bytes :=
  match frame with
  | .list => .ok input
  | .object =>
      match skipBlanks input with
      | [] => .error .endInObject
      | 0x22 :: rest => do readColon (← skipString rest)
      | _ :: _ => .error .keyNotString

def skipScalar (input : Bytes) : Except Fault (Option Frame × Bytes) :=
  match skipBlanks input with
  | [] => .error .endInValue
  | 0x6E :: rest => (readWord ofNull rest).map (none, ·)
  | 0x74 :: rest => (readWord ofTrue rest).map (none, ·)
  | 0x66 :: rest => (readWord ofFalse rest).map (none, ·)
  | 0x2D :: rest => (skipNumber rest).map (none, ·)
  | 0x22 :: rest => (skipString rest).map (none, ·)
  | 0x5B :: rest => .ok (some .list, rest)
  | 0x7B :: rest => .ok (some .object, rest)
  | b :: rest =>
      if isDigit b then (skipNumber (b :: rest)).map (none, ·) else .error .expectedValue

def leave : List Frame → Bytes → Nat → Except Fault (List Frame × Bytes)
  | [], input, _ => .ok ([], input)
  | frame :: outer, _, 0 => .ok (frame :: outer, [])
  | frame :: outer, input, fuel + 1 =>
      match skipBlanks input with
      | [] => .error frame.unended
      | b :: rest =>
          if b = frame.close then leave outer rest fuel
          else if b = 0x2C then (skipName frame rest).map fun rest => (frame :: outer, rest)
          else .error frame.expectedComma

-- The bytes after a value inside `frames`; every round uses up a byte at least.
def skipRounds : Nat → List Frame → Bytes → Except Fault Bytes
  | 0, _, _ => .error .endInValue
  | rounds + 1, frames, input => do
      let (entered, rest) ← skipScalar input
      let (frames, rest) ←
        match entered with
        | none => leave frames rest (rest.length + 1)
        | some frame =>
            match skipBlanks rest with
            | [] => .error frame.unended
            | b :: others =>
                if b = frame.close then leave frames others (others.length + 1)
                else (skipName frame (b :: others)).map fun rest => (frame :: frames, rest)
      if frames.isEmpty then return rest else skipRounds rounds frames rest

def skipValue (input : Bytes) : Except Fault Bytes :=
  skipRounds (input.length + 1) [] input

end WebIdl.Json
