import WebIdl.Decimal.Notation
import WebIdl.Text.Quoted

set_option autoImplicit false

namespace WebIdl.Json

inductive Segment where
  | member (name : String)
  | item (index : Nat)
  | unnamed
deriving DecidableEq, Inhabited

inductive Found where
  | null
  | bool (value : Bool)
  | integer (value : Int)
  | float (value : Float)
  | string (text : String)
  | sequence
  | map
deriving DecidableEq

inductive Fault where
  | endInValue
  | endInObject
  | endInList
  | endInString
  | expectedValue
  | expectedIdent
  | invalidNumber
  | numberOutOfRange
  | expectedColon
  | expectedCommaOrBrace
  | expectedCommaOrBracket
  | keyNotString
  | trailingComma
  | trailingCharacters
  | invalidEscape
  | unfinishedSurrogatePair
  | loneSurrogate
  | controlCharacter
  | invalidCodePoint
  | tooDeep
  | invalidType (found : Found) (expected : String)
  | invalidLength (length : Nat) (expected : String)
  | missingField (name : String)
  | duplicateField (name : String)
  | noVariant (type : String)
deriving DecidableEq

def Found.message : Found → String
  | .null => "null"
  | .bool value => if value then "boolean `true`" else "boolean `false`"
  | .integer value => "integer `" ++ toString value ++ "`"
  | .float value => "floating point `" ++ Decimal.json value ++ "`"
  | .string text => "string " ++ Text.quoted text
  | .sequence => "sequence"
  | .map => "map"

def Fault.message : Fault → String
  | .endInValue => "EOF while parsing a value"
  | .endInObject => "EOF while parsing an object"
  | .endInList => "EOF while parsing a list"
  | .endInString => "EOF while parsing a string"
  | .expectedValue => "expected value"
  | .expectedIdent => "expected ident"
  | .invalidNumber => "invalid number"
  | .numberOutOfRange => "number out of range"
  | .expectedColon => "expected `:`"
  | .expectedCommaOrBrace => "expected `,` or `\x7d`"
  | .expectedCommaOrBracket => "expected `,` or `]`"
  | .keyNotString => "key must be a string"
  | .trailingComma => "trailing comma"
  | .trailingCharacters => "trailing characters"
  | .invalidEscape => "invalid escape"
  | .unfinishedSurrogatePair => "unexpected end of hex escape"
  | .loneSurrogate => "lone leading surrogate in hex escape"
  | .controlCharacter => "control character (\\u0000-\\u001F) found while parsing a string"
  | .invalidCodePoint => "invalid unicode code point"
  | .tooDeep => "recursion limit exceeded"
  | .invalidType found expected => "invalid type: " ++ found.message ++ ", expected " ++ expected
  | .invalidLength length expected =>
      "invalid length " ++ toString length ++ ", expected " ++ expected
  | .missingField name => "missing field `" ++ name ++ "`"
  | .duplicateField name => "duplicate field `" ++ name ++ "`"
  | .noVariant type => "data did not match any variant of untagged enum " ++ type

structure Failure where
  path : List Segment
  fault : Fault
deriving DecidableEq

def Segment.shown : Segment → String
  | .member name => name
  | .item index => "[" ++ toString index ++ "]"
  | .unnamed => "?"

def showRest : List Segment → String
  | [] => ""
  | .item index :: rest => (Segment.item index).shown ++ showRest rest
  | segment :: rest => "." ++ segment.shown ++ showRest rest

def showPath : List Segment → String
  | [] => "."
  | segment :: rest => segment.shown ++ showRest rest

abbrev Bytes := List UInt8

abbrev Result := Except Failure

def within {α : Type} (segment : Segment) : Result α → Result α
  | .ok value => .ok value
  | .error failure => .error ⟨segment :: failure.path, failure.fault⟩

def fail {α : Type} (fault : Fault) : Result α := .error ⟨[], fault⟩

def here {α : Type} : Except Fault α → Result α
  | .ok value => .ok value
  | .error fault => fail fault

end WebIdl.Json
