import WebIdl.Decimal.Notation
import WebIdl.Text.Hex
import WebIdl.Text.Split

set_option autoImplicit false

namespace WebIdl

-- A JSON value. Whole numbers and numbers with a fraction are kept apart, as they are written
-- differently.
inductive Json where
  | null
  | bool (value : Bool)
  | int (value : Int)
  | float (value : Float)
  | string (text : String)
  | array (items : List Json)
  | object (members : List (String × Json))
deriving Inhabited

namespace Json

def escape (c : Char) : List Char :=
  match c with
  | '"' => ['\\', '"']
  | '\\' => ['\\', '\\']
  | '\n' => ['\\', 'n']
  | '\r' => ['\\', 'r']
  | '\t' => ['\\', 't']
  | c =>
      if c.toNat = 8 then ['\\', 'b']
      else if c.toNat = 12 then ['\\', 'f']
      else if c.toNat < 32 then '\\' :: 'u' :: Text.hexPadded 4 c.toNat
      else [c]

def quote (text : String) : String :=
  String.ofList (['"'] ++ text.toList.flatMap escape ++ ['"'])

mutual
def compact : Json → String
  | .null => "null"
  | .bool value => if value then "true" else "false"
  | .int value => toString value
  | .float value => Decimal.json value
  | .string text => quote text
  | .array items => "[" ++ Text.joined "," (compactItems items) ++ "]"
  | .object members => "\x7b" ++ Text.joined "," (compactMembers members) ++ "\x7d"
termination_by structural value => value
def compactItems : List Json → List String
  | [] => []
  | item :: rest => compact item :: compactItems rest
termination_by structural items => items
def compactMembers : List (String × Json) → List String
  | [] => []
  | member :: rest => compactMember member :: compactMembers rest
termination_by structural members => members
def compactMember : String × Json → String
  | (name, value) => quote name ++ ":" ++ compact value
termination_by structural member => member
end

def newline (depth : Nat) : String := "\n" ++ String.ofList (List.replicate (2 * depth) ' ')

def bracketed (start stop : String) (depth : Nat) (items : List String) : String :=
  if items.isEmpty then start ++ stop
  else
    start ++ newline (depth + 1) ++ Text.joined ("," ++ newline (depth + 1)) items ++
      newline depth ++ stop

mutual
def prettyFrom (depth : Nat) : Json → String
  | .null => "null"
  | .bool value => if value then "true" else "false"
  | .int value => toString value
  | .float value => Decimal.json value
  | .string text => quote text
  | .array items => bracketed "[" "]" depth (prettyItems (depth + 1) items)
  | .object members => bracketed "\x7b" "\x7d" depth (prettyMembers (depth + 1) members)
termination_by structural value => value
def prettyItems (depth : Nat) : List Json → List String
  | [] => []
  | item :: rest => prettyFrom depth item :: prettyItems depth rest
termination_by structural items => items
def prettyMembers (depth : Nat) : List (String × Json) → List String
  | [] => []
  | member :: rest => prettyMember depth member :: prettyMembers depth rest
termination_by structural members => members
def prettyMember (depth : Nat) : String × Json → String
  | (name, value) => quote name ++ ": " ++ prettyFrom depth value
termination_by structural member => member
end

def pretty (value : Json) : String := prettyFrom 0 value

end Json

end WebIdl
