import WebIdl.Text.Split
import WebIdl.Unicode.Alphanumeric
import WebIdl.Unicode.LetterCase

set_option autoImplicit false

/-!
Snake case. A name is cut into words at every character that is neither a letter nor a number, and
inside such a piece where a lower-case letter is followed by an upper-case one (`fooBar`) and
before the last capital of a run that a lower-case letter follows (`HTMLElement`). The words are
lowered and glued with underscores.
-/

namespace WebIdl.Text

inductive Cased where
  | none
  | lower
  | upper
deriving DecidableEq

def Cased.after (before : Cased) (c : Char) : Cased :=
  if Unicode.isLowercase c then .lower else if Unicode.isUppercase c then .upper else before

def pieces : List Char → List (List Char)
  | [] => [[]]
  | c :: rest =>
      if Unicode.isAlphanumeric c then
        match pieces rest with
        | [] => [[c]]
        | piece :: others => (c :: piece) :: others
      else [] :: pieces rest

-- The words of one piece; `word` holds the letters of the word being read, the last one
-- first.
def wordsFrom (before : Cased) (word : List Char) : List Char → List (List Char)
  | [] => []
  | [c] => [(c :: word).reverse]
  | c :: next :: rest =>
      if before.after c = .lower ∧ Unicode.isUppercase next then
        (c :: word).reverse :: wordsFrom .none [] (next :: rest)
      else if before = .upper ∧ Unicode.isUppercase c ∧ Unicode.isLowercase next then
        word.reverse :: wordsFrom .none [c] (next :: rest)
      else wordsFrom (before.after c) (c :: word) (next :: rest)

def words (text : List Char) : List (List Char) := (pieces text).flatMap (wordsFrom .none [])

def snakeCase (name : String) : String :=
  joined "_" ((words name.toList).map fun word => String.ofList (Unicode.lowerWord word))

end WebIdl.Text
