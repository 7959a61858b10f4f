import WebIdl.Text.Split

set_option autoImplicit false

namespace WebIdl.Text

def pathParts (path : String) : List String :=
  ((splitAt '/' path.toList).map String.ofList).filter fun part => part != "" && part != "."

def fileName? (path : String) : Option String :=
  match (pathParts path).getLast? with
  | some ".." => none
  | part => part

def beforeLastDot (text : List Char) : Option (List Char) :=
  (cutAt '.' text.reverse).map fun (_, before) => before.reverse

def fileStem (path : String) : String :=
  match fileName? path with
  | none => ""
  | some name =>
      match beforeLastDot name.toList with
      | none => name
      | some [] => name
      | some stem => String.ofList stem

end WebIdl.Text
