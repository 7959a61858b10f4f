import WebIdl.Error
import WebIdl.Node.Basic

set_option autoImplicit false

namespace WebIdl.Node

def requiredName (datum : Datum) (name : Option String) : Except IdlError String :=
  match name with
  | some name => if name.isEmpty then .error (.malformedValue datum "") else .ok name
  | none => .error (.malformedValue datum "")

theorem required_name_ok (datum : Datum) (found : Option String) (name : String)
    (required : requiredName datum found = .ok name) : found = some name := by
  unfold requiredName at required
  split at required
  · split at required
    · cases required
    · cases required
      rfl
  · cases required

def expectKind (kind : String) (place : Place) (found : String) : Except IdlError Unit :=
  if found = kind then .ok () else .error (.unexpectedNode place found)

def requiredType {α : Type} (place : Place) (type : Option α) : Except IdlError α :=
  match type with
  | some type => .ok type
  | none => .error (.childCount place .oneType 0)

end WebIdl.Node
