import WebIdl.Json.Skip
import WebIdl.Node.Basic

set_option autoImplicit false

/-!
Reading nodes from their written form. A node is an object with `class`, `name`, `properties` and
`children` in any order, of which only `class` has to be there, or a list of these four in this
order. Other members are passed over. Only the first value of a text is read.

Lists and objects may be nested 127 deep. Every reader is told how many levels it may still open.
-/

namespace WebIdl.Node

open Json (Bytes Result Fault Found)

def depthLimit : Nat := 127

structure Fields where
  kind : Option String
  name : Option (Option String)
  properties : Option (Table PropertyValue)
  children : Option (List Node)

def Fields.empty : Fields := ⟨none, none, none, none⟩

def Fields.toNode (fields : Fields) : Except Fault Node :=
  match fields.kind with
  | none => .error (.missingField "class")
  | some kind =>
      .ok ⟨kind, fields.name.getD none, fields.properties.getD .empty, fields.children.getD []⟩

inductive Content where
  | flag (value : Bool)
  | text (value : String)
  | list (items : List Content)
  | other

def Content.texts : List Content → Option (List String)
  | [] => some []
  | .text value :: rest => (texts rest).map (value :: ·)
  | _ :: _ => none

def Content.toProperty : Content → Option PropertyValue
  | .flag value => some (.flag value)
  | .text value => some (.text value)
  | .list items => (texts items).map .list
  | .other => none

def readItems {α : Type} (read : Bytes → Result (α × Bytes)) :
    Nat → Nat → Bytes → Result (List α × Bytes)
  | 0, _, _ => Json.fail .endInList
  | fuel + 1, index, input => do
      match ← Json.here (Json.nextItem (index == 0) input) with
      | none => return ([], input)
      | some rest =>
          let (item, rest) ← Json.within (.item index) (read rest)
          let (items, rest) ← readItems read fuel (index + 1) rest
          return (item :: items, rest)

def readMembers {α : Type} (read : α → String → Bytes → Result (α × Bytes)) :
    Nat → Bool → α → Bytes → Result (α × Bytes)
  | 0, _, _, _ => Json.fail .endInObject
  | fuel + 1, first, state, input => do
      match ← Json.within .unnamed (Json.here (Json.nextName first input)) with
      | none => return (state, input)
      | some (name, rest) =>
          let (state, rest) ← read state name rest
          readMembers read fuel false state rest

def readListBody {α : Type} (read : Bytes → Result (α × Bytes)) (input : Bytes) :
    Result (List α × Bytes) := do
  let (items, rest) ← readItems read (input.length + 1) 0 input
  return (items, ← Json.here (Json.endList rest))

def readObjectBody {α : Type} (read : α → String → Bytes → Result (α × Bytes)) (start : α)
    (input : Bytes) : Result (α × Bytes) := do
  let (state, rest) ← readMembers read (input.length + 1) true start input
  return (state, ← Json.here (Json.endObject rest))

def readValue {α : Type} (name : String) (read : Bytes → Result (α × Bytes)) (input : Bytes) :
    Result (α × Bytes) := do
  let rest ← Json.here (Json.readColon input)
  Json.within (.member name) (read rest)

def readText (input : Bytes) : Result (String × Bytes) :=
  match Json.skipBlanks input with
  | 0x22 :: rest => Json.here (Json.readString rest)
  | rest => Json.fail (Json.unexpected "a string" rest)

def readName (input : Bytes) : Result (Option String × Bytes) :=
  match Json.skipBlanks input with
  | 0x6E :: rest => Json.here ((Json.readWord Json.ofNull rest).map (none, ·))
  | rest => do
      let (text, rest) ← readText rest
      return (some text, rest)

def readContent : Nat → Bytes → Result (Content × Bytes)
  | levels, input =>
      match Json.skipBlanks input with
      | [] => Json.fail .endInValue
      | 0x6E :: rest => Json.here ((Json.readWord Json.ofNull rest).map (.other, ·))
      | 0x74 :: rest => Json.here ((Json.readWord Json.ofTrue rest).map (.flag true, ·))
      | 0x66 :: rest => Json.here ((Json.readWord Json.ofFalse rest).map (.flag false, ·))
      | 0x2D :: rest => Json.here ((Json.readNumber false rest).map fun r => (.other, r.2))
      | 0x22 :: rest => Json.here ((Json.readString rest).map fun r => (.text r.1, r.2))
      | 0x5B :: rest =>
          match levels with
          | 0 => Json.fail .tooDeep
          | levels + 1 => do
              let (items, rest) ← readListBody (readContent levels) rest
              return (.list items, rest)
      | 0x7B :: rest =>
          match levels with
          | 0 => Json.fail .tooDeep
          | levels + 1 => do
              let read := fun (_ : Unit) name rest => do
                let (_, rest) ← readValue name (readContent levels) rest
                return ((), rest)
              let (_, rest) ← readObjectBody read () rest
              return (.other, rest)
      | b :: rest =>
          if Json.isDigit b then
            Json.here ((Json.readNumber true (b :: rest)).map fun r => (.other, r.2))
          else Json.fail .expectedValue

def readProperty (levels : Nat) (input : Bytes) : Result (PropertyValue × Bytes) := do
  let (content, rest) ← readContent levels input
  match content.toProperty with
  | some value => return (value, rest)
  | none => Json.fail (.noVariant "PropertyValue")

def readProperties (levels : Nat) (input : Bytes) : Result (Table PropertyValue × Bytes) :=
  match Json.skipBlanks input with
  | 0x7B :: rest =>
      match levels with
      | 0 => Json.fail .tooDeep
      | levels + 1 =>
          let read := fun (table : Table PropertyValue) key rest => do
            let (value, rest) ← readValue key (readProperty levels) rest
            return (table.insert key value, rest)
          readObjectBody read .empty rest
  | rest => Json.fail (Json.unexpected "a map" rest)

def readChildren (levels : Nat) (child : Bytes → Result (Node × Bytes)) (input : Bytes) :
    Result (List Node × Bytes) :=
  match Json.skipBlanks input with
  | 0x5B :: rest =>
      match levels with
      | 0 => Json.fail .tooDeep
      | _ + 1 => readListBody child rest
  | rest => Json.fail (Json.unexpected "a sequence" rest)

def readField (levels : Nat) (child : Bytes → Result (Node × Bytes)) (fields : Fields)
    (name : String) (input : Bytes) : Result (Fields × Bytes) :=
  if name = "class" then
    if fields.kind.isSome then Json.fail (.duplicateField "class")
    else do
      let (kind, rest) ← readValue name readText input
      return ({ fields with kind := some kind }, rest)
  else if name = "name" then
    if fields.name.isSome then Json.fail (.duplicateField "name")
    else do
      let (own, rest) ← readValue name readName input
      return ({ fields with name := some own }, rest)
  else if name = "properties" then
    if fields.properties.isSome then Json.fail (.duplicateField "properties")
    else do
      let (properties, rest) ← readValue name (readProperties levels) input
      return ({ fields with properties := some properties }, rest)
  else if name = "children" then
    if fields.children.isSome then Json.fail (.duplicateField "children")
    else do
      let (children, rest) ← readValue name (readChildren levels child) input
      return ({ fields with children := some children }, rest)
  else
    readValue name
      (fun input => Json.here ((Json.skipValue input).map (fields, ·))) input

def readPlace {α : Type} (index : Nat) (read : Bytes → Result (α × Bytes)) (input : Bytes) :
    Result (Option α × Bytes) := do
  match ← Json.here (Json.nextItem (index == 0) input) with
  | none => return (none, input)
  | some rest =>
      let (value, rest) ← Json.within (.item index) (read rest)
      return (some value, rest)

def readPositional (levels : Nat) (child : Bytes → Result (Node × Bytes)) (input : Bytes) :
    Result (Node × Bytes) := do
  let (kind, rest) ← readPlace 0 readText input
  match kind with
  | none => Json.fail (.invalidLength 0 "struct Node with 4 elements")
  | some kind =>
      let (name, rest) ← readPlace 1 readName rest
      let (properties, rest) ← readPlace 2 (readProperties levels) rest
      let (children, rest) ← readPlace 3 (readChildren levels child) rest
      let fields : Fields := ⟨some kind, name, properties, children⟩
      let node ← Json.here fields.toNode
      return (node, ← Json.here (Json.endList rest))

def readObject (levels : Nat) (child : Bytes → Result (Node × Bytes)) (input : Bytes) :
    Result (Node × Bytes) := do
  let (fields, rest) ←
    readMembers (readField levels child) (input.length + 1) true Fields.empty input
  let node ← Json.here fields.toNode
  return (node, ← Json.here (Json.endObject rest))

def readOpen (levels : Nat) (child : Bytes → Result (Node × Bytes)) (input : Bytes) :
    Result (Node × Bytes) :=
  match Json.skipBlanks input with
  | 0x5B :: rest => readPositional levels child rest
  | 0x7B :: rest => readObject levels child rest
  | rest => Json.fail (Json.unexpected "struct Node" rest)

def readLevels : Nat → Bytes → Result (Node × Bytes)
  | 0, input =>
      match Json.skipBlanks input with
      | 0x5B :: _ => Json.fail .tooDeep
      | 0x7B :: _ => Json.fail .tooDeep
      | rest => Json.fail (Json.unexpected "struct Node" rest)
  | 1, input => readOpen 0 (fun _ => Json.fail .tooDeep) input
  | levels + 2, input => readOpen (levels + 1) (readLevels levels) input

def readBytes (bytes : Bytes) : Except Json.Failure Node :=
  (readLevels depthLimit bytes).map (·.1)

def read (text : String) : Except Json.Failure Node := readBytes text.toUTF8.toList

end WebIdl.Node
