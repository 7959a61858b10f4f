import WebIdl.Attempt
import WebIdl.Definitions.Basic
import WebIdl.Interface.Merge

set_option autoImplicit false

namespace WebIdl.Definitions

def foldMembers (dictionary fragment : Dictionary) : Dictionary :=
  { dictionary with members := dictionary.members ++ fragment.members }

def takeFolded {α : Type} (isFragment : α → Bool) (fold : α → α → α) (missing : String → IdlError)
    (table : Table α) (entry : String × α) : Attempt IdlError (Table α) :=
  if isFragment entry.2 then
    match table.get? entry.1 with
    | some base => .done (table.insert entry.1 (fold base entry.2))
    | none => .broken table (missing entry.1)
  else .done (table.insert entry.1 entry.2)

def takeInterface : Table Interface → String × Interface → Attempt IdlError (Table Interface) :=
  takeFolded (·.isPartial) Interface.merge .noInterfaceToMerge

def takeDictionary :
    Table Dictionary → String × Dictionary → Attempt IdlError (Table Dictionary) :=
  takeFolded (·.isPartial) foldMembers .noDictionaryToMerge

def takeMerged {α : Type} (merge : α → α → α) (table : Table α) (entry : String × α) : Table α :=
  match table.get? entry.1 with
  | some known => table.insert entry.1 (merge known entry.2)
  | none => table.insert entry.1 entry.2

def takeOthers (definitions other : Definitions) : Definitions :=
  { definitions with
    enumerations :=
      other.enumerations.entries.foldl (takeMerged Enumeration.merge) definitions.enumerations
    typedefs := other.typedefs.entries.foldl (takeMerged Typedef.merge) definitions.typedefs
    callbacks := definitions.callbacks.extend other.callbacks
    includes := definitions.includes ++ other.includes
    firstName := definitions.firstName.or other.firstName }

def update (definitions other : Definitions) : Attempt IdlError Definitions :=
  let interfaces :=
    (Attempt.each takeInterface other.interfaces.entries definitions.interfaces).lift
      fun table => { definitions with interfaces := table }
  let dictionaries := fun (definitions : Definitions) =>
    (Attempt.each takeDictionary other.dictionaries.entries definitions.dictionaries).lift
      fun table => { definitions with dictionaries := table }
  (interfaces.andThen dictionaries).andThen fun definitions => .done (definitions.takeOthers other)

def splitPartials (definitions : Definitions) : Definitions × Definitions :=
  let (fragments, interfaces) := definitions.interfaces.partition (·.isPartial)
  let (parts, dictionaries) := definitions.dictionaries.partition (·.isPartial)
  ({ definitions with interfaces, dictionaries },
    { empty with
      interfaces := fragments
      dictionaries := parts
      filePath := definitions.filePath })

def updateAll (definitions : Definitions) (others : List Definitions) :
    Attempt IdlError Definitions :=
  Attempt.each update others definitions

-- The definitions of several files as one: first everything but the fragments, then the
-- fragments, each in the order of the files.
def merge (units : List Definitions) : Except IdlError Definitions :=
  let bases := units.map fun unit => unit.splitPartials.1
  let fragments := units.map fun unit => unit.splitPartials.2
  ((updateAll empty bases).andThen fun merged => merged.updateAll fragments).result

end WebIdl.Definitions
