import WebIdl.Attempt
import WebIdl.Definitions.Basic
import WebIdl.Interface.Merge

set_option autoImplicit false

namespace WebIdl.Definitions

-- Go up from the interface called `current` to the first that has been resolved or has no
-- parent here. `chain` holds the names that were passed, the highest first; one that comes
-- again is a cycle.
def chainFrom (table : Table Interface) (resolved : List String) :
    Nat → List String → Option String → Except IdlError (List String)
  | 0, chain, _ => .ok chain
  | _ + 1, chain, none => .ok chain
  | steps + 1, chain, some current =>
      if resolved.contains current then .ok chain
      else if chain.contains current then .error (.inheritanceCycle current)
      else
        chainFrom table resolved steps (current :: chain)
          ((table.get? current).bind (·.parent))

-- The interface called `name` and those above it that have not been resolved, the highest
-- first. The walk passes each entry of the table at most once.
def chainOf (table : Table Interface) (resolved : List String) (name : String) :
    Except IdlError (List String) :=
  chainFrom table resolved (table.size + 2) [] (some name)

def parentOf (table : Table Interface) (name : String) : Option (Interface × Interface) := do
  let interface ← table.get? name
  let parent ← interface.parent
  let parent ← table.get? parent
  return (interface, parent)

def inheritOne (table : Table Interface) (name : String) : Table Interface :=
  match parentOf table name with
  | some (interface, parent) => table.insert name (interface.inherit parent)
  | none => table

structure Resolution where
  table : Table Interface
  resolved : List String

def resolveOne (state : Resolution) (name : String) : Attempt IdlError Resolution :=
  match chainOf state.table state.resolved name with
  | .error error => .broken state error
  | .ok chain => .done ⟨chain.foldl inheritOne state.table, chain.reverse ++ state.resolved⟩

def resolveInheritance (definitions : Definitions) : Attempt IdlError Definitions :=
  (Attempt.each resolveOne definitions.interfaces.keys ⟨definitions.interfaces, []⟩).lift
    fun state => { definitions with interfaces := state.table }

end WebIdl.Definitions
