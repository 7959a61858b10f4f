import WebIdl.Definitions.Basic
import WebIdl.Text.FilePath
import WebIdl.Text.SnakeCase

set_option autoImplicit false

namespace WebIdl.Definitions

def named (definitions : Definitions) : List (String × Bool) :=
  definitions.interfaces.values.map (fun interface => (interface.name, interface.isPartial)) ++
    definitions.dictionaries.values.map fun dictionary => (dictionary.name, dictionary.isPartial)

def hasOthers (definitions : Definitions) : Bool :=
  !definitions.enumerations.isEmpty || !definitions.typedefs.isEmpty ||
    !definitions.callbacks.isEmpty

def fitsStem (name stem : String) : Bool := name == stem || Text.snakeCase name == stem

def checkFileName (definitions : Definitions) (path : String) : Except IdlError Unit :=
  match definitions.named with
  | [] => if definitions.hasOthers then .ok () else .error (.noDefinition path)
  | [(name, isPartial)] =>
      let stem := Text.fileStem path
      if isPartial || fitsStem name stem then .ok () else .error (.misnamedDefinition name stem)
  | several => .error (.severalDefinitions path several.length)

end WebIdl.Definitions
