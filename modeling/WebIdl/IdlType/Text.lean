import WebIdl.ExtAttrs

set_option autoImplicit false

namespace WebIdl.IdlType

mutual
def text : IdlType → String
  | .primitive name unrestricted => if unrestricted then "unrestricted " ++ name else name
  | .stringLike name => name
  | .any => "any"
  | .typeref name => name
  | .nullable inner => text inner ++ "?"
  | .sequence element => "sequence<" ++ text element ++ ">"
  | .frozenArray element => "FrozenArray<" ++ text element ++ ">"
  | .union members => "(" ++ Text.joined " or " (texts members) ++ ")"
  | .record key value => "record<" ++ key ++ ", " ++ text value ++ ">"
  | .promise [] => "Promise"
  | .promise (member :: rest) =>
      "Promise<" ++ Text.joined ", " (text member :: texts rest) ++ ">"
  | .annotated inner attrs => "[" ++ ExtAttrs.shown attrs ++ "] " ++ text inner
termination_by structural type => type
def texts : List IdlType → List String
  | [] => []
  | type :: rest => text type :: texts rest
termination_by structural types => types
end

end WebIdl.IdlType
