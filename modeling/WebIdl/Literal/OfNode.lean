import WebIdl.Literal
import WebIdl.Node.Expect

set_option autoImplicit false

namespace WebIdl.Literal

def booleanOf : Option PropertyValue → Except IdlError Literal
  | some (.flag value) => .ok (.boolean value)
  | some (.text "true") => .ok (.boolean true)
  | some (.text "false") => .ok (.boolean false)
  | some value => .error (.malformedValue .booleanLiteral value.shown)
  | none => .error (.malformedValue .booleanLiteral "")

def ofNode (node : Node) : Except IdlError Literal :=
  let value := node.property "VALUE"
  let text :=
    match value with
    | some value => value.shown
    | none => ""
  match (node.text? "TYPE").getD "" with
  | "DOMString" => ofString text
  | "integer" => ofInteger text
  | "float" => ofFloat text
  | "boolean" => booleanOf value
  | "NULL" => .ok .null
  | "sequence" => .ok (.sequence (if text.isEmpty then "[]" else text))
  | "dictionary" => .ok (.dictionary (if text.isEmpty then "\x7b\x7d" else text))
  | other => .error (.malformedValue .defaultType other)

end WebIdl.Literal
