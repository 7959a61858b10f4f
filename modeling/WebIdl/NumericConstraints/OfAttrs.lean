import WebIdl.ExtAttrs

set_option autoImplicit false

namespace WebIdl

namespace NumberEnum

def ofValue (value : ExtAttrValue) (integer : Bool) : Except IdlError NumberEnum :=
  match value with
  | .text text =>
      match splitItems text.toList with
      | some items => ofItems items integer
      | none => .error (.malformedValue .numberEnum text)
  | .list items => ofItems (items.map fun item => Unicode.trim item.toList) integer
  | other => .error (.malformedValue .numberEnum other.shown)

end NumberEnum

namespace NumericConstraints

def rangeOf (type : IdlType) : Option ExtAttrValue → Except IdlError (Option NumberRange)
  | none => .ok none
  | some value =>
      if type.isNumeric then
        match value with
        | .text text => (NumberRange.ofText text type.isFloating).map some
        | other => .error (.malformedValue .numberRange other.shown)
      else .ok none

def enumOf (type : IdlType) : Option ExtAttrValue → Except IdlError (Option NumberEnum)
  | none => .ok none
  | some value => (NumberEnum.ofValue value type.isInteger).map some

def ofAttrs (type : IdlType) (attrs : ExtAttrs) : Except IdlError NumericConstraints := do
  let range ← rangeOf type (attrs.get? "NumberRange")
  let enumeration ← enumOf type (attrs.get? "NumberEnum")
  return ⟨range, enumeration⟩

end NumericConstraints

end WebIdl
