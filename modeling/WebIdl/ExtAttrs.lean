import WebIdl.IdlType.Basic

set_option autoImplicit false

namespace WebIdl

namespace ExtAttrValue

def isSet : ExtAttrValue → Bool
  | .valueless => false
  | .text value => !value.isEmpty
  | .list items => !items.isEmpty
  | .exposures items => !items.isEmpty
  | .call _ _ => true

def text? : ExtAttrValue → Option String
  | .text value => some value
  | _ => none

def exposures? : ExtAttrValue → Option (List Exposure)
  | .exposures items => some items
  | _ => none

def shown : ExtAttrValue → String
  | .valueless => ""
  | .text value => value
  | .list items => "(" ++ Text.joined ", " items ++ ")"
  | .exposures items => "(" ++ Text.joined ", " (items.map (·.exposed)) ++ ")"
  | .call name _ => name ++ "()"

end ExtAttrValue

namespace ExtAttrs

def isSet (attrs : ExtAttrs) (name : String) : Bool :=
  match attrs.get? name with
  | some value => value.isSet
  | none => false

def text? (attrs : ExtAttrs) (name : String) : Option String := (attrs.get? name).bind (·.text?)

def shownAt (attrs : ExtAttrs) (name : String) : String :=
  match attrs.get? name with
  | some value => value.shown
  | none => ""

def exposures (attrs : ExtAttrs) : List Exposure :=
  ((attrs.get? "Exposed").bind (·.exposures?)).getD []

def showEntry : String × ExtAttrValue → String
  | (name, .valueless) => name
  | (name, value) => name ++ "=" ++ value.shown

def shown (attrs : ExtAttrs) : String := Text.joined ", " (attrs.entries.map showEntry)

def joinExposures (mine theirs : List Exposure) : List Exposure :=
  theirs.foldl
    (fun known exposure => if known.contains exposure then known else known ++ [exposure]) mine

-- Take one attribute in: it fills a gap or replaces a value that is not set. A value that is
-- set stays, but two lists of exposures are joined.
def absorbOne (attrs : ExtAttrs) (name : String) (value : ExtAttrValue) : ExtAttrs :=
  match attrs.get? name with
  | none => attrs.insert name value
  | some existing =>
      if existing.isSet then
        match existing, value with
        | .exposures mine, .exposures theirs =>
            attrs.insert name (.exposures (joinExposures mine theirs))
        | _, _ => attrs
      else attrs.insert name value

def absorb (attrs other : ExtAttrs) : ExtAttrs :=
  other.entries.foldl (fun attrs (name, value) => attrs.absorbOne name value) attrs

end ExtAttrs

end WebIdl
