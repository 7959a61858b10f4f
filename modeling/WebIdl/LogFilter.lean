import WebIdl.Decimal.Digits
import WebIdl.Events
import WebIdl.Text.Split
import WebIdl.Unicode.Alphanumeric

set_option autoImplicit false

/-!
Which events are written down. A filter is a list of directives with commas between them: a level
for everything, or a level for the parts of the program whose names start in a certain way. Of the
directives that apply to an event the one with the longest name decides.
-/

namespace WebIdl

def Level.rank : Level → Nat
  | .trace => 0
  | .debug => 1
  | .info => 2
  | .warn => 3
  | .error => 4

def Level.name : Level → String
  | .trace => "TRACE"
  | .debug => "DEBUG"
  | .info => "INFO"
  | .warn => "WARN"
  | .error => "ERROR"

structure Directive where
  target : String
  least : Option Level
deriving DecidableEq

structure LogFilter where
  directives : List Directive
deriving DecidableEq

namespace LogFilter

def levelNumbered : Nat → Option (Option Level)
  | 0 => some none
  | 1 => some (some .error)
  | 2 => some (some .warn)
  | 3 => some (some .info)
  | 4 => some (some .debug)
  | 5 => some (some .trace)
  | _ => none

def levelNamed (text : List Char) : Option (Option Level) :=
  match String.ofList (text.map Char.toLower) with
  | "trace" => some (some .trace)
  | "debug" => some (some .debug)
  | "info" => some (some .info)
  | "warn" => some (some .warn)
  | "error" => some (some .error)
  | "off" => some none
  | _ => none

def levelOf (text : List Char) : Option (Option Level) :=
  match Decimal.readNat32 text with
  | some number => levelNumbered number
  | none => levelNamed text

def canStart (c : Char) : Bool := c == '-' || c == ':' || c == '_' || Unicode.isAlphanumeric c

-- A directive: a level, a target, or both with a mark between them. A target without a level
-- is written from the least level on; a directive that cannot be understood is left out.
def directiveOf (text : List Char) : Option Directive :=
  if text.head?.any canStart then
    match Text.cutAt '=' text with
    | some (target, []) => some ⟨String.ofList target, some .trace⟩
    | some (target, level) => (levelOf level).map fun least => ⟨String.ofList target, least⟩
    | none =>
        match levelOf text with
        | some least => some ⟨"", least⟩
        | none => some ⟨String.ofList text, some .trace⟩
  else none

def ofText (text : String) : LogFilter :=
  ⟨(Text.splitAt ',' text.toList).filterMap directiveOf⟩

def ofEnvironment (lookup : String → Option String) : Option LogFilter :=
  match lookup "IDL_IR_LOG" with
  | some text => some (ofText text)
  | none => (lookup "RUST_LOG").map ofText

def moreSpecific (best : Option Directive) (directive : Directive) : Option Directive :=
  match best with
  | some known =>
      if directive.target.length < known.target.length then some known else some directive
  | none => some directive

def deciding (filter : LogFilter) (target : String) : Option Directive :=
  (filter.directives.filter fun directive => target.startsWith directive.target).foldl moreSpecific
    none

def passes (filter : LogFilter) (event : Event) : Bool :=
  match (filter.deciding event.target).bind (·.least) with
  | some least => least.rank ≤ event.level.rank
  | none => false

end LogFilter

inductive LogFormat where
  | text
  | json
deriving DecidableEq

def LogFormat.ofEnvironment (lookup : String → Option String) : LogFormat :=
  let wanted := (lookup "IDL_IR_LOG_FORMAT").getD ""
  if wanted.toList.map Char.toLower = "json".toList then .json else .text

end WebIdl
