import WebIdl.Text.Hex
import WebIdl.Unicode.ExtendingMark
import WebIdl.Unicode.Printable

set_option autoImplicit false

namespace WebIdl.Text

def escape (c : Char) : List Char :=
  match c with
  | '"' => ['\\', '"']
  | '\\' => ['\\', '\\']
  | '\n' => ['\\', 'n']
  | '\r' => ['\\', 'r']
  | '\t' => ['\\', 't']
  | '\x00' => ['\\', '0']
  | c =>
      if Unicode.isExtendingMark c || !Unicode.isPrintable c then
        ['\\', 'u', '\x7b'] ++ hex c.toNat ++ ['\x7d']
      else [c]

def quoted (text : String) : String :=
  String.ofList (['"'] ++ text.toList.flatMap escape ++ ['"'])

end WebIdl.Text
