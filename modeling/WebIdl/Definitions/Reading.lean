import WebIdl.Definitions.FileName
import WebIdl.Definitions.OfNode
import WebIdl.Node.Reader
import WebIdl.Report

set_option autoImplicit false

namespace WebIdl.Definitions

open Report (during)

def ofText (text : String) : Except Report Definitions := do
  let root ← during (.decoding none) .tree (Node.read text)
  during (.building none) .idl (ofNode root)

def treeOfFile (path : String) (content : Except FileError (List UInt8)) :
    Except Report Node := do
  let bytes ← during (.reading path) .file content
  during (.decoding (some path)) .tree (Node.readBytes bytes)

-- The definitions in a file, from what reading the file gave. If asked for, the name of the
-- file is checked; a file that the tree itself names counts instead.
def ofFile (path : String) (checkName : Bool) (content : Except FileError (List UInt8)) :
    Except Report Definitions := do
  let root ← treeOfFile path content
  let definitions ← during (.building (some path)) .idl (ofNode root)
  if checkName then
    during (.checkingName path) .idl
      (definitions.checkFileName (definitions.filePath.getD path))
  return definitions

end WebIdl.Definitions
