import WebIdl.Text.FilePath

set_option autoImplicit false

/-!
A directory with its files, as far as reading and writing them needs it. A place is given by the
names that lead to it: from the directory itself, upwards through as many `..` as stand at the
front, or from the root after a leading `/`. Outside the directory nothing is known but the
directories above it and the null device.
-/

namespace WebIdl

inductive FileError where
  | notFound
  | notDirectory
  | isDirectory
  | nameTooLong
  | nullInName
  | system (text : String)
deriving DecidableEq

def FileError.message : FileError → String
  | .notFound => "No such file or directory (os error 2)"
  | .notDirectory => "Not a directory (os error 20)"
  | .isDirectory => "Is a directory (os error 21)"
  | .nameTooLong => "File name too long (os error 36)"
  | .nullInName => "file name contained an unexpected NUL byte"
  | .system text => text

structure FileSet where
  directories : List (List String)
  files : List (List String × List UInt8)

namespace FileSet

def empty : FileSet := ⟨[], []⟩

def root : List String := ["/"]

def nullDevice : List String := root ++ ["dev", "null"]

def isTop (place : List String) : Bool := place == root || place.all (· == "..")

def above (place : List String) : List String :=
  if place = root then root
  else if isTop place then ".." :: place
  else place.dropLast

def file? (set : FileSet) (place : List String) : Option (List UInt8) :=
  if place = nullDevice then some [] else (set.files.find? fun file => file.1 == place).map (·.2)

def isDirectory (set : FileSet) (place : List String) : Bool :=
  isTop place || place == above nullDevice || set.directories.contains place

def enter (set : FileSet) (place : List String) : Except FileError Unit :=
  if set.isDirectory place then .ok ()
  else if (set.file? place).isSome then .error .notDirectory
  else .error .notFound

def step (place : List String) (part : String) : List String :=
  if part = "" ∨ part = "." then place
  else if part = ".." then above place
  else place ++ [part]

def follow (set : FileSet) (place : List String) : List String → Except FileError (List String)
  | [] => .ok place
  | part :: rest => do
      set.enter place
      if 255 < part.utf8ByteSize then .error .nameTooLong
      set.follow (step place part) rest

def partsOf (path : String) : List String := (Text.splitAt '/' path.toList).map String.ofList

def start (path : String) : List String := if path.startsWith "/" then root else []

def checkPath (path : String) : Except FileError Unit :=
  if path.toList.contains '\x00' then .error .nullInName
  else if path.isEmpty then .error .notFound
  else if 4096 ≤ path.utf8ByteSize then .error .nameTooLong
  else .ok ()

def locate (set : FileSet) (path : String) : Except FileError (List String) := do
  checkPath path
  let place ← set.follow (start path) (partsOf path)
  if path.endsWith "/" then set.enter place
  return place

def read (set : FileSet) (path : String) : Except FileError (List UInt8) := do
  let place ← set.locate path
  if set.isDirectory place then .error .isDirectory
  match set.file? place with
  | some bytes => return bytes
  | none => .error .notFound

def parentParts (path : String) : List String :=
  ((partsOf path).reverse.dropWhile (· == "")).tail.reverse

def put (set : FileSet) (place : List String) (bytes : List UInt8) : FileSet :=
  { set with files := (place, bytes) :: set.files.filter fun file => file.1 != place }

-- Write a file; the directory that it goes to has to be there. A path that ends in a slash is
-- never one of a file, even if nothing is there.
def write (set : FileSet) (path : String) (bytes : List UInt8) : Except FileError FileSet := do
  checkPath path
  if path.endsWith "/" then
    set.enter (← set.follow (start path) (parentParts path))
    .error .isDirectory
  let place ← set.follow (start path) (partsOf path)
  if set.isDirectory place then .error .isDirectory
  return if place = nullDevice then set else set.put place bytes

def install (set : FileSet) (path : String) (bytes : List UInt8) : FileSet :=
  let places := (partsOf path).scanl step (start path)
  let made := (places.dropLast.filter (!isTop ·)) ++ set.directories
  { set with directories := made }.put (places.getLastD []) bytes

end FileSet

end WebIdl
