import Builtins.Bytes

/-!
# Paths

A path is what the disk makes of it: bytes, with slashes between the names. It is shown as a text, and
two paths may be shown alike.

* `DiskPath.ofText` is the path that a text spells, `DiskPath.display` the text that shows a path.
* `pathSteps` are the steps of a path, and `parentSteps` those to the directory of what it names.
* `joinPath` is a path as it is seen from a directory.
* `pathOf` is the plain path to a place.
-/

namespace Builtins

/-- A path: names with slashes between them. Names are bytes, and need not be the UTF-8 form of a
text. -/
structure DiskPath where
  bytes : Bytes
deriving DecidableEq, Repr

namespace DiskPath

def ofText (s : String) : DiskPath := ⟨utf8 s⟩

instance : Coe String DiskPath := ⟨ofText⟩

/-- The text that shows a path in messages and in handles. -/
def display (path : DiskPath) : String := shownText path.bytes

@[simp]
theorem display_ofText (s : String) : (ofText s).display = s := shownText_utf8 s

end DiskPath

def slash : UInt8 := 0x2F

def dot : Bytes := utf8 "."

def dotDot : Bytes := utf8 ".."

def splitAtSlashes : Bytes → List Bytes
  | [] => [[]]
  | b :: rest =>
    if b = slash then [] :: splitAtSlashes rest
    else
      match splitAtSlashes rest with
      | [] => [[b]]
      | part :: parts => (b :: part) :: parts

/-- The steps of a path. Doubled separators ask for nothing; one at the end asks for a directory, as
a final dot does. -/
def pathSteps (path : DiskPath) : List Bytes :=
  let parts := splitAtSlashes path.bytes
  let steps := parts.filter fun s => !s.isEmpty
  if parts.getLast? == some [] then steps ++ [dot] else steps

def isAbsolutePath (path : DiskPath) : Bool := path.bytes.head? == some slash

/-- A path as it is seen from a directory. One that starts at the top stands for itself. -/
def joinPath (directory path : DiskPath) : DiskPath :=
  if isAbsolutePath path then path
  else if directory.bytes.isEmpty || directory.bytes.getLast? == some slash then
    ⟨directory.bytes ++ path.bytes⟩
  else ⟨directory.bytes ++ slash :: path.bytes⟩

/-- The steps to the directory that holds what a path names. Dots at the end name nothing. -/
def parentSteps (path : DiskPath) : List Bytes :=
  ((pathSteps path).reverse.dropWhile (· == dot)).tail.reverse

/-- The path to a place, given by the names on the way from there to the top. -/
def pathOf (place : List Bytes) : DiskPath := ⟨slash :: List.intercalate [slash] place.reverse⟩

end Builtins
