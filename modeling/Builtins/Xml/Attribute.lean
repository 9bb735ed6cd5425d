import Builtins.Xml.Token

/-!
# Attributes of a tag

What stands in a tag after the name of the element is a list of attributes: a key, an equals sign
and a quoted value, with white space allowed around each of them. Keys and values are still
undecoded.

* `AttrMode.step` reads one byte.
* `scanAttributes` gives the attributes in order, and the fault that ends them, if any.
* `tagName` and `tagRest` are the two parts of a start tag.
-/

namespace Builtins

/-- Where the scanner of attributes stands. Each run holds bytes with the latest first. -/
inductive AttrMode where
  /-- Before a key. -/
  | gap
  | key (run : Bytes)
  /-- After a key that white space ended. -/
  | afterKey (key : Bytes)
  /-- After the equals sign. -/
  | afterEquals (key : Bytes)
  | value (key : Bytes) (quote : UInt8) (run : Bytes)
  | failed (fault : AttributeFault)
deriving DecidableEq, Repr

/-- The scanner after some bytes: its mode and the attributes so far, the latest first. If
`distinct`, a key that occurs again is a fault. -/
structure AttrScan where
  distinct : Bool
  mode : AttrMode
  found : List (Bytes × Bytes)

namespace AttrScan

/-- Accepts a complete key. -/
def withKey (s : AttrScan) (key : Bytes) (next : AttrMode) : AttrScan :=
  if s.distinct && s.found.any (·.1 == key) then { s with mode := .failed .repeatedKey }
  else { s with mode := next }

def step (s : AttrScan) (b : UInt8) : AttrScan :=
  match s.mode with
  | .gap => if isMarkupBlank b then s else { s with mode := .key [b] }
  | .key run =>
    if b == 0x3D then s.withKey run.reverse (.afterEquals run.reverse)
    else if isMarkupBlank b then { s with mode := .afterKey run.reverse }
    else { s with mode := .key (b :: run) }
  | .afterKey key =>
    if b == 0x3D then s.withKey key (.afterEquals key)
    else if isMarkupBlank b then s
    else { s with mode := .failed .noEquals }
  | .afterEquals key =>
    if b == 0x27 || b == 0x22 then { s with mode := .value key b [] }
    else if isMarkupBlank b then s
    else { s with mode := .failed .unquotedValue }
  | .value key quote run =>
    if b == quote then { s with mode := .gap, found := (key, run.reverse) :: s.found }
    else { s with mode := .value key quote (b :: run) }
  | .failed _ => s

/-- The attributes in order, and the fault that ends them. -/
def finish (s : AttrScan) : List (Bytes × Bytes) × Option AttributeFault :=
  (s.found.reverse,
    match s.mode with
    | .gap => none
    | .key _ => some .noEquals
    | .afterKey _ => some .noEquals
    | .afterEquals _ => some .unquotedValue
    | .value _ _ _ => some .unclosedValue
    | .failed fault => some fault)

end AttrScan

/-- The attributes in a list of bytes, and the fault that ends them, if any. -/
def scanAttributes (distinct : Bool) (bytes : Bytes) :
    List (Bytes × Bytes) × Option AttributeFault :=
  (bytes.foldl AttrScan.step ⟨distinct, .gap, []⟩).finish

/-- The name of the element: everything before the first white space, so it may be empty. -/
def tagName (content : Bytes) : Bytes := content.takeWhile fun b => !isMarkupBlank b

/-- What follows the name of the element. -/
def tagRest (content : Bytes) : Bytes := content.dropWhile fun b => !isMarkupBlank b

/-- The name that an end tag closes, without the white space that may follow it. -/
def endTagName (content : Bytes) : Bytes :=
  if content.all isMarkupBlank then content
  else (content.reverse.dropWhile isMarkupBlank).reverse

/-- The value of an attribute in a declaration. Only attributes before the first fault count, and
keys may repeat. -/
def declaredValue? (key : Bytes) (content : Bytes) : Option Bytes :=
  ((scanAttributes false content).1.find? (·.1 == key)).map (·.2)

end Builtins
