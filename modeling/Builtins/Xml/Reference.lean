import Builtins.Text.Digits
import Builtins.Xml.Fault

/-!
# References

A reference stands for one character: by its number, or by one of the five names that every document
knows.

* `parseCharRef` reads the number of a character reference.
* `predefinedEntity?` knows the five names.
* `unescape?` replaces all references in an attribute value, or fails if one is unknown.
-/

namespace Builtins

/-- Reads digits after a number; it has to stay below `2 ^ 32`. -/
def digitsFrom (base : Nat) (n : Nat) : List Char → Except CharRefFault Nat
  | [] => .ok n
  | c :: rest =>
    match digit? base c with
    | none => .error .invalidDigit
    | some d =>
      if n * base + d < 0x100000000 then digitsFrom base (n * base + d) rest else .error .tooLarge

/-- The number that a list of digits stands for; it has neither a sign nor no digit. -/
def number (base : Nat) (cs : List Char) : Except CharRefFault Nat :=
  match cs with
  | [] => .error .noDigits
  | c :: _ => if c = '+' ∨ c = '-' then .error .signed else digitsFrom base 0 cs

def charOfNumber (n : Nat) : Except CharRefFault Char :=
  if n = 0 then .error .zero
  else if h : n.isValidChar then .ok (Char.ofNatAux n h)
  else .error (.notACharacter n)

/-- The character that a reference names by number: hexadecimal after a small `x`, otherwise
decimal. -/
def parseCharRef (cs : List Char) : Except CharRefFault Char :=
  match cs with
  | 'x' :: digits => number 16 digits >>= charOfNumber
  | digits => number 10 digits >>= charOfNumber

/-- The characters with a name that needs no declaration. -/
def predefinedEntity? (name : List Char) : Option Char :=
  if name = ['l', 't'] then some '<'
  else if name = ['g', 't'] then some '>'
  else if name = ['a', 'm', 'p'] then some '&'
  else if name = ['a', 'p', 'o', 's'] then some '\''
  else if name = ['q', 'u', 'o', 't'] then some '"'
  else none

/-- The character that a reference with this name stands for, if it is known. -/
def resolveReference? (name : List Char) : Option Char :=
  match name with
  | '#' :: number => (parseCharRef number).toOption
  | _ => predefinedEntity? name

/-- The rest of a value: outside of a reference (`none`), or in one whose name so far is given with
the latest character first. -/
def unescapeFrom : Option (List Char) → List Char → Option (List Char)
  | none, [] => some []
  | some _, [] => none
  | none, c :: rest =>
    if c = '&' then unescapeFrom (some []) rest else (unescapeFrom none rest).map (c :: ·)
  | some name, c :: rest =>
    if c = ';' then
      match resolveReference? name.reverse with
      | some x => (unescapeFrom none rest).map (x :: ·)
      | none => none
    else if c = '&' then none
    else unescapeFrom (some (c :: name)) rest

/-- A value with every reference replaced, if all are known. -/
def unescape? (s : String) : Option String := (unescapeFrom none s.toList).map String.ofList

end Builtins
