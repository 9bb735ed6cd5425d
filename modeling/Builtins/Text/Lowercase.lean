import Builtins.Text.CaseTable

/-!
# Lower-casing

The full lower-case mapping of Unicode without language rules. Two characters do not have one fixed
lower-case letter: the dotted capital I becomes two characters, and the capital sigma has a form of
its own at the end of a word.

* `lowerChar` maps one character on its own.
* `finalSigma` decides the form of a sigma from the text around it.
* `lowercase` maps a text.
-/

namespace Builtins

def isCased (c : Char) : Bool := inRanges casedRanges c.toNat

/-- Whether a character does not count as the neighbour of a letter. -/
def isCaseIgnorable (c : Char) : Bool := inRanges caseIgnorableRanges c.toNat

/-- The lower-case form of a character on its own. -/
def lowerChar (c : Char) : List Char :=
  if c.toNat < 0x80 then [c.toLower]
  else if c = 'İ' then ['i', '\u0307']
  else if c = 'Σ' then ['σ']
  else
    match CaseRange.lowerRanges.find? (·.contains c.toNat) with
    | some r => [Char.ofNat (c.toNat + r.shift).toNat]
    | none => [c]

/-- Whether a letter comes next, past characters that do not count. -/
def letterNext (cs : List Char) : Bool :=
  match cs.dropWhile isCaseIgnorable with
  | c :: _ => isCased c
  | [] => false

/-- A sigma ends a word if a letter stands before it and none after it. The text before it is given
in reverse. -/
def finalSigma (before after : List Char) : Bool := letterNext before && !letterNext after

/-- The lower-case form of a list that follows the characters `before`, given in reverse. -/
def lowerFrom (before : List Char) : List Char → List Char
  | [] => []
  | c :: rest =>
    let form := if c = 'Σ' && finalSigma before rest then ['ς'] else lowerChar c
    form ++ lowerFrom (c :: before) rest

def lowercase (s : String) : String := String.ofList (lowerFrom [] s.toList)

end Builtins
