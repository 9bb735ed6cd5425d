/-!
# Bytes

Binary content is a list of bytes.

* `utf8` encodes a text.
* `utf8Text?` decodes, and refuses every list that `utf8` does not produce.
* `shownText` decodes what it can, and shows a replacement character for what it cannot.
-/

namespace Builtins

abbrev Bytes := List UInt8

/-- The UTF-8 form of a text. -/
def utf8 (s : String) : Bytes := s.toByteArray.data.toList

/-- The text with a given UTF-8 form. -/
def utf8Text? (bytes : Bytes) : Option String := String.fromUTF8? ⟨bytes.toArray⟩

@[simp]
theorem utf8Text?_utf8 (s : String) : utf8Text? (utf8 s) = some s := by
  have h : s.toByteArray.IsValidUTF8 := s.isValidUTF8
  simp [utf8Text?, utf8, String.fromUTF8?, String.fromUTF8, h]

/-- A list of bytes is decoded only if it is the encoded form of the result. -/
theorem utf8_of_utf8Text? {bytes : Bytes} {s : String} (h : utf8Text? bytes = some s) :
    utf8 s = bytes := by
  unfold utf8Text? String.fromUTF8? at h
  split at h
  · simp only [Option.some.injEq] at h
    subst h
    simp [utf8, String.fromUTF8]
  · simp at h

/-- The beginning of a character of several bytes: its bits so far, how many bytes are still owed, and
the bounds of the next one. -/
structure PartialChar where
  bits : Nat
  owed : Nat
  low : UInt8
  high : UInt8

/-- The beginning that a first byte makes. The bounds of the second byte leave out forms that are too
long, surrogates and numbers beyond the last character. -/
def PartialChar.ofLead? (b : UInt8) : Option PartialChar :=
  if 0xC2 ≤ b ∧ b ≤ 0xDF then some ⟨b.toNat - 0xC0, 1, 0x80, 0xBF⟩
  else if b = 0xE0 then some ⟨0, 2, 0xA0, 0xBF⟩
  else if b = 0xED then some ⟨0xD, 2, 0x80, 0x9F⟩
  else if 0xE1 ≤ b ∧ b ≤ 0xEF then some ⟨b.toNat - 0xE0, 2, 0x80, 0xBF⟩
  else if b = 0xF0 then some ⟨0, 3, 0x90, 0xBF⟩
  else if b = 0xF4 then some ⟨4, 3, 0x80, 0x8F⟩
  else if 0xF1 ≤ b ∧ b ≤ 0xF3 then some ⟨b.toNat - 0xF0, 3, 0x80, 0xBF⟩
  else none

def replacementChar : Char := '\uFFFD'

/-- What a byte shows that goes on with nothing, and what it begins. -/
def PartialChar.start (b : UInt8) : List Char × Option PartialChar :=
  if b < 0x80 then ([Char.ofNat b.toNat], none)
  else
    match ofLead? b with
    | some p => ([], some p)
    | none => ([replacementChar], none)

/-- What a byte shows after what has been begun. One that does not go on with it breaks it off, and is
read afresh. -/
def PartialChar.next (p : PartialChar) (b : UInt8) : List Char × Option PartialChar :=
  if p.low ≤ b ∧ b ≤ p.high then
    let bits := p.bits * 0x40 + (b.toNat - 0x80)
    if p.owed = 1 then ([Char.ofNat bits], none) else ([], some ⟨bits, p.owed - 1, 0x80, 0xBF⟩)
  else (replacementChar :: (start b).1, (start b).2)

def shownChars : Option PartialChar → Bytes → List Char
  | none, [] => []
  | some _, [] => [replacementChar]
  | begun, b :: rest =>
    let (shown, begun) :=
      match begun with
      | some p => p.next b
      | none => PartialChar.start b
    shown ++ shownChars begun rest

/-- Bytes as they are shown. Unless they are the UTF-8 form of a text, each part that no character has
is shown as a replacement character. -/
def shownText (bytes : Bytes) : String :=
  match utf8Text? bytes with
  | some s => s
  | none => String.ofList (shownChars none bytes)

@[simp]
theorem shownText_utf8 (s : String) : shownText (utf8 s) = s := by
  rw [shownText, utf8Text?_utf8]

end Builtins
