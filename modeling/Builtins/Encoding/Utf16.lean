import Builtins.Bytes

/-!
# UTF-16

A character is one 16-bit unit, or two units from ranges that no character has. Units are pairs of
bytes in either order.

* `utf16` encodes a text, `utf16Text?` decodes.
* `utf16Text?_utf16`: every text is read back from its encoded form, in both orders.
-/

namespace Builtins

def unitsOfChar (c : Char) : List Nat :=
  let n := c.toNat
  if n < 0x10000 then [n] else [0xD800 + (n - 0x10000) / 0x400, 0xDC00 + (n - 0x10000) % 0x400]

def bytesOfUnit (bigEndian : Bool) (unit : Nat) : Bytes :=
  let high := UInt8.ofNat (unit / 256)
  let low := UInt8.ofNat (unit % 256)
  if bigEndian then [high, low] else [low, high]

/-- The UTF-16 form of a text. -/
def utf16 (bigEndian : Bool) (s : String) : Bytes :=
  (s.toList.flatMap unitsOfChar).flatMap (bytesOfUnit bigEndian)

/-- The units of a list of bytes, if their number is even. -/
def units16? (bigEndian : Bool) : Bytes → Option (List Nat)
  | [] => some []
  | [_] => none
  | a :: b :: rest =>
    let unit := if bigEndian then a.toNat * 256 + b.toNat else b.toNat * 256 + a.toNat
    (units16? bigEndian rest).map (unit :: ·)

/-- The characters of a list of units, if every surrogate belongs to a pair. -/
def charsOfUnits16? : List Nat → Option (List Char)
  | [] => some []
  | unit :: rest =>
    if unit < 0xD800 || 0xE000 ≤ unit then (charsOfUnits16? rest).map (Char.ofNat unit :: ·)
    else if unit < 0xDC00 then
      match rest with
      | low :: rest =>
        if 0xDC00 ≤ low && low < 0xE000 then
          (charsOfUnits16? rest).map
            (Char.ofNat (0x10000 + (unit - 0xD800) * 0x400 + (low - 0xDC00)) :: ·)
        else none
      | [] => none
    else none

/-- The text with a given UTF-16 form. -/
def utf16Text? (bigEndian : Bool) (bytes : Bytes) : Option String :=
  ((units16? bigEndian bytes).bind charsOfUnits16?).map String.ofList

theorem toNat_unitsOfChar_lt (c : Char) : ∀ u ∈ unitsOfChar c, u < 65536 := by
  intro u hu
  have hc := c.valid
  rw [UInt32.isValidChar, Nat.isValidChar] at hc
  have hn : c.toNat = c.val.toNat := rfl
  simp only [unitsOfChar] at hu
  split at hu <;> simp only [List.mem_cons, List.not_mem_nil, or_false] at hu <;> omega

theorem units16?_flatMap (bigEndian : Bool) {units : List Nat} (h : ∀ u ∈ units, u < 65536) :
    units16? bigEndian (units.flatMap (bytesOfUnit bigEndian)) = some units := by
  induction units with
  | nil => rfl
  | cons u rest ih =>
    have hu : u < 65536 := h u (by simp)
    have hrest := ih fun v hv => h v (by simp [hv])
    cases bigEndian <;>
      simp only [List.flatMap_cons, bytesOfUnit, Bool.false_eq_true, if_false, if_true,
        List.cons_append, List.nil_append, units16?, hrest, Option.map_some, UInt8.toNat_ofNat'] <;>
      exact congrArg (fun n => some (n :: rest)) (by omega)

theorem charsOfUnits16?_unitsOfChar (c : Char) (rest : List Nat) :
    charsOfUnits16? (unitsOfChar c ++ rest) = (charsOfUnits16? rest).map (c :: ·) := by
  have hc := c.valid
  rw [UInt32.isValidChar, Nat.isValidChar] at hc
  have hn : c.toNat = c.val.toNat := rfl
  simp only [unitsOfChar]
  split
  · have : (c.toNat < 0xD800 || 0xE000 ≤ c.toNat) = true := by simp; omega
    rw [List.singleton_append, charsOfUnits16?.eq_def]
    simp only [this, if_true, Char.ofNat_toNat]
  · have h₁ : (0xD800 + (c.toNat - 0x10000) / 0x400 < 0xD800 ||
        0xE000 ≤ 0xD800 + (c.toNat - 0x10000) / 0x400) = false := by simp; omega
    have h₂ : 0xD800 + (c.toNat - 0x10000) / 0x400 < 0xDC00 := by omega
    have h₃ : (0xDC00 ≤ 0xDC00 + (c.toNat - 0x10000) % 0x400 &&
        0xDC00 + (c.toNat - 0x10000) % 0x400 < 0xE000) = true := by simp; omega
    have h₄ : 0x10000 + (0xD800 + (c.toNat - 0x10000) / 0x400 - 0xD800) * 0x400 +
        (0xDC00 + (c.toNat - 0x10000) % 0x400 - 0xDC00) = c.toNat := by omega
    simp only [List.cons_append, List.nil_append, charsOfUnits16?, h₁, h₂, h₃, h₄, if_true,
      Bool.false_eq_true, if_false, Char.ofNat_toNat]

theorem charsOfUnits16?_flatMap (cs : List Char) :
    charsOfUnits16? (cs.flatMap unitsOfChar) = some cs := by
  induction cs with
  | nil => rfl
  | cons c rest ih => rw [List.flatMap_cons, charsOfUnits16?_unitsOfChar, ih, Option.map_some]

@[simp]
theorem utf16Text?_utf16 (bigEndian : Bool) (s : String) :
    utf16Text? bigEndian (utf16 bigEndian s) = some s := by
  have h : ∀ u ∈ s.toList.flatMap unitsOfChar, u < 65536 := by
    intro u hu
    obtain ⟨c, -, hc⟩ := List.mem_flatMap.1 hu
    exact toNat_unitsOfChar_lt c u hc
  rw [utf16Text?, utf16, units16?_flatMap bigEndian h, Option.bind_some, charsOfUnits16?_flatMap,
    Option.map_some, String.ofList_toList]

end Builtins
