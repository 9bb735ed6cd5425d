import Builtins.Bytes
import Builtins.Text.Digits
import Builtins.Text.Start

/-!
# Number literals of bytes

The literals by which program text gives a byte: a cast of a hexadecimal number, or a decimal number
without or with a sign.

* `literal` writes a byte, `literalByte?` reads one.
* `literalByte?_literal`: what is written is read back.
-/

namespace Builtins

/-- The form of a literal. -/
inductive LiteralForm where
  | hexadecimal
  | unsigned
  | signed
deriving DecidableEq, Repr

def castStart : List Char := "(byte)0x".toList

/-- A number in hexadecimal digits, in capitals and without zeros in front. -/
def hexDigits (n : Nat) : List Char := (Nat.toDigits 16 n).map Char.toUpper

/-- The literal of a byte. Signed numbers are in two's complement. -/
def literalChars : LiteralForm → UInt8 → List Char
  | .hexadecimal, b => castStart ++ hexDigits b.toNat
  | .unsigned, b => Nat.toDigits 10 b.toNat
  | .signed, b =>
    if b.toNat < 128 then Nat.toDigits 10 b.toNat else '-' :: Nat.toDigits 10 (256 - b.toNat)

def literal (form : LiteralForm) (b : UInt8) : String := String.ofList (literalChars form b)

def byteUpTo? (largest n : Nat) : Option UInt8 :=
  if n ≤ largest then some (UInt8.ofNat n) else none

def literalByte? : LiteralForm → List Char → Option UInt8
  | .hexadecimal, cs =>
    (dropStart? castStart cs).bind fun digits => (ofDigits? 16 digits).bind (byteUpTo? 255)
  | .unsigned, cs => (ofDigits? 10 cs).bind (byteUpTo? 255)
  | .signed, cs =>
    match dropStart? ['-'] cs with
    | some digits => ((ofDigits? 10 digits).bind (byteUpTo? 128)).map (0 - ·)
    | none => (ofDigits? 10 cs).bind (byteUpTo? 127)

theorem ofDigits?_hexDigits {n : Nat} (h : n < 256) : ofDigits? 16 (hexDigits n) = some n := by
  have all : ∀ m < 256, ofDigits? 16 (hexDigits m) = some m := by decide +kernel
  exact all n h

theorem byteUpTo?_toNat {largest : Nat} {b : UInt8} (h : b.toNat ≤ largest) :
    byteUpTo? largest b.toNat = some b := by rw [byteUpTo?, if_pos h, UInt8.ofNat_toNat]

/-- What is written is read back. -/
@[simp]
theorem literalByte?_literalChars (form : LiteralForm) (b : UInt8) :
    literalByte? form (literalChars form b) = some b := by
  have hb := b.toNat_lt
  cases form with
  | hexadecimal =>
    rw [literalByte?, literalChars, dropStart?_append, Option.bind_some,
      ofDigits?_hexDigits (by omega), Option.bind_some, byteUpTo?_toNat (by omega)]
  | unsigned =>
    rw [literalByte?, literalChars, ofDigits?_toDigits (by decide) (by decide), Option.bind_some,
      byteUpTo?_toNat (by omega)]
  | signed =>
    rw [literalByte?, literalChars]
    by_cases hlow : b.toNat < 128
    · have hdigits : dropStart? ['-'] (Nat.toDigits 10 b.toNat) = none := by
        cases hcs : Nat.toDigits 10 b.toNat with
        | nil => rfl
        | cons c rest =>
          have hc : c.isDigit = true :=
            Nat.isDigit_of_mem_toDigits (b := 10) (by decide) (by decide) (by rw [hcs]; simp)
          have hne : '-' ≠ c := fun he => by simp [← he] at hc
          simp [dropStart?, hne]
      rw [if_pos hlow, hdigits]
      simp only
      rw [ofDigits?_toDigits (by decide) (by decide), Option.bind_some, byteUpTo?_toNat (by omega)]
    · have hdigits : dropStart? ['-'] ('-' :: Nat.toDigits 10 (256 - b.toNat)) =
          some (Nat.toDigits 10 (256 - b.toNat)) := dropStart?_append ['-'] _
      rw [if_neg hlow, hdigits]
      simp only
      rw [ofDigits?_toDigits (by decide) (by decide), Option.bind_some, byteUpTo?,
        if_pos (by omega), Option.map_some]
      refine congrArg some (UInt8.toNat_inj.1 ?_)
      rw [UInt8.toNat_sub, UInt8.toNat_ofNat', UInt8.toNat_zero]
      omega

end Builtins
