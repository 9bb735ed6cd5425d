import Builtins.Bytes

/-!
# Base64

Three bytes are written as four characters of six bits each; the last group is padded.

* `base64Alphabet` are the 64 characters.
* `base64` writes, `base64Bytes?` reads.
* `base64Bytes?_base64`: what is written is read back.
-/

namespace Builtins

/-- The character of each six-bit number. -/
def base64Alphabet : List Char :=
  "ABCDEFGHIJKLMNOPQRSTUVWXYZabcdefghijklmnopqrstuvwxyz0123456789+/".toList

def base64Char (n : Nat) : Char := base64Alphabet.getD n '='

/-- The digits of a number to the base 64, as many as asked for. -/
def base64Digits : Nat → Nat → List Char
  | 0, _ => []
  | size + 1, n => base64Digits size (n / 64) ++ [base64Char (n % 64)]

/-- The characters of some bytes. Two bytes are read as a number with two zero bits behind them, one
byte with four. -/
def base64 : Bytes → List Char
  | a :: b :: c :: rest =>
    base64Digits 4 (a.toNat * 65536 + b.toNat * 256 + c.toNat) ++ base64 rest
  | [a, b] => base64Digits 3 (a.toNat * 1024 + b.toNat * 4) ++ ['=']
  | [a] => base64Digits 2 (a.toNat * 16) ++ ['=', '=']
  | [] => []

def base64Value? (c : Char) : Option Nat := base64Alphabet.idxOf? c

/-- The number that characters stand for, six bits each. -/
def base64Number? (cs : List Char) : Option Nat :=
  cs.foldlM (fun n c => (base64Value? c).map (n * 64 + ·)) 0

/-- The bytes of padded base64. The bits that are left over in a padded group have to be zero. -/
def base64Bytes? : List Char → Option Bytes
  | [] => some []
  | a :: b :: c :: d :: rest =>
    if rest = [] ∧ d = '=' ∧ c = '=' then
      (base64Number? [a, b]).bind fun n =>
        if n % 16 = 0 then some [UInt8.ofNat (n / 16)] else none
    else if rest = [] ∧ d = '=' then
      (base64Number? [a, b, c]).bind fun n =>
        if n % 4 = 0 then some [UInt8.ofNat (n / 1024), UInt8.ofNat (n / 4 % 256)] else none
    else
      (base64Number? [a, b, c, d]).bind fun n =>
        (base64Bytes? rest).map fun bytes =>
          UInt8.ofNat (n / 65536) :: UInt8.ofNat (n / 256 % 256) :: UInt8.ofNat (n % 256) :: bytes
  | _ => none

theorem base64Value?_base64Char {n : Nat} (h : n < 64) : base64Value? (base64Char n) = some n := by
  have all : ∀ m < 64, base64Value? (base64Char m) = some m := by decide +kernel
  exact all n h

theorem base64Char_ne_pad {n : Nat} (h : n < 64) : base64Char n ≠ '=' := by
  have all : ∀ m < 64, base64Char m ≠ '=' := by decide +kernel
  exact all n h

theorem base64Number?_append_singleton (cs : List Char) (c : Char) :
    base64Number? (cs ++ [c]) =
      (base64Number? cs).bind fun n => (base64Value? c).map (n * 64 + ·) := by
  simp only [base64Number?, List.foldlM_append, List.foldlM_cons, List.foldlM_nil, bind_pure]
  rfl

theorem base64Number?_base64Digits (size : Nat) {n : Nat} (h : n < Nat.pow 64 size) :
    base64Number? (base64Digits size n) = some n := by
  induction size generalizing n with
  | zero =>
    have h0 : n = 0 := by simpa using h
    rw [h0]
    rfl
  | succ size ih =>
    have hlt : n / 64 < Nat.pow 64 size := Nat.div_lt_of_lt_mul (by rw [Nat.mul_comm]; exact h)
    have hmod : n % 64 < 64 := Nat.mod_lt _ (by decide)
    rw [base64Digits, base64Number?_append_singleton, ih hlt, Option.bind_some,
      base64Value?_base64Char hmod, Option.map_some, Nat.div_add_mod']

theorem ofNat_eq_of_mod_eq {n : Nat} {b : UInt8} (h : n % 256 = b.toNat) : UInt8.ofNat n = b :=
  UInt8.toNat_inj.1 (by simpa using h)

@[simp]
theorem base64Bytes?_base64 (bytes : Bytes) : base64Bytes? (base64 bytes) = some bytes := by
  fun_induction base64 bytes with
  | case1 a b c rest ih =>
    have ha := a.toNat_lt
    have hb := b.toNat_lt
    have hc := c.toNat_lt
    generalize hn : a.toNat * 65536 + b.toNat * 256 + c.toNat = n
    have hnumber := base64Number?_base64Digits 4 (n := n) (by show n < 16777216; omega)
    have hpad := base64Char_ne_pad (n := n % 64) (by omega)
    simp only [base64Digits, List.nil_append, List.cons_append] at hnumber ⊢
    rw [base64Bytes?, if_neg (by simp [hpad]), if_neg (by simp [hpad]), hnumber, ih]
    simp only [Option.bind_some, Option.map_some]
    rw [ofNat_eq_of_mod_eq (b := a) (by omega), ofNat_eq_of_mod_eq (b := b) (by omega),
      ofNat_eq_of_mod_eq (b := c) (by omega)]
  | case2 a b =>
    have ha := a.toNat_lt
    have hb := b.toNat_lt
    generalize hn : a.toNat * 1024 + b.toNat * 4 = n
    have hnumber := base64Number?_base64Digits 3 (n := n) (by show n < 262144; omega)
    have hpad := base64Char_ne_pad (n := n % 64) (by omega)
    simp only [base64Digits, List.nil_append, List.cons_append] at hnumber ⊢
    rw [base64Bytes?, if_neg (by simp [hpad]), if_pos (by simp), hnumber, Option.bind_some,
      if_pos (by omega), ofNat_eq_of_mod_eq (b := a) (by omega),
      ofNat_eq_of_mod_eq (b := b) (by omega)]
  | case3 a =>
    have ha := a.toNat_lt
    generalize hn : a.toNat * 16 = n
    have hnumber := base64Number?_base64Digits 2 (n := n) (by show n < 4096; omega)
    simp only [base64Digits, List.nil_append, List.cons_append] at hnumber ⊢
    rw [base64Bytes?, if_pos (by simp), hnumber, Option.bind_some, if_pos (by omega),
      ofNat_eq_of_mod_eq (b := a) (by omega)]
  | case4 => rfl

end Builtins
