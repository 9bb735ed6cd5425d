import Builtins.Encoding.Basic

/-!
# Characters and their bytes

A text in UTF-8 is the bytes of its characters one after the other, and the bytes below 128 in it are
characters of it.

* `bytesOf` — the bytes of a list of characters, `utf8_ofList` — as the text has them;
* `encode_ascii`, `bytesOf_ascii` — an ASCII character is one byte;
* `byte_not_mem` — an ASCII byte occurs only if its character does;
* `bytesOf_injective` — characters are found again in their bytes.
-/

namespace Builtins

/-- The bytes of a list of characters. -/
def bytesOf (cs : List Char) : Bytes := cs.flatMap String.utf8EncodeChar

@[simp]
theorem bytesOf_nil : bytesOf [] = [] := rfl

/-- An ASCII character is one byte. -/
theorem encode_ascii {c : Char} (h : c.toNat < 128) :
    String.utf8EncodeChar c = [UInt8.ofNat c.toNat] := by
  have hle : c.val.toNat ≤ 0x7F := Nat.le_of_lt_succ h
  simp only [String.utf8EncodeChar, hle, ↓reduceIte]
  rfl

theorem bytesOf_cons (c : Char) (cs : List Char) :
    bytesOf (c :: cs) = String.utf8EncodeChar c ++ bytesOf cs := List.flatMap_cons

theorem bytesOf_ascii {c : Char} (h : c.toNat < 128) (cs : List Char) :
    bytesOf (c :: cs) = UInt8.ofNat c.toNat :: bytesOf cs := by
  rw [bytesOf_cons, encode_ascii h, List.singleton_append]

theorem bytesOf_append (cs ds : List Char) : bytesOf (cs ++ ds) = bytesOf cs ++ bytesOf ds := by
  rw [bytesOf, List.flatMap_append]
  rfl

theorem utf8_ofList (cs : List Char) : utf8 (String.ofList cs) = bytesOf cs := by
  rw [utf8, String.toByteArray_ofList, List.utf8Encode, List.data_toByteArray]
  rfl

theorem utf8_eq_bytesOf (t : String) : utf8 t = bytesOf t.toList := by
  rw [← utf8_ofList, String.ofList_toList]

/-- The bytes of characters are read as these characters. -/
theorem decode?_bytesOf (cs : List Char) :
    Encoding.utf8.decode? (bytesOf cs) = some (String.ofList cs) := by
  rw [← utf8_ofList]
  exact utf8Text?_utf8 _

/-- Characters are found again in their bytes. -/
theorem bytesOf_injective {cs ds : List Char} (h : bytesOf cs = bytesOf ds) : cs = ds := by
  have hdecode := decode?_bytesOf cs
  rw [h, decode?_bytesOf, Option.some.injEq] at hdecode
  exact (String.ofList_injective hdecode).symm

theorem bytesOf_eq_nil {cs : List Char} : bytesOf cs = [] ↔ cs = [] := by
  constructor
  · intro h
    exact bytesOf_injective h
  · intro h
    rw [h]
    rfl

theorem toNat_ofNat_add {n k : Nat} (h : n + k < 256) : (UInt8.ofNat (n + k)).toNat = n + k :=
  Nat.mod_eq_of_lt h

/-- A byte below 128 is the whole of its character. -/
theorem toNat_of_mem_encode {c : Char} {b : UInt8} (h : b ∈ String.utf8EncodeChar c)
    (hb : b.toNat < 128) : b.toNat = c.toNat := by
  -- The bytes of a longer form have a summand of 128 or more, and there is room for it.
  have hlarge : ∀ {n k : Nat}, n + k < 256 → 128 ≤ k → b ≠ UInt8.ofNat (n + k) := by
    intro n k hlt hk he
    rw [he, toNat_ofNat_add hlt] at hb
    omega
  have hlast : ∀ n : Nat, b ≠ UInt8.ofNat (n % 64 + 128) := fun n => hlarge (by omega) (by omega)
  revert h
  fun_cases String.utf8EncodeChar c with
  | case1 v hv =>
    intro h
    rw [List.mem_singleton.1 h]
    exact Nat.mod_eq_of_lt (by omega)
  | case2 v _ hv =>
    intro h
    simp only [List.mem_cons, List.not_mem_nil, or_false] at h
    rcases h with h | h
    · exact absurd h (hlarge (by omega) (by omega))
    · exact absurd h (hlast _)
  | case3 v _ _ hv =>
    intro h
    simp only [List.mem_cons, List.not_mem_nil, or_false] at h
    rcases h with h | h | h
    · exact absurd h (hlarge (by omega) (by omega))
    · exact absurd h (hlast _)
    · exact absurd h (hlast _)
  | case4 v _ _ hv =>
    intro h
    simp only [List.mem_cons, List.not_mem_nil, or_false] at h
    rcases h with h | h | h | h
    · exact absurd h (hlarge (by omega) (by omega))
    · exact absurd h (hlast _)
    · exact absurd h (hlast _)
    · exact absurd h (hlast _)

/-- No byte of a text is 248 or more. -/
theorem byte_lt_of_mem_encode {c : Char} {b : UInt8} (h : b ∈ String.utf8EncodeChar c) :
    b.toNat < 248 := by
  have hsmall : ∀ {n : Nat}, n < 248 → b = UInt8.ofNat n → b.toNat < 248 := by
    intro n hn he
    rw [he]
    exact Nat.lt_of_le_of_lt (Nat.mod_le n 256) hn
  revert h
  fun_cases String.utf8EncodeChar c with
  | case1 v hv =>
    intro h
    exact hsmall (by omega) (List.mem_singleton.1 h)
  | case2 v _ hv =>
    intro h
    simp only [List.mem_cons, List.not_mem_nil, or_false] at h
    rcases h with h | h
    · exact hsmall (by omega) h
    · exact hsmall (by omega) h
  | case3 v _ _ hv =>
    intro h
    simp only [List.mem_cons, List.not_mem_nil, or_false] at h
    rcases h with h | h | h
    · exact hsmall (by omega) h
    · exact hsmall (by omega) h
    · exact hsmall (by omega) h
  | case4 v _ _ hv =>
    intro h
    simp only [List.mem_cons, List.not_mem_nil, or_false] at h
    rcases h with h | h | h | h
    · exact hsmall (by omega) h
    · exact hsmall (by omega) h
    · exact hsmall (by omega) h
    · exact hsmall (by omega) h

/-- A byte below 128 stands for a character of the text. -/
theorem char_mem_of_byte {cs : List Char} {b : UInt8} (h : b ∈ bytesOf cs) (hb : b.toNat < 128) :
    Char.ofNat b.toNat ∈ cs := by
  obtain ⟨c, hc, hmem⟩ := List.mem_flatMap.1 h
  rw [toNat_of_mem_encode hmem hb, Char.ofNat_toNat]
  exact hc

/-- An ASCII byte does not occur if its character does not. -/
theorem byte_not_mem {c : Char} {cs : List Char} (hc : c.toNat < 128) (h : c ∉ cs) :
    UInt8.ofNat c.toNat ∉ bytesOf cs := by
  intro hmem
  have hbyte : (UInt8.ofNat c.toNat).toNat = c.toNat := Nat.mod_eq_of_lt (by omega)
  have hchar := char_mem_of_byte hmem (by omega)
  rw [hbyte, Char.ofNat_toNat] at hchar
  exact h hchar

end Builtins
