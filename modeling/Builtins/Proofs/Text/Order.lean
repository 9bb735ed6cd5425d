import Builtins.Proofs.Text.Utf8

/-!
# The order of texts

Texts are ordered by their characters, and that is the order of their bytes.

* `encode_lt_encode` — two characters decide the order of what begins with them;
* `bytesOf_lt_bytesOf`, `utf8_lt_utf8` — so smaller texts have smaller bytes.
-/

namespace Builtins

theorem toNat_lt_of_char (c : Char) : c.val.toNat < 0x110000 := by
  rcases c.valid with h | h
  · have hlow : c.val.toNat < 0xD800 := h
    omega
  · exact h.2

theorem cons_lt_cons_iff_toNat {a b : UInt8} {xs ys : Bytes} :
    a :: xs < b :: ys ↔ a.toNat < b.toNat ∨ a.toNat = b.toNat ∧ xs < ys := by
  rw [List.cons_lt_cons_iff, UInt8.lt_iff_toNat_lt, UInt8.toNat_inj]

/-- Two characters decide the order of what begins with them. -/
theorem encode_lt_encode {c d : Char} (h : c < d) (xs ys : Bytes) :
    String.utf8EncodeChar c ++ xs < String.utf8EncodeChar d ++ ys := by
  have hlt : c.val.toNat < d.val.toNat := UInt32.lt_iff_toNat_lt.1 (Char.lt_def.1 h)
  have hd := toNat_lt_of_char d
  -- A longer form begins with a greater byte, and forms of one length differ as numbers do.
  fun_cases String.utf8EncodeChar c <;> fun_cases String.utf8EncodeChar d <;>
    simp (disch := omega) only [List.cons_append, cons_lt_cons_iff_toNat, UInt8.toNat_ofNat',
      Nat.mod_eq_of_lt] <;>
    omega

theorem bytesOf_lt_bytesOf {cs ds : List Char} (h : cs < ds) : bytesOf cs < bytesOf ds := by
  induction h with
  | @nil d ds =>
    rcases hbytes : bytesOf (d :: ds) with _ | ⟨b, bytes⟩
    · cases bytesOf_eq_nil.1 hbytes
    · exact .nil
  | rel hlt => exact encode_lt_encode hlt _ _
  | cons _ ih => exact List.append_left_lt ih

/-- The order of texts is that of their bytes. -/
theorem utf8_lt_utf8 {s t : String} (h : s < t) : utf8 s < utf8 t := by
  have hbytes := bytesOf_lt_bytesOf (String.lt_iff.1 h)
  rwa [← utf8_ofList, ← utf8_ofList, String.ofList_toList, String.ofList_toList] at hbytes

end Builtins
