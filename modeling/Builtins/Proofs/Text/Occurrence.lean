import Builtins.Proofs.Text.Utf8

/-!
# ASCII in the bytes of a text

What is ASCII among the bytes of a text stands at the same place in the text, because no byte of ASCII
is a part of a longer character.

* `split_of_byte` — an ASCII byte cuts the text where it cuts the bytes;
* `exists_append_of_bytes` — ASCII at the start of the bytes is the start of the text;
* `exists_occurrence_of_bytes` — ASCII within the bytes is within the text.
-/

namespace Builtins

/-- An ASCII byte cuts the text where it cuts the bytes. -/
theorem split_of_byte {c : Char} (hc : c.toNat < 128) {cs : List Char} : ∀ {before after : Bytes},
    bytesOf cs = before ++ UInt8.ofNat c.toNat :: after →
      ∃ xs ys, cs = xs ++ c :: ys ∧ bytesOf xs = before ∧ bytesOf ys = after := by
  induction cs with
  | nil =>
    intro before after h
    simp at h
  | cons d cs ih =>
    intro before after h
    rw [bytesOf_cons] at h
    rcases List.append_eq_append_iff.1 h with ⟨rest, hbefore, hrest⟩ | ⟨rest, hd, hrest⟩
    · obtain ⟨xs, ys, rfl, rfl, rfl⟩ := ih hrest
      exact ⟨d :: xs, ys, rfl, by rw [bytesOf_cons, hbefore], rfl⟩
    · cases rest with
      | nil =>
        obtain ⟨xs, ys, rfl, hxs, rfl⟩ := @ih [] after hrest.symm
        refine ⟨d :: xs, ys, rfl, ?_, rfl⟩
        rw [bytesOf_cons, hxs, hd, List.append_nil, List.append_nil]
      | cons b rest =>
        -- The byte belongs to the first character, so it is all of it.
        rw [List.cons_append, List.cons.injEq] at hrest
        have hmem : UInt8.ofNat c.toNat ∈ String.utf8EncodeChar d := by
          rw [hd, hrest.1]
          simp
        have hbyte : (UInt8.ofNat c.toNat).toNat = c.toNat := Nat.mod_eq_of_lt (by omega)
        have hdc : d = c := by
          rw [← Char.ofNat_toNat d, ← toNat_of_mem_encode hmem (by omega), hbyte, Char.ofNat_toNat]
        subst hdc
        rw [encode_ascii hc, eq_comm, List.append_eq_singleton_iff] at hd
        rcases hd with ⟨rfl, hone⟩ | ⟨-, hnone⟩
        · rw [List.cons.injEq] at hone
          exact ⟨[], cs, rfl, rfl, by rw [hrest.2, hone.2, List.nil_append]⟩
        · cases hnone

/-- ASCII at the start of the bytes is the start of the text. -/
theorem exists_append_of_bytes {start : List Char} : (∀ c ∈ start, c.toNat < 128) →
    ∀ {cs : List Char} {after : Bytes}, bytesOf cs = bytesOf start ++ after →
      ∃ rest, cs = start ++ rest := by
  induction start with
  | nil =>
    intro _ cs after _
    exact ⟨cs, rfl⟩
  | cons c start ih =>
    intro hstart cs after h
    obtain ⟨hc, hstart⟩ := List.forall_mem_cons.1 hstart
    rw [bytesOf_ascii hc, List.cons_append] at h
    obtain ⟨xs, ys, rfl, hxs, hys⟩ := @split_of_byte c hc cs [] _ h
    obtain ⟨rest, rfl⟩ := ih hstart hys
    rw [bytesOf_eq_nil.1 hxs]
    exact ⟨rest, rfl⟩

/-- ASCII within the bytes is within the text. -/
theorem exists_occurrence_of_bytes {c : Char} {found : List Char}
    (hfound : ∀ x ∈ c :: found, x.toNat < 128) {cs : List Char}
    (h : bytesOf (c :: found) <:+: bytesOf cs) : ∃ xs ys, cs = xs ++ (c :: found ++ ys) := by
  obtain ⟨hc, hrest⟩ := List.forall_mem_cons.1 hfound
  obtain ⟨before, after, hbytes⟩ := h
  rw [bytesOf_ascii hc, List.append_assoc, List.cons_append] at hbytes
  obtain ⟨xs, ys, rfl, -, hys⟩ := split_of_byte hc hbytes.symm
  obtain ⟨rest, rfl⟩ := exists_append_of_bytes hrest hys
  exact ⟨xs, rest, rfl⟩

end Builtins
