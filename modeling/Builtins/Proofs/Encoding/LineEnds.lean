import Builtins.Proofs.Encoding.MultiByte
import Builtins.Proofs.Text.LineEnds

/-!
# Line ends before and after decoding

Where ASCII stands for itself, line ends may be unified before or after the bytes are decoded.

* `Sequences.squeeze` — sequences of bytes, of which only ASCII ends a line;
* `Encoding.KeepsAscii` — the encodings in which ASCII stands for itself: all but UTF-16 and ISO-2022-JP,
  where an escape may stand between the two parts of a line end;
* `Encoding.KeepsAscii.cases` — how text is written there;
* `Encoding.decode?_unify` — what unified bytes are decoded as; `Encoding.keepsAscii_iff` — only there;
* `Encoding.return_mem_iff` — a text has a carriage return if its bytes have one.
-/

namespace Builtins

/-- The carriage returns of a text are bytes of their own. -/
theorem return_mem_bytesOf {cs : List Char} : 0x0D ∈ bytesOf cs ↔ '\r' ∈ cs := by
  constructor
  · intro h
    exact char_mem_of_byte h (by decide)
  · intro h
    exact List.mem_flatMap.2 ⟨'\r', h, by decide⟩

namespace CodePage

variable (p : CodePage)

theorem charOf_eq_iff {b : UInt8} {c : Char} (hc : c.toNat < 128) :
    p.charOf b = c ↔ b = UInt8.ofNat c.toNat := by
  have hbyte : (UInt8.ofNat c.toNat).toNat = c.toNat := Nat.mod_eq_of_lt (by omega)
  have hascii : p.charOf (UInt8.ofNat c.toNat) = c := by
    rw [p.charOf_ascii _ (by omega), hbyte, Char.ofNat_toNat]
  constructor
  · intro h
    exact p.charOf_injective _ _ (h.trans hascii.symm)
  · rintro rfl
    exact hascii

theorem map_charOf_squeeze (bytes : Bytes) :
    (byteEnd.squeeze bytes).map p.charOf = charEnd.squeeze (bytes.map p.charOf) :=
  LineEnd.map_squeeze ((p.charOf_eq_iff (by decide)).2 rfl)
    (fun _ => ⟨p.charOf_eq_iff (by decide), p.charOf_eq_iff (by decide)⟩) bytes

end CodePage

section Forms

variable {forms : List Form} {bytes : Bytes} {cs : List Char}

theorem ofNat_toNat_eq_iff {b : UInt8} {c : Char} (hb : b.toNat < 128) (hc : c.toNat < 128) :
    Char.ofNat b.toNat = c ↔ b = UInt8.ofNat c.toNat := by
  have hchar : (Char.ofNat b.toNat).toNat = b.toNat := CodePage.toNat_ofNat (.inl (by omega))
  constructor
  · rintro rfl
    rw [hchar, UInt8.ofNat_toNat]
  · rintro rfl
    have hbyte : (UInt8.ofNat c.toNat).toNat = c.toNat := Nat.mod_eq_of_lt (by omega)
    rw [hbyte, Char.ofNat_toNat]

/-- What stands for a mark of ASCII is of ASCII, for bytes as for characters. -/
theorem one_ofNat {b : UInt8} (hb : b.toNat < 128) : (byteEnd.one b).toNat < 128 ∧
    charEnd.one (Char.ofNat b.toNat) = Char.ofNat (byteEnd.one b).toNat := by
  have hmark : (Char.ofNat b.toNat = charEnd.first ∨ Char.ofNat b.toNat = charEnd.second) ↔
      (b = byteEnd.first ∨ b = byteEnd.second) :=
    or_congr (ofNat_toNat_eq_iff hb (by decide)) (ofNat_toNat_eq_iff hb (by decide))
  rw [LineEnd.one, LineEnd.one]
  by_cases hline : b = byteEnd.first ∨ b = byteEnd.second
  · rw [if_pos hline, if_pos (hmark.2 hline)]
    exact ⟨by decide, rfl⟩
  · rw [if_neg hline, if_neg fun h => hline (hmark.1 h)]
    exact ⟨hb, rfl⟩

theorem free_of_digits {b : UInt8} (h : 0x30 ≤ b) : byteEnd.Free b :=
  free_of_toNat (Nat.lt_of_lt_of_le (by decide) (UInt8.le_iff_toNat_le.1 h))

theorem free_of_beyond {c : Char} (h : 128 ≤ c.toNat) : charEnd.Free c := by
  constructor <;>
    · rintro rfl
      exact absurd h (by decide)

/-- A text starts with a line feed exactly if its bytes do. -/
theorem Sequences.head?_eq (h : Sequences forms bytes cs) (hforms : ExtendsAscii forms) :
    cs.head? = some '\n' ↔ bytes.head? = some 0x0A := by
  cases h with
  | nil => simp
  | @cons sequence rest cs cs' hcompletes hrest =>
    rcases hforms.ascii_or_beyond hcompletes with ⟨b, hb, rfl, rfl⟩ | ⟨hbytes, hne, hchars⟩
    · rw [List.singleton_append, List.singleton_append, List.head?_cons, List.head?_cons,
        Option.some.injEq, Option.some.injEq]
      exact ofNat_toNat_eq_iff hb (by decide)
    · obtain ⟨b, sequence, rfl⟩ := List.exists_cons_of_ne_nil hcompletes.ne_nil
      obtain ⟨c, cs, rfl⟩ := List.exists_cons_of_ne_nil hne
      simp only [List.cons_append, List.head?_cons, Option.some.injEq]
      exact ⟨fun hc => absurd hc (free_of_beyond (hchars c List.mem_cons_self)).2,
        fun hb => absurd hb (free_of_digits (hbytes b List.mem_cons_self)).2⟩

/-- Bytes with unified line ends are read as the text with unified line ends. -/
theorem Sequences.squeeze (h : Sequences forms bytes cs) (hforms : ExtendsAscii forms) :
    Sequences forms (byteEnd.squeeze bytes) (charEnd.squeeze cs) := by
  induction h with
  | nil => exact .nil
  | @cons sequence rest cs cs' hcompletes hrest ih =>
    rcases hforms.ascii_or_beyond hcompletes with ⟨b, hb, rfl, rfl⟩ | ⟨hbytes, -, hchars⟩
    · have hreturn : Char.ofNat b.toNat = charEnd.first ↔ b = byteEnd.first :=
        ofNat_toNat_eq_iff hb (by decide)
      rw [List.singleton_append, List.singleton_append, LineEnd.squeeze, LineEnd.squeeze]
      by_cases hpair : b = byteEnd.first ∧ rest.head? = some byteEnd.second
      · rw [if_pos hpair, if_pos ⟨hreturn.2 hpair.1, (hrest.head?_eq hforms).2 hpair.2⟩]
        exact ih
      · rw [if_neg hpair, if_neg fun hchars =>
          hpair ⟨hreturn.1 hchars.1, (hrest.head?_eq hforms).1 hchars.2⟩]
        obtain ⟨hlow, hone⟩ := one_ofNat hb
        rw [hone]
        exact .cons (.last (hforms.read_ascii hlow)) ih
    · rw [LineEnd.squeeze_append_free fun b hb => free_of_digits (hbytes b hb),
        LineEnd.squeeze_append_free fun c hc => free_of_beyond (hchars c hc)]
      exact .cons hcompletes ih

theorem Sequences.return_mem_iff (h : Sequences forms bytes cs) (hforms : ExtendsAscii forms) :
    '\r' ∈ cs ↔ 0x0D ∈ bytes := by
  induction h with
  | nil => simp
  | @cons sequence rest cs cs' hcompletes hrest ih =>
    rw [List.mem_append, List.mem_append, ih]
    refine or_congr_left ?_
    rcases hforms.ascii_or_beyond hcompletes with ⟨b, hb, rfl, rfl⟩ | ⟨hbytes, -, hchars⟩
    · rw [List.mem_singleton, List.mem_singleton, eq_comm, @eq_comm _ 0x0D]
      exact ofNat_toNat_eq_iff hb (by decide)
    · exact ⟨fun hc => absurd rfl (free_of_beyond (hchars _ hc)).1,
        fun hb => absurd rfl (free_of_digits (hbytes _ hb)).1⟩

end Forms

namespace Encoding

/-- The encodings in which ASCII stands for itself. -/
def KeepsAscii (e : Encoding) : Prop := e ≠ utf16le ∧ e ≠ utf16be ∧ e ≠ iso2022Jp

instance (e : Encoding) : Decidable e.KeepsAscii := inferInstanceAs (Decidable (_ ∧ _ ∧ _))

variable {e : Encoding} {bytes : Bytes} {s : String}

theorem decode?_eq_some_utf8 (h : utf8.decode? bytes = some s) : bytes = bytesOf s.toList := by
  rw [← utf8_eq_bytesOf]
  exact (utf8_of_utf8Text? h).symm

theorem decode?_eq_some_page {p : CodePage} (h : (page p).decode? bytes = some s) :
    s.toList = bytes.map p.charOf := by
  have hchars := CodePage.decode?_of_isSome (CodePage.isSome_of_decode? h)
  rw [h, Option.some.injEq] at hchars
  rw [hchars, String.toList_ofList]

theorem decode?_eq_some_replacement (h : replacement.decode? bytes = some s) : bytes = [] ∧ s = "" := by
  rw [decode?] at h
  split at h
  · rename_i hempty
    cases h
    exact ⟨List.isEmpty_iff.1 hempty, rfl⟩
  · cases h

/-- Where ASCII stands for itself, text is in UTF-8, in a code page, not there at all, or in forms. -/
theorem KeepsAscii.cases (he : e.KeepsAscii) : e = utf8 ∨ (∃ p, e = page p) ∨ e = replacement ∨
    ∃ forms, ExtendsAscii forms ∧ e.decode? = (formDecoder forms).decode? := by
  have inForms : ∀ {forms}, ExtendsAscii forms → e.decode? = (formDecoder forms).decode? →
      e = utf8 ∨ (∃ p, e = page p) ∨ e = replacement ∨
        ∃ forms, ExtendsAscii forms ∧ e.decode? = (formDecoder forms).decode? :=
    fun hforms hdecode => .inr (.inr (.inr ⟨_, hforms, hdecode⟩))
  cases e with
  | utf8 => exact .inl rfl
  | utf16le => exact absurd rfl he.1
  | utf16be => exact absurd rfl he.2.1
  | page p => exact .inr (.inl ⟨p, rfl⟩)
  | gbk => exact inForms extendsAscii_chinese rfl
  | gb18030 => exact inForms extendsAscii_chinese rfl
  | big5 => exact inForms extendsAscii_big5 rfl
  | eucJp => exact inForms extendsAscii_eucJp rfl
  | iso2022Jp => exact absurd rfl he.2.2
  | shiftJis => exact inForms extendsAscii_shiftJis rfl
  | eucKr => exact inForms extendsAscii_eucKr rfl
  | replacement => exact .inr (.inr (.inl rfl))

/-- Bytes with unified line ends are decoded as the text with unified line ends. -/
theorem decode?_unify (he : e.KeepsAscii) (h : e.decode? bytes = some s) :
    e.decode? (byteEnd.squeeze bytes) = some (String.ofList (charEnd.squeeze s.toList)) := by
  rcases he.cases with rfl | ⟨p, rfl⟩ | rfl | ⟨forms, hforms, hdecode⟩
  · rw [decode?_eq_some_utf8 h, squeeze_bytesOf, decode?_bytesOf]
  · have hsome : ∀ b ∈ byteEnd.squeeze bytes, (p.char? b).isSome := by
      rw [← List.all_eq_true, LineEnd.all_squeeze (by rfl), List.all_eq_true]
      exact CodePage.isSome_of_decode? h
    rw [CodePage.decode?_of_isSome hsome, p.map_charOf_squeeze, decode?_eq_some_page h]
  · obtain ⟨rfl, rfl⟩ := decode?_eq_some_replacement h
    rfl
  · rw [hdecode, formDecoder_eq_some_iff] at h ⊢
    rw [String.toList_ofList]
    exact h.squeeze hforms

/-- Exactly these encodings have the line ends of ASCII. In UTF-16 the two bytes of a line end are one unit, and
in ISO-2022-JP an escape may stand between them. -/
theorem keepsAscii_iff : e.KeepsAscii ↔ ∀ bytes s, e.decode? bytes = some s →
    e.decode? (byteEnd.squeeze bytes) = some (String.ofList (charEnd.squeeze s.toList)) := by
  refine ⟨fun he _ _ => decode?_unify he, fun h => ⟨?_, ?_, ?_⟩⟩
  · rintro rfl
    exact absurd (h [0x0D, 0x0A] "\u0A0D" (by decide)) (by decide)
  · rintro rfl
    exact absurd (h [0x0D, 0x0A] "\u0D0A" (by decide)) (by decide)
  · rintro rfl
    exact absurd (h [0x0D, 0x1B, 0x28, 0x42, 0x0A] "\r\n" (by decide +kernel)) (by decide +kernel)

/-- A text has a carriage return exactly if its bytes have one. -/
theorem return_mem_iff (he : e.KeepsAscii) (h : e.decode? bytes = some s) :
    '\r' ∈ s.toList ↔ 0x0D ∈ bytes := by
  rcases he.cases with rfl | ⟨p, rfl⟩ | rfl | ⟨forms, hforms, hdecode⟩
  · rw [decode?_eq_some_utf8 h, return_mem_bytesOf]
  · rw [decode?_eq_some_page h, List.mem_map]
    simp only [p.charOf_eq_iff (c := '\r') (by decide)]
    simp
  · obtain ⟨rfl, rfl⟩ := decode?_eq_some_replacement h
    simp
  · rw [hdecode, formDecoder_eq_some_iff] at h
    exact h.return_mem_iff hforms

end Encoding

end Builtins
