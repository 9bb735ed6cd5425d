import Builtins.Proofs.Encoding.CodePage
import Builtins.Proofs.Encoding.Unambiguous

/-!
# Bytes that are read back

Decoding is strict in every encoding. In most of them what is decoded is written in one way only, so that
different bytes never become the same text; in some multi-byte encodings they may.

* `flatMap_bytesOfUnit`, `flatMap_unitsOfChar` — the bytes of the units, and the units of the characters;
* `utf16_of_utf16Text?` — UTF-16 is decoded only if it is the encoded form of the result;
* `Encoding.decode?_injective`, `Encoding.exists_alike` — the encodings that tell different bytes apart, and
  the others; `Encoding.tellsApart_iff` — exactly these do.
-/

namespace Builtins

/-- A unit that was read is written as the two bytes it came from. -/
theorem bytesOfUnit_pair (bigEndian : Bool) (a b : UInt8) :
    bytesOfUnit bigEndian (if bigEndian then a.toNat * 256 + b.toNat else b.toNat * 256 + a.toNat) =
      [a, b] := by
  have ha := a.toNat_lt
  have hb := b.toNat_lt
  cases bigEndian with
  | true =>
    have hdiv : (a.toNat * 256 + b.toNat) / 256 = a.toNat := by omega
    have hmod : (a.toNat * 256 + b.toNat) % 256 = b.toNat := by omega
    simp [bytesOfUnit, hdiv, hmod]
  | false =>
    have hdiv : (b.toNat * 256 + a.toNat) / 256 = b.toNat := by omega
    have hmod : (b.toNat * 256 + a.toNat) % 256 = a.toNat := by omega
    simp [bytesOfUnit, hdiv, hmod]

/-- Units are below `2 ^ 16`, and are written as the bytes they were read from. -/
theorem flatMap_bytesOfUnit {bigEndian : Bool} {bytes : Bytes} {units : List Nat}
    (h : units16? bigEndian bytes = some units) :
    (∀ u ∈ units, u < 65536) ∧ units.flatMap (bytesOfUnit bigEndian) = bytes := by
  induction bytes using units16?.induct bigEndian generalizing units with
  | case1 =>
    cases h
    exact ⟨by simp, rfl⟩
  | case2 => cases h
  | case3 a b rest ih =>
    obtain ⟨units', hrest, rfl⟩ := Option.map_eq_some_iff.1 h
    obtain ⟨hlt, hbytes⟩ := ih hrest
    have hunit : (if bigEndian then a.toNat * 256 + b.toNat else b.toNat * 256 + a.toNat) < 65536 := by
      have ha := a.toNat_lt
      have hb := b.toNat_lt
      split <;> omega
    refine ⟨List.forall_mem_cons.2 ⟨hunit, hlt⟩, ?_⟩
    rw [List.flatMap_cons, hbytes]
    exact congrArg (· ++ rest) (bytesOfUnit_pair bigEndian a b)

/-- Characters are written in the units they were read from. -/
theorem flatMap_unitsOfChar {units : List Nat} {cs : List Char} (hlt : ∀ u ∈ units, u < 65536)
    (h : charsOfUnits16? units = some cs) : cs.flatMap unitsOfChar = units := by
  fun_induction charsOfUnits16? units generalizing cs with
  | case1 =>
    cases h
    rfl
  | case2 unit rest hplain ih =>
    obtain ⟨cs', hrest, rfl⟩ := Option.map_eq_some_iff.1 h
    obtain ⟨hunit, hlt⟩ := List.forall_mem_cons.1 hlt
    rw [Bool.or_eq_true, decide_eq_true_eq, decide_eq_true_eq] at hplain
    have hchar : (Char.ofNat unit).toNat = unit := CodePage.toNat_ofNat (by
      rw [Nat.isValidChar]
      omega)
    rw [List.flatMap_cons, ih hlt hrest, unitsOfChar, hchar, if_pos hunit, List.singleton_append]
  | case3 unit hplain hfirst low rest hsecond ih =>
    obtain ⟨cs', hrest, rfl⟩ := Option.map_eq_some_iff.1 h
    have hrestlt : ∀ u ∈ rest, u < 65536 := fun u hu =>
      hlt u (List.mem_cons_of_mem _ (List.mem_cons_of_mem _ hu))
    rw [Bool.or_eq_true, decide_eq_true_eq, decide_eq_true_eq] at hplain
    rw [Bool.and_eq_true, decide_eq_true_eq, decide_eq_true_eq] at hsecond
    have hchar : (Char.ofNat (0x10000 + (unit - 0xD800) * 0x400 + (low - 0xDC00))).toNat =
        0x10000 + (unit - 0xD800) * 0x400 + (low - 0xDC00) := CodePage.toNat_ofNat (by
      rw [Nat.isValidChar]
      omega)
    have hhigh : 0xD800 + (0x10000 + (unit - 0xD800) * 0x400 + (low - 0xDC00) - 0x10000) / 0x400 =
        unit := by omega
    have hlow : 0xDC00 + (0x10000 + (unit - 0xD800) * 0x400 + (low - 0xDC00) - 0x10000) % 0x400 =
        low := by omega
    rw [List.flatMap_cons, ih hrestlt hrest, unitsOfChar, hchar, if_neg (by omega)]
    show [_, _] ++ rest = _
    rw [hhigh, hlow]
    rfl
  | _ => cases h

/-- UTF-16 is decoded only if it is the encoded form of the result. -/
theorem utf16_of_utf16Text? {bigEndian : Bool} {bytes : Bytes} {s : String}
    (h : utf16Text? bigEndian bytes = some s) : utf16 bigEndian s = bytes := by
  obtain ⟨cs, hcs, rfl⟩ := Option.map_eq_some_iff.1 h
  obtain ⟨units, hunits, hcs⟩ := Option.bind_eq_some_iff.1 hcs
  obtain ⟨hlt, hbytes⟩ := flatMap_bytesOfUnit hunits
  rw [utf16, String.toList_ofList, flatMap_unitsOfChar hlt hcs, hbytes]

namespace Encoding

/-- The encodings that tell different bytes apart: no multi-byte one but EUC-KR. -/
def TellsApart (encoding : Encoding) : Prop :=
  encoding ∉ [gbk, gb18030, big5, eucJp, iso2022Jp, shiftJis]

instance (encoding : Encoding) : Decidable encoding.TellsApart := inferInstanceAs (Decidable (¬ _))

/-- What is decoded can be told from the text. -/
theorem decode?_injective {encoding : Encoding} (he : encoding.TellsApart) {bytes bytes' : Bytes}
    {s : String} (h : encoding.decode? bytes = some s) (h' : encoding.decode? bytes' = some s) :
    bytes = bytes' := by
  cases encoding with
  | utf8 => exact (utf8_of_utf8Text? h).symm.trans (utf8_of_utf8Text? h')
  | utf16le => exact (utf16_of_utf16Text? h).symm.trans (utf16_of_utf16Text? h')
  | utf16be => exact (utf16_of_utf16Text? h).symm.trans (utf16_of_utf16Text? h')
  | page p =>
    have hbytes := (CodePage.encode?_eq_some_iff.2 h).symm.trans (CodePage.encode?_eq_some_iff.2 h')
    exact Option.some.inj hbytes
  | eucKr =>
    exact (formDecoder_eq_some_iff.1 h).injective unambiguous_eucKr (formDecoder_eq_some_iff.1 h')
  | replacement =>
    have hnil : ∀ {bytes : Bytes}, replacement.decode? bytes = some s → bytes = [] := by
      intro bytes hbytes
      rw [decode?] at hbytes
      split at hbytes
      · rename_i hempty
        exact List.isEmpty_iff.1 hempty
      · cases hbytes
    rw [hnil h, hnil h']
  | _ => exact absurd he (by decide)

/-- Different bytes that are read as the same text. -/
theorem exists_alike {encoding : Encoding} (he : ¬ encoding.TellsApart) :
    ∃ bytes bytes' s, bytes ≠ bytes' ∧ encoding.decode? bytes = some s ∧
      encoding.decode? bytes' = some s := by
  -- A character that is there twice, a byte for what a pair stands for, and an escape to the mode in force.
  have hpair : ([0xA2, 0xE3] : Bytes) ≠ [0x80] := by decide
  have hchinese : (formDecoder chineseForms).decode? [0xA2, 0xE3] = some "€" ∧
      (formDecoder chineseForms).decode? [0x80] = some "€" := by decide +kernel
  rcases (List.mem_cons.1 (Decidable.not_not.1 he)) with rfl | he
  · exact ⟨_, _, _, hpair, hchinese⟩
  rcases List.mem_cons.1 he with rfl | he
  · exact ⟨_, _, _, hpair, hchinese⟩
  rcases List.mem_cons.1 he with rfl | he
  · exact ⟨[0xA2, 0xCC], [0xA4, 0x51], "十", by decide, by decide +kernel⟩
  rcases List.mem_cons.1 he with rfl | he
  · exact ⟨[0xA2, 0xE8], [0xAD, 0xFA], "∵", by decide, by decide +kernel⟩
  rcases List.mem_cons.1 he with rfl | he
  · exact ⟨[0x1B, 0x28, 0x42], [], "", by decide, by decide +kernel⟩
  · cases List.mem_singleton.1 he
    exact ⟨[0x81, 0xE6], [0x87, 0x9A], "∵", by decide, by decide +kernel⟩

/-- Exactly these encodings tell different bytes apart. -/
theorem tellsApart_iff {encoding : Encoding} : encoding.TellsApart ↔ ∀ bytes bytes' s,
    encoding.decode? bytes = some s → encoding.decode? bytes' = some s → bytes = bytes' := by
  refine ⟨fun he _ _ _ => decode?_injective he, fun h => ?_⟩
  refine Decidable.byContradiction fun he => ?_
  obtain ⟨bytes, bytes', s, hne, hbytes, hbytes'⟩ := exists_alike he
  exact hne (h bytes bytes' s hbytes hbytes')

end Encoding

end Builtins
