import Builtins.Proofs.Encoding.Surrogate
import Builtins.Proofs.Text.Occurrence
import Builtins.Proofs.Xml.Declaration

/-!
# Documents in UTF-16

A text in UTF-16 is read as the text in UTF-8, whatever it holds and in either order of bytes. No
declaration counts in it, and a byte order mark is not needed if it begins like a declaration.

* `OnlyUtf8Declared` — a text in which nothing but UTF-8 is declared;
* `sourceOf_utf8`, `sourceOf_marked`, `sourceOf_unmarked` — what the first bytes show;
* `ignores_of_not_declared` — without a declaration nothing changes the encoding;
* `read_undeclared`, `read_utf8_declared` — the two kinds of such a text;
* `readsUtf16` — text in UTF-16 is read as text in UTF-8, or does not stand for a text.
-/

namespace Builtins

/-- The byte order mark of UTF-16. -/
def byteOrderMark (bigEndian : Bool) : Bytes := bytesOfUnit bigEndian 0xFEFF

/-- UTF-16 in an order of bytes. -/
def Encoding.utf16 (bigEndian : Bool) : Encoding := if bigEndian then utf16be else utf16le

/-- The declaration of UTF-8. -/
def utf8Declaration : String := "<?xml version=\"1.0\" encoding=\"UTF-8\"?>"

/-- How a declaration begins. -/
def declarationStart : String := "<?xml"

/-- Wherever a declaration begins in a text, it is that of UTF-8 at the start of the text. -/
def OnlyUtf8Declared (t : String) : Prop :=
  ∀ i < t.toList.length, declarationStart.toList <+: t.toList.drop i →
    i = 0 ∧ utf8Declaration.toList <+: t.toList

instance (t : String) : Decidable (OnlyUtf8Declared t) :=
  inferInstanceAs (Decidable (∀ i < t.toList.length, declarationStart.toList <+: t.toList.drop i →
    i = 0 ∧ utf8Declaration.toList <+: t.toList))

/-! ### What the first bytes show -/

/-- Text in UTF-8 without a null is not taken for UTF-16. -/
theorem sourceOf_utf8 {t : String} (h : '\x00' ∉ t.toList) :
    sourceOf (utf8 t) = .ok ⟨dropMark (utf8 t), .utf8, true⟩ := by
  have hnull : 0x00 ∉ bytesOf t.toList := byte_not_mem (by decide : '\x00'.toNat < 128) h
  have hlarge : ∀ b ∈ bytesOf t.toList, b.toNat < 248 := by
    intro b hb
    obtain ⟨c, -, hc⟩ := List.mem_flatMap.1 hb
    exact byte_lt_of_mem_encode hc
  have hnone : utf16Content? (bytesOf t.toList) = none := by
    unfold utf16Content?
    split
    next hbytes => exact absurd (hlarge 0xFE (by rw [hbytes]; simp)) (by decide)
    next hbytes => exact absurd (hlarge 0xFF (by rw [hbytes]; simp)) (by decide)
    next hbytes => exact absurd (by rw [hbytes]; simp) hnull
    next hbytes => exact absurd (by rw [hbytes]; simp) hnull
    next => rfl
  rw [sourceOf, utf8_eq_bytesOf, hnone]

theorem utf16Content?_marked (bigEndian : Bool) (rest : Bytes) :
    utf16Content? (byteOrderMark bigEndian ++ rest) = some (.utf16 bigEndian, rest) := by
  cases bigEndian with
  | false => rfl
  | true => rfl

theorem decode?_utf16 (bigEndian : Bool) (bytes : Bytes) :
    (Encoding.utf16 bigEndian).decode? bytes = utf16Text? bigEndian bytes := by
  cases bigEndian with
  | false => rfl
  | true => rfl

/-- After a byte order mark of UTF-16, a text is brought into UTF-8. -/
theorem sourceOf_marked (bigEndian : Bool) (t : String) :
    sourceOf (byteOrderMark bigEndian ++ utf16 bigEndian t) = .ok ⟨dropMark (utf8 t), .utf8, false⟩ := by
  rw [sourceOf, utf16Content?_marked]
  simp only [decode?_utf16, utf16Text?_utf16]

/-- A text that begins like a declaration needs no byte order mark. -/
theorem sourceOf_unmarked (bigEndian : Bool) {t : String} (h : "<?".toList <+: t.toList) :
    sourceOf (utf16 bigEndian t) = sourceOf (byteOrderMark bigEndian ++ utf16 bigEndian t) := by
  obtain ⟨rest, hrest⟩ := h
  have hbytes : utf16 bigEndian t = utf16 bigEndian "<?" ++ utf16 bigEndian (String.ofList rest) := by
    rw [utf16, ← hrest, List.flatMap_append, List.flatMap_append, utf16, utf16,
      @String.toList_ofList rest]
  have hcontent : utf16Content? (utf16 bigEndian t) = some (.utf16 bigEndian, utf16 bigEndian t) := by
    rw [hbytes]
    cases bigEndian with
    | false => rfl
    | true => rfl
  rw [sourceOf, hcontent, sourceOf, utf16Content?_marked]

/-! ### Declarations -/

/-- Each instruction that declares an encoding begins with the start of a declaration. -/
theorem start_of_declared {content : Bytes} {e : Encoding}
    (h : Reader.declaredEncoding? content = some e) :
    ∃ rest, 0x3C :: 0x3F :: content = bytesOf declarationStart.toList ++ rest := by
  rw [Reader.declaredEncoding?] at h
  split at h
  · rename_i htarget
    rw [Bool.and_eq_true, beq_iff_eq] at htarget
    refine ⟨content.drop 3, ?_⟩
    rw [← List.take_append_drop 3 content, htarget.1]
    rfl
  · cases h

theorem dropMark_suffix (bytes : Bytes) : dropMark bytes <:+ bytes := by
  rw [dropMark.eq_def]
  split
  · exact ⟨[0xEF, 0xBB, 0xBF], rfl⟩
  · exact List.suffix_rfl

/-- If no declaration begins in a text, no instruction declares an encoding. -/
theorem ignores_of_not_declared {t : String}
    (h : ¬ ∃ i < t.toList.length, declarationStart.toList <+: t.toList.drop i) (r : Reader) :
    ∀ token ∈ (scan (dropMark (utf8 t))).1, r.Ignores token := by
  intro token htoken _ content hcontent
  subst hcontent
  cases hdeclared : Reader.declaredEncoding? content with
  | none => rfl
  | some e =>
    obtain ⟨rest, hrest⟩ := start_of_declared hdeclared
    have hpiece : (Token.instruction content).piece <:+: utf8 t :=
      (piece_of_mem_scan htoken).trans (dropMark_suffix _).isInfix
    have hstart : bytesOf declarationStart.toList <:+: bytesOf t.toList := by
      rw [utf8_eq_bytesOf] at hpiece
      refine List.IsInfix.trans ?_ hpiece
      show _ <:+: 0x3C :: 0x3F :: content
      rw [hrest]
      exact (List.prefix_append _ _).isInfix
    have hascii : ∀ c ∈ declarationStart.toList, c.toNat < 128 := by
      have hall : declarationStart.toList.all (fun c => decide (c.toNat < 128)) = true := by decide
      exact fun c hc => of_decide_eq_true (List.all_eq_true.1 hall c hc)
    obtain ⟨xs, ys, ht⟩ := exists_occurrence_of_bytes hascii hstart
    refine absurd ⟨xs.length, ?_, ?_⟩ h
    · rw [ht]
      simp
    · rw [ht, List.drop_left]
      exact List.prefix_append _ _

/-! ### The two kinds of texts -/

theorem transcodes_same : Transcodes .same .utf8 fun _ => True := by
  refine ⟨fun bytes _ => ?_, fun _ _ _ => rfl⟩
  rw [Widening.same_widen]

/-- A text without a declaration is read alike, whether or not declarations count. -/
theorem read_undeclared {t : String}
    (h : ¬ ∃ i < t.toList.length, declarationStart.toList <+: t.toList.drop i) :
    (Reader.start ⟨dropMark (utf8 t), .utf8, true⟩).read (dropMark (utf8 t)) =
      (Reader.start ⟨dropMark (utf8 t), .utf8, false⟩).read (dropMark (utf8 t)) := by
  have hfits : (Reader.start ⟨dropMark (utf8 t), .utf8, true⟩).Fits .utf8 fun _ => True :=
    ⟨rfl, fun name hname => by cases hname⟩
  have hread := Reader.read_inUtf8 transcodes_same hfits (fun b _ => trivial)
    (ignores_of_not_declared h _)
  rw [Widening.same_widen] at hread
  exact hread.symm

/-- A text that declares UTF-8 at its start is read alike, whether or not declarations count. -/
theorem read_utf8_declared {t : String} (h : utf8Declaration.toList <+: t.toList) :
    (Reader.start ⟨dropMark (utf8 t), .utf8, true⟩).read (dropMark (utf8 t)) =
      (Reader.start ⟨dropMark (utf8 t), .utf8, false⟩).read (dropMark (utf8 t)) := by
  obtain ⟨rest, hrest⟩ := h
  have hbytes : utf8 t = declaration (utf8 "UTF-8") ++ bytesOf rest := by
    rw [utf8_eq_bytesOf, ← hrest, bytesOf_append]
    rfl
  have hmark : dropMark (utf8 t) = declaration (utf8 "UTF-8") ++ bytesOf rest := by
    rw [hbytes]
    rfl
  have hutf8 : Encoding.ofLabel? (utf8 "UTF-8") = some .utf8 := by decide +kernel
  have hangle : 0x3E ∉ utf8 "UTF-8" := (Encoding.plain_of_ofLabel? hutf8).2
  rw [hmark, Reader.read_declaration hutf8 rfl, Reader.read_declared (Scan.run_declaration hangle)]
  rfl

/-! ### Text in UTF-16 -/

/-- What holds of text in UTF-16 in one order of bytes. -/
structure ReadsUtf16 (bigEndian : Bool) : Prop where
  /-- After a byte order mark, a text is read as the text in UTF-8. -/
  marked : ∀ t : String, '\x00' ∉ t.toList → OnlyUtf8Declared t →
    ReadAlike (utf8 t) (byteOrderMark bigEndian ++ utf16 bigEndian t)
  /-- A text that begins like a declaration is read alike with and without a byte order mark. -/
  unmarked : ∀ t : String, "<?".toList <+: t.toList →
    ReadAlike (utf16 bigEndian t) (byteOrderMark bigEndian ++ utf16 bigEndian t)
  /-- An odd number of bytes is refused, and so is a surrogate that belongs to no pair. -/
  refused : ∀ bytes : Bytes, (bytes.length % 2 = 1 ∨ ∃ units : List Nat, (∀ u ∈ units, u < 65536) ∧
      HasUnpaired units ∧ bytes = units.flatMap (bytesOfUnit bigEndian)) →
    ∃ fault, parseDocument (byteOrderMark bigEndian ++ bytes) = .error fault ∧
      ∀ path, (Fault.malformed fault path).code = .malformedDocument

/-- Text in UTF-16 is read as text in UTF-8, whatever it holds, and what does not stand for a text is
refused. -/
theorem readsUtf16 (bigEndian : Bool) : ReadsUtf16 bigEndian where
  marked t hnull hdeclared := by
    apply readAlike_of_eq
    rw [parseDocument_eq_read (sourceOf_utf8 hnull),
      parseDocument_eq_read (sourceOf_marked bigEndian t)]
    by_cases hstart : utf8Declaration.toList <+: t.toList
    · exact read_utf8_declared hstart
    · refine read_undeclared fun hbegins => ?_
      obtain ⟨i, hi, hbegins⟩ := hbegins
      exact hstart (hdeclared i hi hbegins).2
  unmarked t hstart := by
    apply readAlike_of_eq
    rw [parseDocument, sourceOf_unmarked bigEndian hstart, parseDocument]
  refused bytes hbytes := by
    have hnone : utf16Text? bigEndian bytes = none := by
      rcases hbytes with hodd | ⟨units, hlt, hunpaired, rfl⟩
      · exact utf16Text?_odd bigEndian hodd
      · exact utf16Text?_unpaired bigEndian hlt hunpaired
    refine ⟨.invalidUnits (.utf16 bigEndian), ?_, fun _ => rfl⟩
    rw [parseDocument, sourceOf, utf16Content?_marked]
    simp only [decode?_utf16, hnone]
    rfl

/-- A byte order mark in the text, a character of two units after a declaration, a declaration that does
not count, half a pair, and half a unit. -/
theorem readsUtf16_pairs :
    ReadAlike (utf8 "\uFEFF<a>𝄞</b>") (byteOrderMark true ++ utf16 true "\uFEFF<a>𝄞</b>") ∧
      ReadAlike (utf8 "<?xml version=\"1.0\" encoding=\"UTF-8\"?><a k='𝄞'/>")
        (byteOrderMark false ++ utf16 false "<?xml version=\"1.0\" encoding=\"UTF-8\"?><a k='𝄞'/>") ∧
      ReadAlike (utf16 false "<?xml version=\"1.0\" encoding=\"KOI8-R\"?><я/>")
        (byteOrderMark false ++ utf16 false "<?xml version=\"1.0\" encoding=\"KOI8-R\"?><я/>") ∧
      (∃ fault, parseDocument [0xFE, 0xFF, 0xD8, 0x34, 0x00, 0x3C] = .error fault ∧
        ∀ path, (Fault.malformed fault path).code = .malformedDocument) ∧
      ∃ fault, parseDocument [0xFE, 0xFF, 0x00] = .error fault ∧
        ∀ path, (Fault.malformed fault path).code = .malformedDocument :=
  have hunpaired : HasUnpaired [0xD834, 0x3C] :=
    .high [] [0x3C] ⟨by decide, by decide⟩ fun v hv hlow => by
      cases hv
      exact absurd hlow.1 (by decide)
  ⟨(readsUtf16 true).marked _ (by decide +kernel) (by decide +kernel),
    (readsUtf16 false).marked _ (by decide +kernel) (by decide +kernel),
    (readsUtf16 false).unmarked _ (by decide +kernel),
    (readsUtf16 true).refused [0xD8, 0x34, 0x00, 0x3C] (.inr ⟨_, by decide, hunpaired, rfl⟩),
    (readsUtf16 true).refused [0x00] (.inl rfl)⟩

end Builtins
