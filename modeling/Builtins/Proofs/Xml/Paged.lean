import Builtins.Proofs.Encoding.CodePage
import Builtins.Proofs.Xml.Declaration

/-!
# Documents in a code page

A declared code page is honoured everywhere: in names, in attributes, in character content and in
references. So a text is read alike in the page and in UTF-8, whatever it holds.

* `sourceOf_declaration` — what begins with a declaration is not taken for UTF-16;
* `readAlike_of_declared` — a text in a declared code page is read as the text in UTF-8.
-/

namespace Builtins

/-- What begins with a declaration is not taken for UTF-16, and has no byte order mark. -/
theorem sourceOf_declaration (label bytes : Bytes) : sourceOf (declaration label ++ bytes) =
    .ok ⟨declaration label ++ bytes, .utf8, true⟩ := rfl

/-- A text in a declared code page is read as the same text in UTF-8: as the same document, or refused
for the same reason. The text may hold more declarations, and need not be well-formed. -/
theorem readAlike_of_declared {label bytes : Bytes} {p : CodePage} {t : String}
    (hlabel : Encoding.ofLabel? label = some (.page p)) (ht : p.encode? t = some bytes) :
    ReadAlike (declaration label ++ bytes) (declaration (utf8 "UTF-8") ++ utf8 t) := by
  have hutf8 : Encoding.ofLabel? (utf8 "UTF-8") = some .utf8 := by decide +kernel
  have hdecode := CodePage.encode?_eq_some_iff.1 ht
  -- After its declaration, the page stays in force to the end.
  have hfits : Reader.Fits (.page p) (fun b => (p.char? b).isSome)
      ⟨.page p, false, [], Builder.start⟩ := ⟨rfl, fun name hname => by cases hname⟩
  have hread := Reader.read_inUtf8 p.transcodes hfits (CodePage.isSome_of_decode? hdecode)
    fun _ _ hdeclarable => by cases hdeclarable
  rw [CodePage.widen_of_decode? hdecode] at hread
  apply readAlike_of_eq
  rw [parseDocument_eq_read (sourceOf_declaration label bytes),
    parseDocument_eq_read (sourceOf_declaration (utf8 "UTF-8") (utf8 t)),
    Reader.read_declaration hlabel rfl, Reader.read_declaration hutf8 rfl]
  exact hread.symm

/-- Cyrillic in a name, a key, a value, an unknown entity and the content of an element. -/
theorem readAlike_of_declared_koi8 :
    Encoding.ofLabel? (utf8 " Koi8-R\t") = some (.page .koi8r) ∧
      CodePage.koi8r.encode? "<я ю='э&щ;'>&ш;б</я>" = some [
        0x3C, 0xD1, 0x20, 0xC0, 0x3D, 0x27, 0xDC, 0x26, 0xDD, 0x3B, 0x27, 0x3E, 0x26, 0xDB, 0x3B, 0xC2,
        0x3C, 0x2F, 0xD1, 0x3E] ∧
      ReadAlike (declaration (utf8 " Koi8-R\t") ++ [
        0x3C, 0xD1, 0x20, 0xC0, 0x3D, 0x27, 0xDC, 0x26, 0xDD, 0x3B, 0x27, 0x3E, 0x26, 0xDB, 0x3B, 0xC2,
        0x3C, 0x2F, 0xD1, 0x3E]) (declaration (utf8 "UTF-8") ++ utf8 "<я ю='э&щ;'>&ш;б</я>") :=
  have hlabel : Encoding.ofLabel? (utf8 " Koi8-R\t") = some (.page .koi8r) := by decide +kernel
  have ht : CodePage.koi8r.encode? "<я ю='э&щ;'>&ш;б</я>" = some [
      0x3C, 0xD1, 0x20, 0xC0, 0x3D, 0x27, 0xDC, 0x26, 0xDD, 0x3B, 0x27, 0x3E, 0x26, 0xDB, 0x3B, 0xC2,
      0x3C, 0x2F, 0xD1, 0x3E] := by decide +kernel
  ⟨hlabel, ht, readAlike_of_declared hlabel ht⟩

end Builtins
