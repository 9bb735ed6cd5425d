import Builtins.Proofs.Text.Utf8
import Builtins.Proofs.Xml.Transcoding

/-!
# Declarations of an encoding

A declaration at the start of a text is one token, and the reader that takes it goes on with the
encoding that its label names.

* `declaration` — a declaration with a label, `declared` — what stands between its question marks;
* `plain_of_ofLabel?` — a label that is known ends neither its quotes nor the declaration;
* `Scan.run_declaration` — the declaration is one instruction;
* `declaredEncoding?_declared` — it declares the encoding of its label;
* `Reader.read_declaration` — what follows is read with this encoding.
-/

namespace Builtins

/-- What stands between the question marks of a declaration. -/
def declared (label : Bytes) : Bytes := utf8 "xml version=\"1.0\" encoding=\"" ++ (label ++ [0x22])

/-- A declaration of the encoding with a label. -/
def declaration (label : Bytes) : Bytes := utf8 "<?" ++ (declared label ++ utf8 "?>")

/-! ### Labels -/

namespace Encoding

/-- What is not dropped at the start of a list is kept. -/
theorem mem_dropWhile {p : UInt8 → Bool} {b : UInt8} {bytes : Bytes} (hb : b ∈ bytes)
    (hp : p b = false) : b ∈ bytes.dropWhile p := by
  induction bytes with
  | nil => cases hb
  | cons x bytes ih =>
    by_cases hx : p x = true
    · rw [List.dropWhile_cons_of_pos hx]
      rcases List.mem_cons.1 hb with rfl | hb
      · rw [hp] at hx
        cases hx
      · exact ih hb
    · rw [List.dropWhile_cons_of_neg hx]
      exact hb

theorem lowerByte_mem_normalLabel {b : UInt8} {label : Bytes} (hb : b ∈ label)
    (hblank : isLabelBlank b = false) : lowerByte b ∈ normalLabel label := by
  refine List.mem_map_of_mem (List.mem_reverse.2 (mem_dropWhile (List.mem_reverse.2 ?_) hblank))
  exact mem_dropWhile hb hblank

/-- No label has a quote or an angle bracket. -/
theorem plain_labelled : ∀ row ∈ labelled, ∀ l ∈ row.2, 0x22 ∉ Builtins.utf8 l ∧ 0x3E ∉ Builtins.utf8 l := by
  decide +kernel

/-- A label that is known ends neither its quotes nor the declaration. -/
theorem plain_of_ofLabel? {label : Bytes} {e : Encoding} (h : ofLabel? label = some e) :
    0x22 ∉ label ∧ 0x3E ∉ label := by
  obtain ⟨row, hfind, -⟩ := Option.map_eq_some_iff.1 h
  have hany : (row.2.any fun l => Builtins.utf8 l == normalLabel label) = true :=
    List.find?_some (p := fun row : Encoding × List String => row.2.any fun l => _) hfind
  obtain ⟨l, hl, hnormal⟩ := List.any_eq_true.1 hany
  obtain ⟨hquote, hangle⟩ := plain_labelled row (List.mem_of_find?_eq_some hfind) l hl
  rw [beq_iff_eq.1 hnormal] at hquote hangle
  exact ⟨fun hb => hquote (lowerByte_mem_normalLabel hb (by decide)),
    fun hb => hangle (lowerByte_mem_normalLabel hb (by decide))⟩

end Encoding

/-! ### The declaration as a token -/

variable {label : Bytes}

/-- A declaration is one instruction, unless its label ends it. -/
theorem Scan.run_declaration (h : 0x3E ∉ label) :
    Scan.run Scan.start (declaration label) = ⟨.text [], [.instruction (declared label)]⟩ := by
  have hopening : Scan.run Scan.start (utf8 "<?" ++ utf8 "xml version=\"1.0\" encoding=\"") =
      ⟨.instruction (utf8 "xml version=\"1.0\" encoding=\"").reverse, []⟩ := rfl
  have hlabel : ∀ run, Scan.run ⟨.instruction run, []⟩ label =
      ⟨.instruction (label.reverse ++ run), []⟩ := by
    refine foldl_collect (fun run => Scan.mk (.instruction run) []) ?_
    intro b hb run
    have hangle : ¬ b = 0x3E := fun he => h (he ▸ hb)
    simp [Scan.step, ScanMode.step, hangle]
  have hclosing : ∀ run, Scan.run ⟨.instruction run, []⟩ (0x22 :: utf8 "?>") =
      ⟨.text [], [.instruction (0x22 :: run).reverse]⟩ := fun _ => rfl
  have hcut : declaration label = utf8 "<?" ++ utf8 "xml version=\"1.0\" encoding=\"" ++
      (label ++ 0x22 :: utf8 "?>") := by
    simp [declaration, declared]
  rw [hcut, Scan.run_append, hopening, Scan.run_append, hlabel, hclosing]
  simp [declared]

/-- A declaration declares the encoding that its label names, unless its label ends its value. -/
theorem declaredEncoding?_declared (h : 0x22 ∉ label) :
    Reader.declaredEncoding? (declared label) = Encoding.ofLabel? label := by
  have hopening : AttrScan.run ⟨false, .gap, []⟩ (utf8 " version=\"1.0\" encoding=\"") =
      ⟨false, .value Reader.encodingKey 0x22 [], [(utf8 "version", utf8 "1.0")]⟩ := rfl
  have hlabel : AttrScan.run ⟨false, .value Reader.encodingKey 0x22 [],
        [(utf8 "version", utf8 "1.0")]⟩ label =
      ⟨false, .value Reader.encodingKey 0x22 (label.reverse ++ []),
        [(utf8 "version", utf8 "1.0")]⟩ := by
    refine foldl_collect (fun run => AttrScan.mk false (.value _ 0x22 run) _) ?_ []
    intro b hb run
    have hquote : ¬ b = 0x22 := fun he => h (he ▸ hb)
    simp [AttrScan.step, hquote]
  have hscan : scanAttributes false (utf8 " version=\"1.0\" encoding=\"" ++ (label ++ [0x22])) =
      ([(utf8 "version", utf8 "1.0"), (Reader.encodingKey, label)], none) := by
    show (AttrScan.run ⟨false, .gap, []⟩ _).finish = _
    rw [AttrScan.run_append, hopening, AttrScan.run_append, hlabel]
    show ([(Reader.encodingKey, List.reverse (List.reverse label ++ [])), _].reverse, none) = _
    rw [List.append_nil, List.reverse_reverse]
    rfl
  have hvalue : declaredValue? Reader.encodingKey
      (utf8 " version=\"1.0\" encoding=\"" ++ (label ++ [0x22])) = some label := by
    rw [declaredValue?, hscan]
    rfl
  have htarget : ((declared label).take 3 == Reader.declarationTarget &&
      ((declared label).drop 3).head?.all isMarkupBlank) = true := rfl
  have hrest : (declared label).drop 3 = utf8 " version=\"1.0\" encoding=\"" ++ (label ++ [0x22]) := rfl
  rw [Reader.declaredEncoding?, if_pos htarget, hrest, hvalue]
  rfl

/-- After a declaration of a known encoding, a reader that may be told an encoding decodes with it. -/
theorem Reader.read_declaration {e : Encoding} (h : Encoding.ofLabel? label = some e) {r : Reader}
    (hr : r.declarable = true) (bytes : Bytes) : r.read (declaration label ++ bytes) =
      { r with encoding := e, declarable := false }.read bytes := by
  obtain ⟨hquote, hangle⟩ := Encoding.plain_of_ofLabel? h
  rw [read_declared (Scan.run_declaration hangle), instruction, if_pos hr,
    declaredEncoding?_declared hquote, h]

end Builtins
