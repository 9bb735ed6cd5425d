import Builtins.Proofs.Text.Utf8
import Builtins.Proofs.Xml.Printing
import Builtins.Xml.Attribute

/-!
# Scanning printed markup

What the scanner finds in the pieces of a printed forest: each reference and each tag is one token, and
the attributes of a tag are those that were printed.

* `Scan.run` — the scanner after more bytes, `foldl_collect` — in a mode that only collects them;
* `Scan.add` — the scanner after a token, and the characters before it;
* `Scan.run_named`, `Scan.run_startTag`, `Scan.run_emptyTag`, `Scan.run_endTag` — printed markup;
* `tag_printTag`, `scanAttributes_printTag` — the parts of a printed tag.
-/

namespace Builtins

/-! ### The bytes of names -/

namespace IsName

variable {s : String}

theorem byte_not_mem (h : IsName s) (c : Char) (hc : c ∈ nameStops) :
    UInt8.ofNat c.toNat ∉ bytesOf s.toList := by
  have hascii : nameStops.all (fun c => decide (c.toNat < 128)) = true := by decide
  exact Builtins.byte_not_mem (of_decide_eq_true (List.all_eq_true.1 hascii c hc)) (h.plain c hc)

theorem bytes_ne_nil (h : IsName s) : bytesOf s.toList ≠ [] := by
  intro hnil
  refine h.nonempty (String.toList_inj.1 ?_)
  exact bytesOf_eq_nil.1 hnil

/-- A name has no white space. -/
theorem not_blank (h : IsName s) : ∀ b ∈ bytesOf s.toList, isMarkupBlank b = false := by
  intro b hb
  have hspace : 0x20 ∉ bytesOf s.toList := h.byte_not_mem ' ' (by decide)
  have htab : 0x9 ∉ bytesOf s.toList := h.byte_not_mem '\t' (by decide)
  have hfeed : 0xA ∉ bytesOf s.toList := h.byte_not_mem '\n' (by decide)
  have hreturn : 0xD ∉ bytesOf s.toList := h.byte_not_mem '\r' (by decide)
  have hne : ∀ x, x ∉ bytesOf s.toList → (b == x) = false := by
    intro x hx
    exact beq_eq_false_iff_ne.2 fun he => hx (he ▸ hb)
  simp only [isMarkupBlank, hne _ hspace, hne _ htab, hne _ hfeed, hne _ hreturn, Bool.or_self]

end IsName

/-- What only collects bytes has them all in the end, the latest first. -/
theorem foldl_collect {σ : Type} {step : σ → UInt8 → σ} (state : Bytes → σ) {bytes : Bytes}
    (h : ∀ b ∈ bytes, ∀ run, step (state run) b = state (b :: run)) : ∀ run,
    bytes.foldl step (state run) = state (bytes.reverse ++ run) := by
  induction bytes with
  | nil =>
    intro run
    rfl
  | cons b bytes ih =>
    intro run
    rw [List.foldl_cons, h b List.mem_cons_self run,
      ih (fun b hb => h b (List.mem_cons_of_mem _ hb)), List.reverse_cons, List.append_assoc,
      List.singleton_append]

/-! ### The scanner after more bytes -/

namespace Scan

/-- The scanner after more bytes. -/
def run (s : Scan) (bytes : Bytes) : Scan := bytes.foldl step s

theorem run_cons (s : Scan) (b : UInt8) (bytes : Bytes) : s.run (b :: bytes) = (s.step b).run bytes :=
  rfl

theorem run_append (s : Scan) (xs ys : Bytes) : s.run (xs ++ ys) = (s.run xs).run ys :=
  List.foldl_append

/-- The scanner after a token that follows some characters. -/
def add (tokens : List Token) (run : Bytes) (token : Token) : Scan :=
  ⟨.text [], token :: ((ScanMode.textToken run).toList ++ tokens)⟩

variable {tokens : List Token} {run : Bytes}

/-- Characters are collected up to the next markup. -/
theorem run_text {bytes : Bytes} (hangle : 0x3C ∉ bytes) (hamp : 0x26 ∉ bytes) :
    Scan.run ⟨.text run, tokens⟩ bytes = ⟨.text (bytes.reverse ++ run), tokens⟩ := by
  refine foldl_collect (fun run => Scan.mk (.text run) tokens) ?_ run
  intro b hb run
  have hb₁ : ¬ b = 0x3C := fun he => hangle (he ▸ hb)
  have hb₂ : ¬ b = 0x26 := fun he => hamp (he ▸ hb)
  simp [step, ScanMode.step, hb₁, hb₂]

/-- The name of a reference is collected up to its end. -/
theorem run_name {name : List Char} (hsemicolon : ';' ∉ name) (hampersand : '&' ∉ name)
    (hangle : '<' ∉ name) (rest : List Char) :
    Scan.run ⟨.text run, tokens⟩ (bytesOf ('&' :: (name ++ rest))) =
      Scan.run ⟨.reference (bytesOf name).reverse, (ScanMode.textToken run).toList ++ tokens⟩
        (bytesOf rest) := by
  have hsemicolon' : 0x3B ∉ bytesOf name := byte_not_mem (by decide : ';'.toNat < 128) hsemicolon
  have hamp : 0x26 ∉ bytesOf name := byte_not_mem (by decide : '&'.toNat < 128) hampersand
  have hangle' : 0x3C ∉ bytesOf name := byte_not_mem (by decide : '<'.toNat < 128) hangle
  have hname : Scan.run ⟨.reference [], (ScanMode.textToken run).toList ++ tokens⟩ (bytesOf name) =
      ⟨.reference ((bytesOf name).reverse ++ []), (ScanMode.textToken run).toList ++ tokens⟩ := by
    refine foldl_collect (fun run => Scan.mk (.reference run) _) ?_ []
    intro b hb run
    have hb₁ : ¬ b = 0x3B := fun he => hsemicolon' (he ▸ hb)
    have hb₂ : ¬ b = 0x26 := fun he => hamp (he ▸ hb)
    have hb₃ : ¬ b = 0x3C := fun he => hangle' (he ▸ hb)
    simp [step, ScanMode.step, hb₁, hb₂, hb₃]
  rw [bytesOf_ascii (by decide), bytesOf_append, run_cons]
  show Scan.run ⟨.reference [], (ScanMode.textToken run).toList ++ tokens⟩ _ = _
  rw [run_append, hname, List.append_nil]

/-- A reference is a token, whatever its name stands for. -/
theorem run_named {name : List Char} (hsemicolon : ';' ∉ name) (hampersand : '&' ∉ name)
    (hangle : '<' ∉ name) :
    Scan.run ⟨.text run, tokens⟩ (bytesOf ('&' :: (name ++ [';']))) =
      add tokens run (.reference (bytesOf name)) := by
  have hend : ∀ (name : Bytes) (tokens : List Token),
      Scan.run ⟨.reference name, tokens⟩ (bytesOf [';']) =
        ⟨.text [], .reference name.reverse :: tokens⟩ := fun _ _ => rfl
  rw [run_name hsemicolon hampersand hangle, hend, List.reverse_reverse, add]

theorem run_reference {name : List Char} {c : Char} (h : Refers name c) :
    Scan.run ⟨.text run, tokens⟩ (bytesOf ('&' :: (name ++ [';']))) =
      add tokens run (.reference (bytesOf name)) :=
  run_named h.semicolon h.ampersand h.angle

end Scan

/-! ### Tags -/

/-- An attribute with a value as it is written, with the space in front of it. -/
def rawAttribute (key : String) (value : List Char) : List Char :=
  ' ' :: (key.toList ++ '=' :: '"' :: (value ++ ['"']))

theorem bytesOf_rawAttribute (key : String) (value : List Char) :
    bytesOf (rawAttribute key value) =
      0x20 :: (bytesOf key.toList ++ 0x3D :: 0x22 :: (bytesOf value ++ [0x22])) := by
  rw [rawAttribute, bytesOf_ascii (by decide), bytesOf_append, bytesOf_ascii (by decide),
    bytesOf_ascii (by decide), bytesOf_append]
  rfl

/-- The bytes of a printed attribute. -/
theorem bytesOf_printAttribute (a : Attribute) :
    bytesOf (printAttribute a) = 0x20 :: (bytesOf a.key.toList ++ 0x3D :: 0x22 ::
      (bytesOf (escape valueEscapes a.value.toList) ++ [0x22])) :=
  bytesOf_rawAttribute a.key _

/-- A printed value does not end before its quote. -/
theorem quote_not_mem_value (cs : List Char) : 0x22 ∉ bytesOf (escape valueEscapes cs) :=
  byte_not_mem (by decide : '"'.toNat < 128) (not_mem_escape (by decide) (by decide))

/-- What stands in a tag and leaves the tag open, and no quote in it. -/
def InTag (bytes : Bytes) : Prop :=
  ∀ (closing : Bool) (run : Bytes) (tokens : List Token),
    Scan.run ⟨.tag closing run none, tokens⟩ bytes =
      ⟨.tag closing (bytes.reverse ++ run) none, tokens⟩

theorem InTag.append {xs ys : Bytes} (hx : InTag xs) (hy : InTag ys) : InTag (xs ++ ys) := by
  intro closing run tokens
  rw [Scan.run_append, hx, hy, List.reverse_append, List.append_assoc]

theorem IsName.inTag {s : String} (h : IsName s) : InTag (bytesOf s.toList) := by
  intro closing run tokens
  have hangle : 0x3E ∉ bytesOf s.toList := h.byte_not_mem '>' (by decide)
  have hsingle : 0x27 ∉ bytesOf s.toList := h.byte_not_mem '\'' (by decide)
  have hdouble : 0x22 ∉ bytesOf s.toList := h.byte_not_mem '"' (by decide)
  refine foldl_collect (fun run => Scan.mk (.tag closing run none) tokens) ?_ run
  intro b hb run
  have hb₁ : ¬ b = 0x3E := fun he => hangle (he ▸ hb)
  have hb₂ : ¬ b = 0x27 := fun he => hsingle (he ▸ hb)
  have hb₃ : ¬ b = 0x22 := fun he => hdouble (he ▸ hb)
  simp [Scan.step, ScanMode.step, ScanMode.inTag, hb₁, hb₂, hb₃]

/-- A quoted value is closed by its quote. -/
theorem inTag_quoted {value : Bytes} (h : 0x22 ∉ value) : InTag (0x22 :: (value ++ [0x22])) := by
  intro closing run tokens
  have hvalue : Scan.run ⟨.tag closing (0x22 :: run) (some 0x22), tokens⟩ value =
      ⟨.tag closing (value.reverse ++ 0x22 :: run) (some 0x22), tokens⟩ := by
    refine foldl_collect (fun run => Scan.mk (.tag closing run (some 0x22)) tokens) ?_ _
    intro b hb run
    have hb : ¬ b = 0x22 := fun he => h (he ▸ hb)
    simp [Scan.step, ScanMode.step, hb]
  rw [Scan.run_cons]
  show Scan.run ⟨.tag closing (0x22 :: run) (some 0x22), tokens⟩ (value ++ [0x22]) = _
  rw [Scan.run_append, hvalue]
  show Scan.mk (.tag closing (0x22 :: (value.reverse ++ 0x22 :: run)) none) tokens = _
  simp

theorem inTag_rawAttribute {key : String} (h : IsName key) {value : List Char}
    (hvalue : 0x22 ∉ bytesOf value) : InTag (bytesOf (rawAttribute key value)) := by
  have hspace : InTag [0x20] := fun _ _ _ => rfl
  have hequals : InTag [0x3D] := fun _ _ _ => rfl
  rw [bytesOf_rawAttribute]
  exact hspace.append (h.inTag.append (hequals.append (inTag_quoted hvalue)))

theorem inTag_printAttribute {a : Attribute} (h : IsName a.key) :
    InTag (bytesOf (printAttribute a)) :=
  inTag_rawAttribute h (quote_not_mem_value _)

theorem inTag_attributes {attributes : List Attribute} (h : ∀ a ∈ attributes, IsName a.key) :
    InTag (bytesOf (attributes.flatMap printAttribute)) := by
  induction attributes with
  | nil =>
    intro closing run tokens
    rfl
  | cons a attributes ih =>
    rw [List.flatMap_cons, bytesOf_append]
    exact (inTag_printAttribute (h a List.mem_cons_self)).append
      (ih fun a ha => h a (List.mem_cons_of_mem _ ha))

namespace IsTag

variable {name : String} {attributes : List Attribute}

/-- A printed tag does not end in a slash. -/
theorem head?_reverse_ne (h : IsTag name attributes) :
    (bytesOf (printTag name attributes)).reverse.head? ≠ some 0x2F := by
  have hslash : 0x2F ∉ bytesOf name.toList := h.name.byte_not_mem '/' (by decide)
  rw [printTag, bytesOf_append]
  rcases List.eq_nil_or_concat attributes with rfl | ⟨before, a, rfl⟩
  · intro hhead
    rw [List.flatMap_nil, bytesOf_nil, List.append_nil] at hhead
    exact hslash (List.mem_reverse.1 (List.mem_of_mem_head? hhead))
  · rw [List.concat_eq_append, List.flatMap_append, List.flatMap_singleton, bytesOf_append,
      bytesOf_printAttribute]
    simp

end IsTag

namespace Scan

variable {tokens : List Token} {run : Bytes} {name : String} {attributes : List Attribute}

/-- A name opens a tag. -/
theorem run_opened (h : IsName name) (rest : Bytes) :
    Scan.run ⟨.opened, tokens⟩ (bytesOf name.toList ++ rest) =
      Scan.run ⟨.tag false [] none, tokens⟩ (bytesOf name.toList ++ rest) := by
  have hbang : 0x21 ∉ bytesOf name.toList := h.byte_not_mem '!' (by decide)
  have hquestion : 0x3F ∉ bytesOf name.toList := h.byte_not_mem '?' (by decide)
  have hslash : 0x2F ∉ bytesOf name.toList := h.byte_not_mem '/' (by decide)
  match hbytes : bytesOf name.toList with
  | [] => exact absurd hbytes h.bytes_ne_nil
  | b :: bytes =>
    have hb : b ∈ bytesOf name.toList := by simp [hbytes]
    have hb₁ : ¬ b = 0x21 := fun he => hbang (he ▸ hb)
    have hb₂ : ¬ b = 0x3F := fun he => hquestion (he ▸ hb)
    have hb₃ : ¬ b = 0x2F := fun he => hslash (he ▸ hb)
    have hstep : step ⟨.opened, tokens⟩ b = step ⟨.tag false [] none, tokens⟩ b := by
      simp [step, ScanMode.step, hb₁, hb₂, hb₃]
    rw [List.cons_append, run_cons, run_cons, hstep]

/-- Up to the end of a tag the scanner collects it. -/
theorem run_content (h : IsName name) {content : List Char} (hcontent : InTag (bytesOf content))
    (rest : List Char) :
    Scan.run ⟨.text run, tokens⟩ (bytesOf ('<' :: (name.toList ++ content ++ rest))) =
      Scan.run ⟨.tag false (bytesOf (name.toList ++ content)).reverse none,
        (ScanMode.textToken run).toList ++ tokens⟩ (bytesOf rest) := by
  have hopened := @run_opened ((ScanMode.textToken run).toList ++ tokens) name h
    (bytesOf content ++ bytesOf rest)
  have htag : InTag (bytesOf (name.toList ++ content)) := by
    rw [bytesOf_append]
    exact h.inTag.append hcontent
  rw [bytesOf_ascii (by decide), bytesOf_append, run_cons]
  show Scan.run ⟨.opened, (ScanMode.textToken run).toList ++ tokens⟩ _ = _
  rw [← List.append_assoc, ← bytesOf_append] at hopened
  rw [hopened, run_append, htag, List.append_nil]

theorem run_printTag (h : IsTag name attributes) (rest : List Char) :
    Scan.run ⟨.text run, tokens⟩ (bytesOf ('<' :: (printTag name attributes ++ rest))) =
      Scan.run ⟨.tag false (bytesOf (printTag name attributes)).reverse none,
        (ScanMode.textToken run).toList ++ tokens⟩ (bytesOf rest) :=
  run_content h.name (inTag_attributes h.keys) rest

/-- A start tag is a token. -/
theorem run_startTag (h : IsTag name attributes) :
    Scan.run ⟨.text run, tokens⟩ (bytesOf ('<' :: (printTag name attributes ++ ['>']))) =
      add tokens run (.startTag (bytesOf (printTag name attributes)) false) := by
  have hend : ScanMode.step (.tag false (bytesOf (printTag name attributes)).reverse none) 0x3E =
      (.text [], some (.startTag (bytesOf (printTag name attributes)) false)) := by
    rw [ScanMode.step, ScanMode.inTag, if_pos (by decide), if_neg Bool.false_ne_true,
      if_neg (by simpa using h.head?_reverse_ne), List.reverse_reverse]
  rw [run_printTag h]
  show step _ 0x3E = _
  rw [step, hend]
  rfl

/-- A tag that closes itself is a token. -/
theorem run_emptyContent (h : IsName name) {content : List Char}
    (hcontent : InTag (bytesOf content)) :
    Scan.run ⟨.text run, tokens⟩ (bytesOf ('<' :: (name.toList ++ content ++ ['/', '>']))) =
      add tokens run (.startTag (bytesOf (name.toList ++ content)) true) := by
  rw [run_content h hcontent]
  show step (step _ 0x2F) 0x3E = _
  simp [step, ScanMode.step, ScanMode.inTag, add]

theorem run_emptyTag (h : IsTag name attributes) :
    Scan.run ⟨.text run, tokens⟩ (bytesOf ('<' :: (printTag name attributes ++ ['/', '>']))) =
      add tokens run (.startTag (bytesOf (printTag name attributes)) true) :=
  run_emptyContent h.name (inTag_attributes h.keys)

/-- An end tag is a token. -/
theorem run_endTag (h : IsName name) :
    Scan.run ⟨.text run, tokens⟩ (bytesOf ('<' :: '/' :: (name.toList ++ ['>']))) =
      add tokens run (.endTag (bytesOf name.toList)) := by
  rw [bytesOf_ascii (by decide), bytesOf_ascii (by decide), bytesOf_append, run_cons, run_cons]
  show Scan.run ⟨.tag true [] none, (ScanMode.textToken run).toList ++ tokens⟩ _ = _
  rw [run_append, h.inTag, List.append_nil]
  show step _ 0x3E = _
  simp [step, ScanMode.step, ScanMode.inTag, add]

end Scan

/-! ### The parts of a tag -/

/-- A tag is cut at its first white space. -/
theorem tag_append {name rest : Bytes} (hname : ∀ b ∈ name, isMarkupBlank b = false)
    (hrest : ∀ b ∈ rest.head?, isMarkupBlank b = true) :
    tagName (name ++ rest) = name ∧ tagRest (name ++ rest) = rest := by
  have hkeep : ∀ b ∈ name, (!isMarkupBlank b) = true := by
    intro b hb
    rw [hname b hb]
    rfl
  rw [tagName, tagRest, List.takeWhile_append_of_pos hkeep, List.dropWhile_append_of_pos hkeep]
  cases rest with
  | nil => exact ⟨List.append_nil _, rfl⟩
  | cons b rest =>
    have hb : isMarkupBlank b = true := hrest b rfl
    simp [hb]

theorem tag_printTag {name : String} {attributes : List Attribute} (h : IsTag name attributes) :
    tagName (bytesOf (printTag name attributes)) = bytesOf name.toList ∧
      tagRest (bytesOf (printTag name attributes)) = bytesOf (attributes.flatMap printAttribute) := by
  rw [printTag, bytesOf_append]
  refine tag_append h.name.not_blank fun b hb => ?_
  cases attributes with
  | nil => cases hb
  | cons a attributes =>
    rw [List.flatMap_cons, bytesOf_append, bytesOf_printAttribute] at hb
    cases hb
    rfl

theorem endTagName_name {name : String} (h : IsName name) :
    endTagName (bytesOf name.toList) = bytesOf name.toList := by
  rw [endTagName]
  split
  · rfl
  · match hbytes : (bytesOf name.toList).reverse with
    | [] => rw [List.dropWhile_nil, ← hbytes, List.reverse_reverse]
    | b :: bytes =>
      have hb : b ∈ bytesOf name.toList := List.mem_reverse.1 (by simp [hbytes])
      rw [List.dropWhile_cons_of_neg (by simp [h.not_blank b hb]), ← hbytes, List.reverse_reverse]

namespace AttrScan

/-- The scanner of attributes after more bytes. -/
def run (s : AttrScan) (bytes : Bytes) : AttrScan := bytes.foldl step s

theorem run_cons (s : AttrScan) (b : UInt8) (bytes : Bytes) :
    s.run (b :: bytes) = (s.step b).run bytes := rfl

theorem run_append (s : AttrScan) (xs ys : Bytes) : s.run (xs ++ ys) = (s.run xs).run ys :=
  List.foldl_append

variable {distinct : Bool} {found : List (Bytes × Bytes)}

/-- A key is collected up to its equals sign. -/
theorem run_key {s : String} (h : IsName s) :
    AttrScan.run ⟨distinct, .gap, found⟩ (bytesOf s.toList) =
      ⟨distinct, .key (bytesOf s.toList).reverse, found⟩ := by
  have hequals : 0x3D ∉ bytesOf s.toList := h.byte_not_mem '=' (by decide)
  have hblank := h.not_blank
  match hbytes : bytesOf s.toList with
  | [] => exact absurd hbytes h.bytes_ne_nil
  | b :: bytes =>
    rw [hbytes] at hequals hblank
    have hfirst : step ⟨distinct, .gap, found⟩ b = ⟨distinct, .key [b], found⟩ := by
      simp [step, hblank b List.mem_cons_self]
    rw [run_cons, hfirst, List.reverse_cons]
    refine foldl_collect (fun run => AttrScan.mk distinct (.key run) found) ?_ [b]
    intro b hb run
    have hb₁ : ¬ b = 0x3D := fun he => hequals (he ▸ List.mem_cons_of_mem _ hb)
    simp [step, hb₁, hblank b (List.mem_cons_of_mem _ hb)]

/-- What is found of a printed attribute. -/
def pair (a : Attribute) : Bytes × Bytes :=
  (bytesOf a.key.toList, bytesOf (escape valueEscapes a.value.toList))

/-- An attribute is found, if its key is new. -/
theorem run_rawAttribute {key : String} (h : IsName key) {value : List Char}
    (hvalue : 0x22 ∉ bytesOf value) (hnew : ∀ p ∈ found, p.1 ≠ bytesOf key.toList) :
    AttrScan.run ⟨distinct, .gap, found⟩ (bytesOf (rawAttribute key value)) =
      ⟨distinct, .gap, (bytesOf key.toList, bytesOf value) :: found⟩ := by
  have hcollect : AttrScan.run ⟨distinct, .value (bytesOf key.toList) 0x22 [], found⟩
        (bytesOf value) =
      ⟨distinct, .value (bytesOf key.toList) 0x22 ((bytesOf value).reverse ++ []), found⟩ := by
    refine foldl_collect (fun run => AttrScan.mk distinct (.value _ 0x22 run) found) ?_ []
    intro b hb run
    have hb : ¬ b = 0x22 := fun he => hvalue (he ▸ hb)
    simp [step, hb]
  have hany : found.any (·.1 == bytesOf key.toList) = false := by
    refine List.any_eq_false.2 fun p hp => ?_
    simpa using hnew p hp
  have hequals : step ⟨distinct, .key (bytesOf key.toList).reverse, found⟩ 0x3D =
      ⟨distinct, .afterEquals (bytesOf key.toList), found⟩ := by
    simp [step, withKey, hany]
  rw [bytesOf_rawAttribute, run_cons]
  show AttrScan.run ⟨distinct, .gap, found⟩ _ = _
  rw [run_append, run_key h, run_cons, hequals, run_cons]
  show AttrScan.run ⟨distinct, .value (bytesOf key.toList) 0x22 [], found⟩ _ = _
  rw [run_append, hcollect, List.append_nil]
  show AttrScan.mk distinct .gap ((bytesOf key.toList, List.reverse (List.reverse _)) :: found) = _
  rw [List.reverse_reverse]

theorem run_printAttribute {a : Attribute} (h : IsName a.key)
    (hnew : ∀ p ∈ found, p.1 ≠ bytesOf a.key.toList) :
    AttrScan.run ⟨distinct, .gap, found⟩ (bytesOf (printAttribute a)) =
      ⟨distinct, .gap, pair a :: found⟩ :=
  run_rawAttribute h (quote_not_mem_value _) hnew

theorem run_attributes {attributes : List Attribute} : ∀ {found : List (Bytes × Bytes)},
    (∀ a ∈ attributes, IsName a.key) → (attributes.map (·.key)).Nodup →
      (∀ a ∈ attributes, ∀ p ∈ found, p.1 ≠ bytesOf a.key.toList) →
        AttrScan.run ⟨distinct, .gap, found⟩ (bytesOf (attributes.flatMap printAttribute)) =
          ⟨distinct, .gap, (attributes.map pair).reverse ++ found⟩ := by
  induction attributes with
  | nil =>
    intro found _ _ _
    rfl
  | cons a attributes ih =>
    intro found hkeys hdistinct hnew
    rw [List.map_cons, List.nodup_cons] at hdistinct
    rw [List.flatMap_cons, bytesOf_append, run_append,
      run_printAttribute (hkeys a List.mem_cons_self) (hnew a List.mem_cons_self),
      ih (fun a ha => hkeys a (List.mem_cons_of_mem _ ha)) hdistinct.2, List.map_cons,
      List.reverse_cons, List.append_assoc, List.singleton_append]
    intro a' ha' p hp
    rcases List.mem_cons.1 hp with rfl | hfound
    · intro he
      have hkey : a.key = a'.key := String.toList_inj.1 (bytesOf_injective he)
      refine hdistinct.1 ?_
      rw [hkey]
      exact List.mem_map_of_mem ha'
    · exact hnew a' (List.mem_cons_of_mem _ ha') p hfound

end AttrScan

/-- The attributes of a printed tag are found, without a fault. -/
theorem scanAttributes_printTag {name : String} {attributes : List Attribute}
    (h : IsTag name attributes) :
    scanAttributes true (tagRest (bytesOf (printTag name attributes))) =
      (attributes.map AttrScan.pair, none) := by
  have hrun := @AttrScan.run_attributes true attributes [] h.keys h.distinct fun a _ p hp => by
    cases hp
  rw [AttrScan.run, List.append_nil] at hrun
  rw [(tag_printTag h).2, scanAttributes, hrun, AttrScan.finish, List.reverse_reverse]

end Builtins
