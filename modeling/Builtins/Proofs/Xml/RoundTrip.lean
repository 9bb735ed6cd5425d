import Builtins.Proofs.Xml.Reading
import Builtins.Proofs.Xml.Showing

/-!
# Printed documents are read back

What is printed of a tree is read as this tree, in whichever of its forms it is printed.

* `Printed.passes` — a printed forest is read as events that spell the forest;
* `sourceOf_printed` — a printed tree is not taken for text in UTF-16;
* `parseDocument_printed` — a printed tree is read back.
-/

namespace Builtins

theorem textThen_empty (f : Forest) : textThen "" f = f := rfl

/-- Characters come to those that are pending. -/
theorem Spells.prepend {events : List Event} {f : Forest} (cs : List Char) : ∀ {s : String},
    Spells (s ++ String.ofList cs) events f →
      Spells s (cs.map (fun c => .characters (String.singleton c)) ++ events) f := by
  induction cs with
  | nil =>
    intro s h
    rwa [String.ofList_nil, String.append_empty] at h
  | cons c cs ih =>
    intro s h
    refine .characters (ih ?_)
    rwa [String.singleton_eq_ofList, String.append_assoc, ← String.ofList_append,
      List.singleton_append]

/-- A printed forest is read as events that spell it, after characters that are not next to a text. -/
theorem Printed.passes {f : Forest} {out : List Char} (h : Printed f out) : f.Canonical →
    ∃ events, Passes out events ∧
      ∀ s, s = "" ∨ f.startsWithText = false → Spells s events (textThen s f) := by
  induction h with
  | nil =>
    intro _
    exact ⟨[], Passes.nil, fun s _ => .finish s⟩
  | @text s rest out _ ih =>
    intro hcanonical
    obtain ⟨hs, hfirst, hrest⟩ := hcanonical
    obtain ⟨events, hpasses, hspells⟩ := ih hrest
    refine ⟨_, (Passes.text s.toList).append hpasses, fun p hp => ?_⟩
    have hempty : p = "" := hp.resolve_right (by simp [Forest.startsWithText])
    have hthen : textThen s rest = .text s rest := by
      rw [textThen, if_neg fun he => hs (String.isEmpty_iff.1 he)]
    subst hempty
    refine .prepend s.toList ?_
    rw [String.ofList_toList, String.empty_append, textThen_empty, ← hthen]
    exact hspells s (.inr hfirst)
  | @short name attributes rest out _ ih =>
    intro hcanonical
    obtain ⟨htag, -, hrest⟩ := hcanonical
    obtain ⟨events, hpasses, hspells⟩ := ih hrest
    have hout : '<' :: (printTag name attributes ++ '/' :: '>' :: out) =
        ('<' :: (printTag name attributes ++ ['/', '>'])) ++ out := by simp
    rw [hout]
    exact ⟨_, (Passes.emptyTag htag).append hpasses, fun s _ => .empty (hspells "" (.inl rfl))⟩
  | @long name attributes below rest inner out _ _ ihb ihr =>
    intro hcanonical
    obtain ⟨htag, hbelow, hrest⟩ := hcanonical
    obtain ⟨inside, hinside, hspellsInside⟩ := ihb hbelow
    obtain ⟨events, hpasses, hspells⟩ := ihr hrest
    have hout : '<' :: (printTag name attributes ++ '>' :: (inner ++ '<' :: '/' ::
        (name.toList ++ '>' :: out))) =
          ('<' :: (printTag name attributes ++ '>' :: (inner ++ '<' :: '/' ::
            (name.toList ++ ['>'])))) ++ out := by simp
    rw [hout]
    refine ⟨_, (Passes.element htag hinside).append hpasses, fun s _ => ?_⟩
    have hspelled := @Spells.element s name attributes inside events below rest
      (hspellsInside "" (.inl rfl)) (hspells "" (.inl rfl))
    simpa using hspelled

/-! ### The first bytes -/

/-- What begins with an angle bracket is taken for UTF-16 only if a question mark follows soon. -/
theorem sourceOf_angle {bytes : Bytes} (h : bytes[1]? ≠ some 0x3F) :
    sourceOf (0x3C :: bytes) = .ok ⟨0x3C :: bytes, .utf8, true⟩ := by
  have hnone : utf16Content? (0x3C :: bytes) = none := by
    unfold utf16Content?
    split
    · rename_i heq
      cases heq
    · rename_i heq
      cases heq
    · rename_i heq
      cases heq
    · rename_i heq
      cases heq
      exact absurd rfl h
    · rfl
  rw [sourceOf, hnone]
  rfl

/-- No question mark is the second byte of a printed tag, whether it ends there or not. -/
theorem IsTag.second_byte {name : String} {attributes : List Attribute} (h : IsTag name attributes)
    {last : Char} (rest : List Char) (hlast : last ∈ ['/', '>']) :
    (bytesOf (printTag name attributes ++ last :: rest))[1]? ≠ some 0x3F := by
  have hname : 0x3F ∉ bytesOf name.toList := h.name.byte_not_mem '?' (by decide)
  have hafter : (bytesOf (attributes.flatMap printAttribute ++ last :: rest)).head? ≠ some 0x3F := by
    cases attributes with
    | nil =>
      rw [List.flatMap_nil, List.nil_append]
      simp only [List.mem_cons, List.not_mem_nil, or_false] at hlast
      rcases hlast with rfl | rfl
      · rw [bytesOf_ascii (by decide), List.head?_cons]
        decide
      · rw [bytesOf_ascii (by decide), List.head?_cons]
        decide
    | cons a attributes =>
      rw [List.flatMap_cons, List.append_assoc, bytesOf_append, bytesOf_printAttribute,
        List.cons_append, List.head?_cons]
      decide
  rw [printTag, List.append_assoc, bytesOf_append]
  cases hbytes : bytesOf name.toList with
  | nil => exact absurd hbytes h.name.bytes_ne_nil
  | cons b bytes =>
    rw [List.cons_append, List.getElem?_cons_succ, ← List.head?_eq_getElem?]
    cases bytes with
    | nil => exact hafter
    | cons b' bytes =>
      intro he
      have hb : b' = 0x3F := by simpa using he
      exact hname (by simp [hbytes, hb])

/-- A printed tree is not taken for text in UTF-16. -/
theorem sourceOf_printed {t : Tree} {out : List Char} (ht : t.alone.Canonical)
    (h : Printed t.alone out) : sourceOf (bytesOf out) = .ok ⟨bytesOf out, .utf8, true⟩ := by
  obtain ⟨name, attributes, below⟩ := t
  have htag : IsTag name attributes := ht.1
  cases h with
  | short hrest =>
    rw [bytesOf_ascii (by decide)]
    exact sourceOf_angle (htag.second_byte _ (by decide))
  | long hbelow hrest =>
    rw [bytesOf_ascii (by decide)]
    exact sourceOf_angle (htag.second_byte _ (by decide))

/-! ### Whole documents -/

/-- A document is what the reader has built when the scanner has found no fault. -/
theorem parseDocument_of_scan {bytes : Bytes} {source : Source} {tokens : List Token} {r : Reader}
    (hsource : sourceOf bytes = .ok source) (hscan : scan source.bytes = (tokens, none))
    (hfold : tokens.foldlM Reader.step (Reader.start source) = .ok r) :
    parseDocument bytes = r.builder.finish := by
  simp only [parseDocument, hsource, bind, Except.bind, hscan, hfold]

/-- A text is read as the document that its events build. -/
theorem Passes.parseDocument {out : List Char} {events : List Event} {d : Document}
    (h : Passes out events) (hsource : sourceOf (bytesOf out) = .ok ⟨bytesOf out, .utf8, true⟩)
    (hd : buildDocument events = .ok d) : parseDocument (bytesOf out) = .ok d := by
  obtain ⟨b, hfold, hfinish⟩ := bind_eq_ok hd
  have hat := h (Reader.start ⟨bytesOf out, .utf8, true⟩) _ Scan.start b hfold (Reader.at_start rfl)
  obtain ⟨tokens, hscan, htokens⟩ := hat.finish
  rw [parseDocument_of_scan hsource hscan htokens]
  exact hfinish

/-- A printed tree is read back, in whichever form it is printed. -/
theorem parseDocument_printed {t : Tree} {out : List Char} (ht : t.alone.Canonical)
    (h : Printed t.alone out) :
    ∃ d, parseDocument (utf8 (String.ofList out)) = .ok d ∧ d.Holds t := by
  obtain ⟨events, hpasses, hspells⟩ := h.passes ht
  have hdescribes : Describes events t := ⟨t.alone, hspells "" (.inl rfl), rfl, by
    intro s hs
    cases hs⟩
  refine ⟨⟨t.entries.toArray⟩, ?_, Document.holds_of_entries rfl⟩
  rw [utf8_ofList]
  exact hpasses.parseDocument (sourceOf_printed ht h) hdescribes.build

/-- Text in an element, a quoted quote in a value, and an element that closes itself. -/
theorem parseDocument_printed_nested :
    ∃ d, parseDocument (utf8 (String.ofList "<a k=\"&quot;&lt;\">x&#13;<b/></a>".toList)) = .ok d ∧
      d.Holds ⟨"a", [⟨"k", "\"<"⟩], .text "x\r" (.element "b" [] .nil .nil)⟩ :=
  @parseDocument_printed ⟨"a", [⟨"k", "\"<"⟩], .text "x\r" (.element "b" [] .nil .nil)⟩ _
    ⟨⟨by decide, by decide, by decide⟩, ⟨by decide, rfl, ⟨⟨by decide, by decide, by decide⟩,
      trivial, trivial⟩⟩, trivial⟩
    (.long "a" _ (.text "x\r" (.short "b" [] .nil)) .nil)

end Builtins
