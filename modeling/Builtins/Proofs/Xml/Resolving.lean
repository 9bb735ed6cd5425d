import Builtins.Proofs.Xml.Pieces
import Builtins.Proofs.Xml.RoundTrip

/-!
# References in values and in content

The same text may be the value of an attribute and the content of an element. Content is resolved one
reference at a time; a value is resolved as a whole, so that one unknown reference keeps the known ones
beside it from being replaced.

* `Reader.Lost` — a scanner and its reader that have met a fault, `Loses` — a text that has one;
* `Piece.passes_or_loses`, `sources_pass_or_lose` — a text made of pieces is read piece by piece, or
  it has a fault;
* `parseDocument_content`, `exists_pieces_of_content` — the document with a text as content;
* `Passes.rawTag`, `parseDocument_value` — the document with a text as a value;
* `value_eq_content_iff` — when both stand for the same.
-/

namespace Builtins

/-! ### Faults that stay -/

namespace Reader

variable {start r : Reader} {s : Scan}

/-- Whether there is a fault already, in the markup or in a token. -/
def Lost (start : Reader) (s : Scan) : Prop :=
  (∃ fault, s.mode = .failed fault) ∨ ∃ fault, s.tokens.reverse.foldlM step start = .error fault

/-- Nothing that follows makes up for a fault. -/
theorem Lost.run (h : Lost start s) (bytes : Bytes) : Lost start (s.run bytes) := by
  obtain ⟨mode, tokens⟩ := s
  rcases h with ⟨fault, hmode⟩ | ⟨fault, hfold⟩
  · refine .inl ⟨fault, ?_⟩
    cases hmode
    induction bytes with
    | nil => rfl
    | cons b bytes ih => exact ih
  · refine .inr ⟨fault, ?_⟩
    have hrun := Scan.run_tokens bytes mode [] tokens
    rw [List.nil_append] at hrun
    rw [hrun, List.reverse_append, List.foldlM_append, hfold]
    rfl

/-- A text with a fault is no document. -/
theorem Lost.parseDocument {bytes : Bytes} (hsource : sourceOf bytes = .ok ⟨bytes, .utf8, true⟩)
    (h : Lost (Reader.start ⟨bytes, .utf8, true⟩) (Scan.start.run bytes)) (d : Document) :
    parseDocument bytes ≠ .ok d := by
  intro hparse
  obtain ⟨source, hsource', hread⟩ := bind_eq_ok hparse
  obtain rfl := Except.ok.inj (hsource.symm.trans hsource')
  rcases hscan : scan bytes with ⟨tokens, fault?⟩
  rw [show scan (Source.mk bytes .utf8 true).bytes = scan bytes from rfl, hscan] at hread
  obtain ⟨r, hfold, hend⟩ := bind_eq_ok hread
  rcases h with ⟨fault, hmode⟩ | ⟨fault, hlost⟩
  · have hfault : fault? = ((Scan.start.run bytes).mode.finish).2 := (congrArg Prod.snd hscan).symm
    rw [hmode] at hfault
    subst hfault
    cases hend
  · have htokens : tokens = (Scan.start.run bytes).tokens.reverse ++
        (Scan.start.run bytes).mode.finish.1.toList.reverse :=
      (congrArg Prod.fst hscan).symm.trans List.reverse_append
    rw [htokens, List.foldlM_append, hlost] at hfold
    cases hfold

/-- A token that is not taken is a fault. -/
theorem At.lost {bytes : Bytes} {token : Token} {fault : XmlFault} (h : At start s r)
    (hrun : ∀ tokens run, Scan.run ⟨.text run, tokens⟩ bytes = Scan.add tokens run token)
    (hstep : r.step token = .error fault) : Lost start (s.run bytes) := by
  obtain ⟨cs, r₁, hmode, hcs, hfold, hr₁, rfl⟩ := h
  obtain ⟨mode, tokens⟩ := s
  cases hmode
  rw [hrun]
  refine .inr ⟨fault, ?_⟩
  show (token :: ((ScanMode.textToken (bytesOf cs).reverse).toList ++ tokens)).reverse.foldlM _ _ = _
  rw [List.reverse_cons, List.foldlM_append, foldlM_collected hfold hr₁ hcs]
  show (step (r₁.add cs) token >>= pure) = _
  rw [hstep]
  rfl

theorem reference_of_error {number : List Char} {fault : CharRefFault} (hr : r.encoding = .utf8)
    (h : parseCharRef number = .error fault) :
    r.reference (bytesOf ('#' :: number)) = .error (.markup (.characterReference fault)) := by
  simp only [reference, hr, decode?_bytesOf, String.toList_ofList, h]

end Reader

/-- A text that has a fault, whatever comes before it. -/
def Loses (out : List Char) : Prop :=
  ∀ (start r : Reader) (s : Scan), Reader.At start s r → Reader.Lost start (s.run (bytesOf out))

theorem Loses.append {xs : List Char} (h : Loses xs) (ys : List Char) : Loses (xs ++ ys) := by
  intro start r s hat
  rw [bytesOf_append, Scan.run_append]
  exact (h start r s hat).run _

/-- Characters do not keep a reader from coming to a fault. -/
theorem Loses.after {xs ys : List Char} {text : String} (hx : Passes xs [.characters text])
    (hy : Loses ys) : Loses (xs ++ ys) := by
  intro start r s hat
  rw [bytesOf_append, Scan.run_append]
  exact hy start _ _ (hx start r s _ rfl hat)

/-! ### Pieces -/

theorem Passes.characters_nil : Passes [] [.characters ""] := by
  intro start r s b hb hat
  cases hb
  rw [String.append_empty]
  exact hat

/-- Characters that follow each other are read as one text. -/
theorem Passes.characters_append {xs ys : List Char} {s t : String}
    (hx : Passes xs [.characters s]) (hy : Passes ys [.characters t]) :
    Passes (xs ++ ys) [.characters (s ++ t)] := by
  intro start r scanned b hb hat
  refine (hx.append hy) start r scanned b ?_ hat
  cases hb
  rw [← String.append_assoc]
  rfl

/-- A piece is read as what it stands for, or it is a fault. -/
theorem Piece.passes_or_loses {p : Piece} (hangle : '<' ∉ p.source) (hreturn : '\r' ∉ p.source) :
    Passes p.source [.characters (String.ofList p.value)] ∨ Loses p.source := by
  cases p with
  | plain c hc =>
    have hone : ∀ {x : Char}, x ∉ [c] → c ≠ x := fun hx he => hx (List.mem_singleton.2 he.symm)
    exact .inl (Passes.character (hone hangle) hc (hone hreturn))
  | reference name hsemicolon hampersand =>
    have hname : '<' ∉ name := fun hmem => hangle (by simp [Piece.source, hmem])
    have hrun : ∀ tokens run, Scan.run ⟨.text run, tokens⟩ (bytesOf ('&' :: (name ++ [';']))) =
        Scan.add tokens run (.reference (bytesOf name)) :=
      fun _ _ => Scan.run_named hsemicolon hampersand hname
    by_cases hnumber : ∀ number, name = '#' :: number → ∃ c, parseCharRef number = .ok c
    · refine .inl fun start r s b hb hat => ?_
      cases hb
      exact hat.run_token hrun
        (Reader.reference_piece hat.encoding hsemicolon hampersand hnumber) hat.encoding
    · simp only [not_forall] at hnumber
      obtain ⟨number, rfl, hnone⟩ := hnumber
      refine .inr fun start r s hat => ?_
      cases hc : parseCharRef number with
      | ok c => exact absurd ⟨c, hc⟩ hnone
      | error fault => exact hat.lost hrun (Reader.reference_of_error hat.encoding hc)

/-- A text made of pieces is read as what they stand for, or it has a fault. -/
theorem sources_pass_or_lose (ps : List Piece) (hangle : '<' ∉ sources ps)
    (hreturn : '\r' ∉ sources ps) :
    Passes (sources ps) [.characters (String.ofList (values ps))] ∨ Loses (sources ps) := by
  induction ps with
  | nil => exact .inl Passes.characters_nil
  | cons p ps ih =>
    rw [sources_cons] at hangle hreturn ⊢
    rw [List.mem_append, not_or] at hangle hreturn
    rcases Piece.passes_or_loses hangle.1 hreturn.1 with hp | hp
    · rcases ih hangle.2 hreturn.2 with hps | hps
      · rw [values_cons, String.ofList_append]
        exact .inl (hp.characters_append hps)
      · exact .inr (hps.after hp)
    · exact .inr (hp.append _)

/-- A reference that is not closed is a fault, whether another one or a tag comes next. -/
theorem loses_unclosed {name : List Char} (hsemicolon : ';' ∉ name) (hampersand : '&' ∉ name)
    (hangle : '<' ∉ name) {c : Char} (hc : c = '&' ∨ c = '<') (rest : List Char) :
    Loses ('&' :: (name ++ c :: rest)) := by
  rintro start r s ⟨cs, r₁, hmode, -⟩
  obtain ⟨mode, tokens⟩ := s
  cases hmode
  have hfailed : ∀ run tokens, ∃ fault, (Scan.run ⟨.reference run, tokens⟩ (bytesOf [c])).mode =
      .failed fault := by
    intro run tokens
    rcases hc with rfl | rfl
    · exact ⟨.unclosedReference, rfl⟩
    · exact ⟨.unclosedReference, rfl⟩
  rw [Scan.run_name hsemicolon hampersand hangle, show c :: rest = [c] ++ rest from rfl,
    bytesOf_append, Scan.run_append]
  exact Reader.Lost.run (.inl (hfailed _ _)) _

/-! ### A text as content -/

/-- The document with a text as content. -/
theorem bytesOf_content (v : String) :
    utf8 ("<r>" ++ v ++ "</r>") =
      bytesOf ('<' :: (printTag "r" [] ++ '>' :: (v.toList ++ '<' :: '/' ::
        ("r".toList ++ ['>'])))) := by
  rw [utf8_eq_bytesOf, String.toList_append, String.toList_append, List.append_assoc]
  rfl

theorem isTag_content : IsTag "r" [] := ⟨by decide, by simp, by simp⟩

theorem sourceOf_content (v : String) :
    sourceOf (utf8 ("<r>" ++ v ++ "</r>")) = .ok ⟨utf8 ("<r>" ++ v ++ "</r>"), .utf8, true⟩ := by
  rw [bytesOf_content, bytesOf_ascii (by decide)]
  exact sourceOf_angle (isTag_content.second_byte _ (by decide))

/-- What is read as a tree holds it. -/
theorem Passes.exists_holds {out : List Char} {events : List Event} {t : Tree}
    (h : Passes out events) (hsource : sourceOf (bytesOf out) = .ok ⟨bytesOf out, .utf8, true⟩)
    (hevents : Describes events t) : ∃ d, Builtins.parseDocument (bytesOf out) = .ok d ∧ d.Holds t :=
  ⟨⟨t.entries.toArray⟩, h.parseDocument hsource hevents.build, Document.holds_of_entries rfl⟩

theorem textContent_textThen (s : String) (f : Forest) :
    (textThen s f).textContent = s ++ f.textContent := by
  rw [textThen]
  split
  · rename_i hs
    rw [String.isEmpty_iff.1 hs, String.empty_append]
  · rfl

/-- What is read as characters is the text of the element. -/
theorem parseDocument_content {v text : String} (h : Passes v.toList [.characters text]) :
    ∃ d, parseDocument (utf8 ("<r>" ++ v ++ "</r>")) = .ok d ∧
      d.Holds ⟨"r", [], textThen text .nil⟩ := by
  have htext : Spells "" [.characters text] (textThen text .nil) := by
    have hfinish := Spells.finish ("" ++ text)
    rw [String.empty_append] at hfinish
    exact .characters (by rwa [String.empty_append])
  have hdescribes : Describes [.start "r" [], .characters text, .close]
      ⟨"r", [], textThen text .nil⟩ :=
    ⟨_, .element htext (.finish ""), rfl, fun s hs => by cases hs⟩
  have hsource := sourceOf_content v
  rw [bytesOf_content] at hsource ⊢
  exact (Passes.element isTag_content h).exists_holds hsource hdescribes

/-- A fault in the content is one of the document. -/
theorem parseDocument_of_loses {v : String} (h : Loses (v.toList ++ ['<', '/', 'r', '>']))
    (d : Document) : parseDocument (utf8 ("<r>" ++ v ++ "</r>")) ≠ .ok d := by
  apply Reader.Lost.parseDocument (sourceOf_content v)
  generalize hsource : Source.mk (utf8 ("<r>" ++ v ++ "</r>")) .utf8 true = source
  have hencoding : source.encoding = .utf8 := by rw [← hsource]
  have hopened := (@Reader.at_start (Reader.start source) hencoding).run_token
    (fun _ _ => Scan.run_startTag isTag_content)
    (Reader.startTag_printTag hencoding isTag_content rfl) hencoding
  have hout : '<' :: (printTag "r" [] ++ '>' :: (v.toList ++ '<' :: '/' :: ("r".toList ++ ['>']))) =
      ('<' :: (printTag "r" [] ++ ['>'])) ++ (v.toList ++ ['<', '/', 'r', '>']) := rfl
  rw [bytesOf_content, hout, bytesOf_append, Scan.run_append]
  exact h _ _ _ hopened

/-- A text that is the content of a document is made of pieces, and read piece by piece. -/
theorem exists_pieces_of_content {v : String} (hangle : '<' ∉ v.toList) (hreturn : '\r' ∉ v.toList)
    {d : Document} (hd : parseDocument (utf8 ("<r>" ++ v ++ "</r>")) = .ok d) :
    ∃ ps, v.toList = sources ps ∧ Passes v.toList [.characters (String.ofList (values ps))] := by
  rcases exists_pieces v.toList with ⟨ps, hps⟩ | ⟨ps, name, rest, hps, hsemicolon, hampersand, hrest⟩
  · rw [hps] at hangle hreturn
    rcases sources_pass_or_lose ps hangle hreturn with hpass | hlose
    · exact ⟨ps, hps, hps ▸ hpass⟩
    · exact absurd hd (parseDocument_of_loses (hps ▸ hlose.append _) d)
  · -- The reference runs into the next one, or into the end tag.
    have hend : ∃ c rest', (c = '&' ∨ c = '<') ∧ rest ++ ['<', '/', 'r', '>'] = c :: rest' := by
      rcases hrest with rfl | ⟨rest', rfl⟩
      · exact ⟨'<', _, .inr rfl, rfl⟩
      · exact ⟨'&', _, .inl rfl, rfl⟩
    obtain ⟨c, rest', hc, hcrest⟩ := hend
    rw [hps] at hangle hreturn
    simp only [List.mem_append, List.mem_cons, not_or] at hangle hreturn
    have hlose : Loses (v.toList ++ ['<', '/', 'r', '>']) := by
      have hunclosed := loses_unclosed hsemicolon hampersand hangle.2.2.1 hc rest'
      rw [hps, List.append_assoc, List.cons_append, List.append_assoc, hcrest]
      rcases sources_pass_or_lose ps hangle.1 hreturn.1 with hpass | hlose
      · exact hunclosed.after hpass
      · exact hlose.append _
    exact absurd hd (parseDocument_of_loses hlose d)

/-! ### A text as a value -/

namespace Reader

variable {r : Reader} {name key : String} {value : List Char}

/-- A value is resolved as a whole, or it stays as it is written. -/
theorem tag_rawAttribute (hr : r.encoding = .utf8) (hname : IsName name) (hkey : IsName key)
    (hvalue : '"' ∉ value) :
    r.tag (bytesOf (name.toList ++ rawAttribute key value)) =
      .ok (name, [⟨key, (unescape? (String.ofList value)).getD (String.ofList value)⟩]) := by
  have hdecode : ∀ cs, r.decode (bytesOf cs) = .ok (String.ofList cs) := by
    intro cs
    rw [decode, hr, decode?_bytesOf]
  have hparts := @tag_append (bytesOf name.toList) (bytesOf (rawAttribute key value)) hname.not_blank
    (by rw [bytesOf_rawAttribute]; simp; rfl)
  rw [← bytesOf_append] at hparts
  have hscan : scanAttributes true (bytesOf (rawAttribute key value)) =
      ([(bytesOf key.toList, bytesOf value)], none) := by
    have hrun := @AttrScan.run_rawAttribute true [] key hkey value
      (byte_not_mem (by decide : '"'.toNat < 128) hvalue) (by simp)
    rw [scanAttributes]
    show (AttrScan.run _ _).finish = _
    rw [hrun]
    rfl
  have hread : r.readAttribute (bytesOf key.toList) (bytesOf value) =
      .ok ⟨key, (unescape? (String.ofList value)).getD (String.ofList value)⟩ := by
    rw [readAttribute, hdecode, hdecode, String.ofList_toList]
    rfl
  rw [tag, hparts.1, hparts.2, hdecode, hscan, String.ofList_toList]
  show (List.mapM _ _ >>= fun attributes => Except.ok (name, attributes)) = _
  rw [List.mapM_cons, hread]
  rfl

end Reader

/-- A tag with a value is read. -/
theorem Passes.rawTag {name key : String} (hname : IsName name) (hkey : IsName key)
    {value : List Char} (hvalue : '"' ∉ value) :
    Passes ('<' :: (name.toList ++ rawAttribute key value ++ ['/', '>']))
      [.empty name [⟨key, (unescape? (String.ofList value)).getD (String.ofList value)⟩]] := by
  intro start r s b hb hat
  obtain ⟨b₁, h₁, hrest⟩ := bind_eq_ok hb
  cases hrest
  have htag := inTag_rawAttribute hkey (byte_not_mem (by decide : '"'.toNat < 128) hvalue)
  exact hat.run_token (fun _ _ => Scan.run_emptyContent hname htag)
    (Reader.emptyTag_of_tag (fun _ => Reader.tag_rawAttribute hat.encoding hname hkey hvalue) h₁)
    hat.encoding

/-- The value of an attribute is resolved if all its references are known. -/
theorem parseDocument_value {v : String} (hquote : '"' ∉ v.toList) :
    ∃ d, parseDocument (utf8 ("<r a=\"" ++ v ++ "\"/>")) = .ok d ∧
      d.Holds ⟨"r", [⟨"a", (unescape? v).getD v⟩], .nil⟩ := by
  have hbytes : utf8 ("<r a=\"" ++ v ++ "\"/>") =
      bytesOf ('<' :: ("r".toList ++ rawAttribute "a" v.toList ++ ['/', '>'])) := by
    rw [utf8_eq_bytesOf, String.toList_append, String.toList_append, rawAttribute]
    simp
  have hpasses := @Passes.rawTag "r" "a" (by decide) (by decide) v.toList hquote
  rw [String.ofList_toList] at hpasses
  rw [hbytes]
  refine hpasses.exists_holds ?_ ⟨_, .empty (.finish ""), rfl, fun s hs => by cases hs⟩
  have hsecond : (bytesOf ("r".toList ++ rawAttribute "a" v.toList ++ ['/', '>']))[1]? = some 0x20 := by
    rw [rawAttribute, List.append_assoc]
    show (bytesOf ('r' :: ' ' :: _))[1]? = _
    rw [bytesOf_ascii (by decide), bytesOf_ascii (by decide)]
    rfl
  rw [bytesOf_ascii (by decide)]
  apply sourceOf_angle
  rw [hsecond]
  decide

/-! ### Both in one -/

/-- A text as a value and as content. Content is what its pieces stand for; the value is the same if no
reference is unknown, and else it stays as it is written, with the known references in it. -/
theorem value_eq_content_iff {v : String} (hangle : '<' ∉ v.toList) (hquote : '"' ∉ v.toList)
    (hreturn : '\r' ∉ v.toList) {d d' : Document}
    (hd : parseDocument (utf8 ("<r a=\"" ++ v ++ "\"/>")) = .ok d)
    (hd' : parseDocument (utf8 ("<r>" ++ v ++ "</r>")) = .ok d') (load load' : UInt64) :
    ∃ ps : List Piece, v.toList = sources ps ∧
      (Node.rootOf load' d').textContent = String.ofList (values ps) ∧
      (Node.rootOf load d).attribute? "a" =
        some (if ps.any Piece.isUnknown then v else String.ofList (values ps)) ∧
      ((Node.rootOf load d).attribute? "a" = some (Node.rootOf load' d').textContent ↔
        ps.any Piece.isUnknown = false ∨ ps.any Piece.isKnown = false) := by
  obtain ⟨ps, hps, hpasses⟩ := exists_pieces_of_content hangle hreturn hd'
  have hunescape : (unescape? v).getD v =
      if ps.any Piece.isUnknown then v else String.ofList (values ps) := by
    rw [unescape?, hps, unescapeFrom_sources]
    cases ps.any Piece.isUnknown with
    | true => rfl
    | false => rfl
  have hvalue : (Node.rootOf load d).attribute? "a" =
      some (if ps.any Piece.isUnknown then v else String.ofList (values ps)) := by
    obtain ⟨found, hfound, hholds⟩ := parseDocument_value hquote
    obtain rfl := Except.ok.inj (hd.symm.trans hfound)
    cases hholds.root load with
    | element _ _ hattribute _ _ _ =>
      rw [hattribute, ← hunescape]
      rfl
  have hcontent : (Node.rootOf load' d').textContent = String.ofList (values ps) := by
    obtain ⟨found, hfound, hholds⟩ := parseDocument_content hpasses
    obtain rfl := Except.ok.inj (hd'.symm.trans hfound)
    cases hholds.root load' with
    | element _ _ _ htext _ _ =>
      rw [htext, textContent_textThen]
      exact String.append_empty
  refine ⟨ps, hps, hcontent, hvalue, ?_⟩
  rw [hvalue, hcontent, Option.some.injEq]
  cases hunknown : ps.any Piece.isUnknown with
  | false => simp
  | true =>
    have hv : v = String.ofList (sources ps) := by rw [← hps, String.ofList_toList]
    simp only [if_true, Bool.true_eq_false, false_or]
    rw [← values_eq_sources, hv]
    exact ⟨fun he => (String.ofList_injective he).symm, fun he => by rw [he]⟩

/-- A named and a numbered reference are resolved in both places. -/
theorem value_eq_content_iff_known :
    let v := "a&lt;&#66;"
    ∃ d d', parseDocument (utf8 ("<r a=\"" ++ v ++ "\"/>")) = .ok d ∧
      parseDocument (utf8 ("<r>" ++ v ++ "</r>")) = .ok d' ∧
      (Node.rootOf 0 d').textContent = "a<B" ∧
      ∃ ps : List Piece, v.toList = sources ps ∧
        (Node.rootOf 0 d').textContent = String.ofList (values ps) ∧
        (Node.rootOf 0 d).attribute? "a" =
          some (if ps.any Piece.isUnknown then v else String.ofList (values ps)) ∧
        ((Node.rootOf 0 d).attribute? "a" = some (Node.rootOf 0 d').textContent ↔
          ps.any Piece.isUnknown = false ∨ ps.any Piece.isKnown = false) := by
  intro v
  refine ⟨⟨#[⟨0, .document⟩, ⟨1, .element "r" [⟨"a", "a<B"⟩]⟩]⟩,
    ⟨#[⟨0, .document⟩, ⟨1, .element "r" []⟩, ⟨2, .text "a<B"⟩]⟩, ?_, ?_, ?_, ?_⟩
  · decide +kernel
  · decide +kernel
  · decide +kernel
  · exact value_eq_content_iff (by decide) (by decide) (by decide) (by decide +kernel)
      (by decide +kernel) 0 0

/-- A known reference beside an unknown one is resolved in content but not in a value. -/
theorem value_ne_content_of_mixed :
    let v := "&lt;&nbsp;"
    '<' ∉ v.toList ∧ '"' ∉ v.toList ∧ '\r' ∉ v.toList ∧
      ∃ d d', parseDocument (utf8 ("<r a=\"" ++ v ++ "\"/>")) = .ok d ∧
        parseDocument (utf8 ("<r>" ++ v ++ "</r>")) = .ok d' ∧
        (Node.rootOf 0 d).attribute? "a" = some "&lt;&nbsp;" ∧
        (Node.rootOf 0 d').textContent = "<&nbsp;" ∧
        (Node.rootOf 0 d).attribute? "a" ≠ some (Node.rootOf 0 d').textContent := by
  intro v
  refine ⟨by decide, by decide, by decide,
    ⟨#[⟨0, .document⟩, ⟨1, .element "r" [⟨"a", "&lt;&nbsp;"⟩]⟩]⟩,
    ⟨#[⟨0, .document⟩, ⟨1, .element "r" []⟩, ⟨2, .text "<&nbsp;"⟩]⟩, ?_, ?_, ?_, ?_, ?_⟩
  · decide +kernel
  · decide +kernel
  · decide +kernel
  · decide +kernel
  · decide +kernel

end Builtins
