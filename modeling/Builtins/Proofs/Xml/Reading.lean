import Builtins.Proofs.Xml.Building
import Builtins.Proofs.Xml.References
import Builtins.Proofs.Xml.Scanning
import Builtins.Xml.Reader

/-!
# Reading printed markup

Scanning and reading go hand in hand on printed text: after each piece of it the reader has passed on
the events of the piece, apart from some characters that the scanner still collects.

* `Reader.add` — the reader after more characters;
* `Reader.tag_printTag`, `Reader.startTag_printTag`, `Reader.endTag_name` — the reader at a tag;
* `Reader.At` — the reader that a scanner has come to;
* `Passes` — a text that is read as some events, whatever comes before it;
* `Passes.append`, `Passes.text`, `Passes.emptyTag`, `Passes.element` — the pieces of a printed forest.
-/

namespace Builtins

/-! ### Characters and references -/

theorem unifyLineEnds_of_not_mem {cs : List Char} (h : '\r' ∉ cs) : unifyLineEnds cs = cs := by
  fun_induction unifyLineEnds cs with
  | case1 => rfl
  | case2 rest _ => exact absurd List.mem_cons_self h
  | case3 rest _ _ => exact absurd List.mem_cons_self h
  | case4 c rest _ _ ih => rw [ih fun hmem => h (List.mem_cons_of_mem _ hmem)]

namespace Reader

variable {r : Reader} {cs ds : List Char}

/-- The reader after more characters. -/
def add (r : Reader) (cs : List Char) : Reader :=
  { r with builder := { r.builder with pending := r.builder.pending ++ String.ofList cs } }

theorem add_nil (r : Reader) : r.add [] = r := by
  simp [add]

theorem add_add (r : Reader) (cs ds : List Char) : (r.add cs).add ds = r.add (cs ++ ds) := by
  simp [add, String.ofList_append, String.append_assoc]

theorem characters_bytesOf (hr : r.encoding = .utf8) (h : '\r' ∉ cs) :
    r.characters (bytesOf cs) = .ok (r.add cs) := by
  have hdecode : r.decode (bytesOf cs) = .ok (String.ofList cs) := by
    rw [decode, hr, decode?_bytesOf]
  rw [characters, hdecode]
  show r.emit (.characters (String.ofList (unifyLineEnds (String.ofList cs).toList))) = _
  rw [String.toList_ofList, unifyLineEnds_of_not_mem h]
  rfl

/-- A reference is read as what it stands for, unless it is by a number of no character. -/
theorem reference_piece {name : List Char} (hr : r.encoding = .utf8) (hsemicolon : ';' ∉ name)
    (hampersand : '&' ∉ name)
    (hnumber : ∀ number, name = '#' :: number → ∃ c, parseCharRef number = .ok c) :
    r.reference (bytesOf name) = .ok (r.add (Piece.reference name hsemicolon hampersand).value) := by
  by_cases hnamed : ∀ number, name ≠ '#' :: number
  · have hresolved : resolveReference? name = predefinedEntity? name := by
      rw [resolveReference?]
      exact hnamed
    simp only [reference, hr, decode?_bytesOf, String.toList_ofList, Piece.value, hresolved]
    cases predefinedEntity? name with
    | some c => rfl
    | none =>
      have htext : "&" ++ String.ofList name ++ ";" = String.ofList ('&' :: (name ++ [';'])) := by
        rw [← String.toList_inj]
        simp
      simp only [htext]
      rfl
  · obtain ⟨number, rfl⟩ := not_forall_not.1 hnamed
    obtain ⟨c, hc⟩ := hnumber number rfl
    have hresolved : resolveReference? ('#' :: number) = some c := by
      rw [resolveReference?, hc]
      rfl
    simp only [reference, hr, decode?_bytesOf, String.toList_ofList, hc, Piece.value, hresolved]
    rfl

theorem reference_bytesOf {name : List Char} {c : Char} (hr : r.encoding = .utf8)
    (h : Refers name c) : r.reference (bytesOf name) = .ok (r.add [c]) := by
  have hvalue : (Piece.reference name h.semicolon h.ampersand).value = [c] := by
    simp only [Piece.value, h.resolved]
  rw [← hvalue]
  apply reference_piece hr h.semicolon h.ampersand
  rintro number rfl
  have hresolved : (parseCharRef number).toOption = some c := h.resolved
  cases hparsed : parseCharRef number with
  | ok x => exact ⟨x, rfl⟩
  | error fault =>
    rw [hparsed] at hresolved
    cases hresolved

end Reader

/-! ### Tags -/

namespace Builder

variable {b b' : Builder}

theorem pending_of_flush (h : b.flush = .ok b') : b'.pending = "" := by
  by_cases hpath : b.path = []
  · rw [flush_outside hpath] at h
    split at h
    · cases h
      rfl
    · cases h
  · rw [flush_inside hpath] at h
    cases h
    rfl

/-- Once settled, characters are settled. -/
theorem flush_flush (h : b.flush = .ok b') : b'.flush = .ok b' := by
  rw [flush, pending_of_flush h]
  rfl

/-- A tag settles the characters before it, so they may as well be settled already. -/
theorem exists_flush_of_tag {e : Event} (he : e.isTag = true) (h : b.step e = .ok b') :
    ∃ b₁, b.flush = .ok b₁ ∧ b₁.step e = .ok b' := by
  cases e with
  | start name attributes =>
    obtain ⟨b₁, h₁, hrest⟩ := bind_eq_ok h
    refine ⟨b₁, h₁, ?_⟩
    rw [step, flush_flush h₁]
    exact hrest
  | empty name attributes =>
    obtain ⟨b₁, h₁, hrest⟩ := bind_eq_ok h
    refine ⟨b₁, h₁, ?_⟩
    rw [step, flush_flush h₁]
    exact hrest
  | close => cases he
  | characters s => cases he
  | ignorable => cases he

end Builder

namespace Reader

variable {r : Reader} {name : String} {attributes : List Attribute} {b : Builder}

theorem readAttribute_pair (hr : r.encoding = .utf8) (a : Attribute) :
    r.readAttribute (AttrScan.pair a).1 (AttrScan.pair a).2 = .ok a := by
  have hdecode : ∀ cs, r.decode (bytesOf cs) = .ok (String.ofList cs) := by
    intro cs
    rw [decode, hr, decode?_bytesOf]
  rw [readAttribute, AttrScan.pair, hdecode, hdecode]
  show Except.ok (Attribute.mk (String.ofList a.key.toList) ((unescape? _).getD _)) = _
  rw [unescape?_escape, String.ofList_toList]
  rfl

theorem mapM_readAttribute (hr : r.encoding = .utf8) (attributes : List Attribute) :
    (attributes.map AttrScan.pair).mapM (fun p => r.readAttribute p.1 p.2) = .ok attributes := by
  induction attributes with
  | nil => rfl
  | cons a attributes ih =>
    rw [List.map_cons, List.mapM_cons, readAttribute_pair hr, ih]
    rfl

/-- A printed tag is read. -/
theorem tag_printTag (hr : r.encoding = .utf8) (h : IsTag name attributes) :
    r.tag (bytesOf (printTag name attributes)) = .ok (name, attributes) := by
  have hname : r.decode (tagName (bytesOf (printTag name attributes))) = .ok name := by
    rw [(Builtins.tag_printTag h).1, decode, hr, decode?_bytesOf, String.ofList_toList]
  rw [tag, hname, scanAttributes_printTag h]
  show (List.mapM _ _ >>= fun attributes => Except.ok (name, attributes)) = _
  rw [mapM_readAttribute hr]
  rfl

/-- A tag that closes itself is passed on as it is read. -/
theorem emptyTag_of_tag {content : Bytes}
    (htag : ∀ b, Reader.tag { r with builder := b } content = .ok (name, attributes))
    (hb : r.builder.step (.empty name attributes) = .ok b) :
    r.startTag content true = .ok { r with builder := b } := by
  obtain ⟨b₁, hflush, hstep⟩ := Builder.exists_flush_of_tag rfl hb
  rw [startTag, hflush]
  show (Reader.tag { r with builder := b₁ } _ >>= _) = _
  rw [htag b₁]
  show (b₁.step (.empty name attributes) >>= _) = _
  rw [hstep]
  rfl

theorem emptyTag_printTag (hr : r.encoding = .utf8) (h : IsTag name attributes)
    (hb : r.builder.step (.empty name attributes) = .ok b) :
    r.startTag (bytesOf (printTag name attributes)) true = .ok { r with builder := b } :=
  emptyTag_of_tag (fun _ => tag_printTag hr h) hb

theorem startTag_printTag (hr : r.encoding = .utf8) (h : IsTag name attributes)
    (hb : r.builder.step (.start name attributes) = .ok b) :
    r.startTag (bytesOf (printTag name attributes)) false =
      .ok { r with builder := b, names := bytesOf name.toList :: r.names } := by
  obtain ⟨b₁, hflush, hstep⟩ := Builder.exists_flush_of_tag rfl hb
  have htag : Reader.tag { r with builder := b₁ } (bytesOf (printTag name attributes)) =
      .ok (name, attributes) := tag_printTag hr h
  rw [startTag, hflush]
  show (Reader.tag { r with builder := b₁ } _ >>= _) = _
  rw [htag]
  show ((b₁.step (.start name attributes) >>= _) >>= _) = _
  rw [hstep, (Builtins.tag_printTag h).1]
  rfl

/-- An end tag closes the element of its name. -/
theorem endTag_name {names : List Bytes} (h : IsName name)
    (hnames : r.names = bytesOf name.toList :: names) (hb : r.builder.step .close = .ok b) :
    r.endTag (bytesOf name.toList) = .ok { r with builder := b, names := names } := by
  rw [endTag, endTagName_name h, hnames]
  show (if (bytesOf name.toList == bytesOf name.toList) = true then _ else _) = _
  rw [if_pos (beq_self_eq_true _)]
  show (r.builder.step .close >>= _) = _
  rw [hb]
  rfl

end Reader

/-! ### The reader behind a scanner -/

namespace Reader

variable {start r r' : Reader} {s : Scan}

/-- The reader that a scanner has come to: it has taken all tokens, and it is given the characters that
the scanner still collects. -/
def At (start : Reader) (s : Scan) (r : Reader) : Prop :=
  ∃ (cs : List Char) (r₁ : Reader), s.mode = .text (bytesOf cs).reverse ∧ '\r' ∉ cs ∧
    s.tokens.reverse.foldlM step start = .ok r₁ ∧ r₁.encoding = .utf8 ∧ r = r₁.add cs

theorem at_start (h : start.encoding = .utf8) : At start Scan.start start :=
  ⟨[], start, rfl, by simp, rfl, h, (add_nil start).symm⟩

theorem At.encoding (h : At start s r) : r.encoding = .utf8 := by
  obtain ⟨cs, r₁, -, -, -, hr₁, rfl⟩ := h
  exact hr₁

/-- The characters that a scanner has collected come after all tokens. -/
theorem foldlM_collected {tokens : List Token} {cs : List Char}
    (hfold : tokens.reverse.foldlM step start = .ok r) (hr : r.encoding = .utf8) (h : '\r' ∉ cs) :
    ((ScanMode.textToken (bytesOf cs).reverse).toList ++ tokens).reverse.foldlM step start =
      .ok (r.add cs) := by
  rw [ScanMode.textToken]
  split
  · rename_i hempty
    have hnil : cs = [] := bytesOf_eq_nil.1 (by simpa using hempty)
    rw [hnil, add_nil]
    exact hfold
  · rw [List.reverse_reverse, Option.toList_some, List.singleton_append, List.reverse_cons,
      List.foldlM_append, hfold]
    show (r.characters (bytesOf cs) >>= pure) = _
    rw [characters_bytesOf hr h]
    rfl

/-- Characters are collected. -/
theorem At.run_text {cs : List Char} (h : At start s r) (hangle : '<' ∉ cs) (hamp : '&' ∉ cs)
    (hreturn : '\r' ∉ cs) : At start (s.run (bytesOf cs)) (r.add cs) := by
  obtain ⟨ds, r₁, hmode, hds, hfold, hr₁, rfl⟩ := h
  obtain ⟨mode, tokens⟩ := s
  cases hmode
  have hrun := @Scan.run_text tokens (bytesOf ds).reverse (bytesOf cs)
    (byte_not_mem (by decide : '<'.toNat < 128) hangle)
    (byte_not_mem (by decide : '&'.toNat < 128) hamp)
  rw [hrun]
  refine ⟨ds ++ cs, r₁, ?_, ?_, hfold, hr₁, add_add r₁ ds cs⟩
  · rw [bytesOf_append, List.reverse_append]
  · rw [List.mem_append]
    exact fun hmem => hmem.elim hds hreturn

/-- A token is taken after the characters before it. -/
theorem At.run_token {bytes : Bytes} {token : Token} (h : At start s r)
    (hrun : ∀ tokens run, Scan.run ⟨.text run, tokens⟩ bytes = Scan.add tokens run token)
    (hstep : r.step token = .ok r') (hr' : r'.encoding = .utf8) : At start (s.run bytes) r' := by
  obtain ⟨cs, r₁, hmode, hcs, hfold, hr₁, rfl⟩ := h
  obtain ⟨mode, tokens⟩ := s
  cases hmode
  rw [hrun]
  refine ⟨[], r', rfl, by simp, ?_, hr', (add_nil r').symm⟩
  show (token :: ((ScanMode.textToken (bytesOf cs).reverse).toList ++ tokens)).reverse.foldlM _ _ = _
  rw [List.reverse_cons, List.foldlM_append, foldlM_collected hfold hr₁ hcs]
  show (step (r₁.add cs) token >>= pure) = _
  rw [hstep]
  rfl

/-- At the end all that is left are the characters that have been collected. -/
theorem At.finish (h : At start s r) :
    ∃ tokens, s.finish = (tokens, none) ∧ tokens.foldlM step start = .ok r := by
  obtain ⟨cs, r₁, hmode, hcs, hfold, hr₁, rfl⟩ := h
  obtain ⟨mode, tokens⟩ := s
  cases hmode
  exact ⟨_, rfl, foldlM_collected hfold hr₁ hcs⟩

end Reader

/-! ### Texts and their events -/

/-- A text that is read as some events, whatever comes before it. -/
def Passes (out : List Char) (events : List Event) : Prop :=
  ∀ (start r : Reader) (s : Scan) (b : Builder), events.foldlM Builder.step r.builder = .ok b →
    Reader.At start s r → Reader.At start (s.run (bytesOf out)) { r with builder := b }

namespace Passes

theorem nil : Passes [] [] := by
  intro start r s b hb h
  cases hb
  exact h

theorem append {xs ys : List Char} {es fs : List Event} (hx : Passes xs es) (hy : Passes ys fs) :
    Passes (xs ++ ys) (es ++ fs) := by
  intro start r s b hb h
  rw [List.foldlM_append] at hb
  obtain ⟨b₁, h₁, hrest⟩ := bind_eq_ok hb
  rw [bytesOf_append, Scan.run_append]
  exact hy start { r with builder := b₁ } _ b hrest (hx start r s b₁ h₁ h)

/-- A character that begins no markup is read as itself. -/
theorem character {c : Char} (hangle : c ≠ '<') (hamp : c ≠ '&') (hreturn : c ≠ '\r') :
    Passes [c] [.characters (String.singleton c)] := by
  intro start r s b hb h
  cases hb
  have hone : ∀ {x : Char}, c ≠ x → x ∉ [c] := fun hne hmem => hne (List.mem_singleton.1 hmem).symm
  rw [String.singleton_eq_ofList]
  exact h.run_text (hone hangle) (hone hamp) (hone hreturn)

/-- A reference is read as its character. -/
theorem reference {name : List Char} {c : Char} (hname : Refers name c) :
    Passes ('&' :: (name ++ [';'])) [.characters (String.singleton c)] := by
  intro start r s b hb h
  cases hb
  rw [String.singleton_eq_ofList]
  exact h.run_token (fun _ _ => Scan.run_reference hname)
    (Reader.reference_bytesOf h.encoding hname) h.encoding

/-- An escaped text is read character by character. -/
theorem text (cs : List Char) :
    Passes (escape textEscapes cs) (cs.map fun c => .characters (String.singleton c)) := by
  induction cs with
  | nil => exact nil
  | cons c cs ih =>
    rw [escape_cons]
    refine @append _ _ [_] _ ?_ ih
    rcases escape_singleton refers_text c with ⟨name, hname, hc⟩ | ⟨hnone, hc⟩
    · rw [hc]
      exact reference hname
    · have hne : ∀ {x : Char}, textEscapes.lookup x ≠ none → c ≠ x := by
        intro x hx he
        exact hx (he ▸ hnone)
      rw [hc]
      exact character (hne (by decide)) (hne (by decide)) (hne (by decide))

variable {name : String} {attributes : List Attribute}

/-- An element that closes itself is read. -/
theorem emptyTag (h : IsTag name attributes) :
    Passes ('<' :: (printTag name attributes ++ ['/', '>'])) [.empty name attributes] := by
  intro start r s b hb hat
  obtain ⟨b₁, h₁, hrest⟩ := bind_eq_ok hb
  cases hrest
  exact hat.run_token (fun _ _ => Scan.run_emptyTag h)
    (Reader.emptyTag_printTag hat.encoding h h₁) hat.encoding

/-- An element is read with what stands in it. -/
theorem element (h : IsTag name attributes) {inner : List Char} {events : List Event}
    (hinner : Passes inner events) :
    Passes ('<' :: (printTag name attributes ++ '>' :: (inner ++ '<' :: '/' ::
      (name.toList ++ ['>'])))) (.start name attributes :: (events ++ [.close])) := by
  intro start r s b hb hat
  obtain ⟨b₁, h₁, hrest⟩ := bind_eq_ok hb
  rw [List.foldlM_append] at hrest
  obtain ⟨b₂, h₂, hend⟩ := bind_eq_ok hrest
  obtain ⟨b₃, h₃, hlast⟩ := bind_eq_ok hend
  cases hlast
  -- The name is on the list of open elements just while the element is read.
  have hopened := hat.run_token (fun _ _ => Scan.run_startTag h)
    (Reader.startTag_printTag hat.encoding h h₁) hat.encoding
  have hfilled := hinner start _ _ b₂ h₂ hopened
  have hclose := @Reader.endTag_name
    { r with builder := b₂, names := bytesOf name.toList :: r.names } name b r.names h.name rfl h₃
  have hclosed := hfilled.run_token (fun _ _ => Scan.run_endTag h.name) hclose hat.encoding
  have hout : '<' :: (printTag name attributes ++ '>' :: (inner ++ '<' :: '/' ::
      (name.toList ++ ['>']))) = ('<' :: (printTag name attributes ++ ['>'])) ++
        (inner ++ '<' :: '/' :: (name.toList ++ ['>'])) := by simp
  rw [hout, bytesOf_append, bytesOf_append, Scan.run_append, Scan.run_append]
  exact hclosed

end Passes

end Builtins
