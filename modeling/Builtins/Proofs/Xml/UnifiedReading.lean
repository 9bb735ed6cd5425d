import Builtins.Proofs.Encoding.LineEnds
import Builtins.Proofs.Xml.Attributes
import Builtins.Proofs.Xml.Transcoding
import Builtins.Proofs.Xml.UnifiedTag
import Builtins.Proofs.Xml.UnifiedTree
import Builtins.Proofs.Xml.UnifiedValue

/-!
# Reading texts with unified line ends

A text is read before and after its line ends are unified, and its documents are alike. They are the same
unless a carriage return stands where the reader keeps it: in the value of an attribute, or in a reference that
is unknown.

* `Token.keepsReturn` — a token with such a carriage return;
* `Reader.Alike` — readers at the same point of both texts;
* `Reader.Alike.step` — one token, `Reader.Alike.read` — the rest of a text;
* `parseDocument_unifyLineEnds` — whole texts;
* `parseDocument_ne_of_return` — a carriage return that makes a difference.
-/

namespace Builtins

/-- A carriage return that is kept: in the value of an attribute, or in the name of a reference. -/
def Token.keepsReturn : Token → Bool
  | .reference name => name.contains 0x0D
  | .startTag content _ => (writtenAttributes content).any (·.2.contains 0x0D)
  | _ => false

/-- The encoding that a token declares. -/
def Token.declared? : Token → Option Encoding
  | .instruction content => Reader.declaredEncoding? content
  | _ => none

namespace Reader

/-- Readers at the same point of a text before and after its line ends are unified. What they have built
differs in line ends; they decode alike, and the names of the open elements have no line end. -/
structure Alike (r r' : Reader) : Prop where
  encoding : r'.encoding = r.encoding
  declarable : r'.declarable = r.declarable
  names : r'.names = r.names
  builder : r.builder.Alike r'.builder
  ascii : r.encoding.KeepsAscii
  plain : ∀ name ∈ r.names, ∀ b ∈ name, byteEnd.Free b

namespace Alike

variable {r r' : Reader} {content : Bytes}

/-- Readers at the same point are the same if they have built the same. -/
theorem eq_iff (h : r.Alike r') : r' = r ↔ r'.builder = r.builder := by
  obtain ⟨encoding, declarable, names, builder⟩ := r
  obtain ⟨encoding', declarable', names', builder'⟩ := r'
  have hencoding : encoding' = encoding := h.encoding
  have hdeclarable : declarable' = declarable := h.declarable
  have hnames : names' = names := h.names
  simp [hencoding, hdeclarable, hnames]

theorem withBuilder (h : r.Alike r') {b b' : Builder} (hb : b.Alike b') :
    Alike { r with builder := b } { r' with builder := b' } ∧
      ({ r' with builder := b' } = { r with builder := b } ↔ b' = b) := by
  have halike : Alike { r with builder := b } { r' with builder := b' } :=
    ⟨h.encoding, h.declarable, h.names, hb, h.ascii, h.plain⟩
  exact ⟨halike, halike.eq_iff⟩

/-! ### Text -/

theorem decode (h : r.Alike r') (bytes : Bytes) : r'.decode bytes = r.decode bytes := by
  rw [Reader.decode, Reader.decode, h.encoding]

theorem decode_unify (h : r.Alike r') {s : String} (hs : r.encoding.decode? content = some s) :
    r'.encoding.decode? (byteEnd.squeeze content) = some (String.ofList (charEnd.squeeze s.toList)) := by
  rw [h.encoding]
  exact Encoding.decode?_unify h.ascii hs

theorem emit (h : r.Alike r') {e e' : Event} (he : e.Alike e') :
    Follows Alike (r' = r ∧ e' = e) (r.emit e) (r'.emit e') := by
  rw [h.eq_iff]
  refine (h.builder.step he).bind_same fun b b' _ hb => ?_
  obtain ⟨halike, hsame⟩ := h.withBuilder hb
  exact .ok halike hsame

/-- Character content is the same after its line ends are unified once more. -/
theorem characters (h : r.Alike r') (content : Bytes) :
    Follows Alike (r' = r) (r.characters content) (r'.characters (byteEnd.squeeze content)) := by
  intro r₁ h₁
  obtain ⟨s, hs, hemit⟩ := bind_eq_ok h₁
  have hs' := h.decode_unify (decode_eq_ok.1 hs)
  have htwice : unifyLineEnds (charEnd.squeeze s.toList) = unifyLineEnds s.toList := by
    rw [← unifyLineEnds_eq_squeeze, unifyLineEnds_unifyLineEnds]
  obtain ⟨r₁', hemit', halike, hsame⟩ :=
    h.emit (.characters (Unifies.refl (String.ofList (unifyLineEnds s.toList)).toList) (.inl rfl)) r₁ hemit
  refine ⟨r₁', ?_, halike, hsame.trans (and_iff_left rfl)⟩
  rw [Reader.characters, decode_eq_ok.2 hs']
  show r'.emit (.characters (String.ofList (unifyLineEnds (String.ofList _).toList))) = _
  rw [String.toList_ofList, htwice, hemit']

end Alike

/-! ### References -/

/-- What a reference is read as: its character, or itself if it is unknown. -/
def shownReference (s : String) : String :=
  match resolveReference? s.toList with
  | some x => String.singleton x
  | none => "&" ++ s ++ ";"

section References

variable {r r₁ : Reader} {name : Bytes} {s : String}

theorem resolveReference?_number (digits : List Char) :
    resolveReference? ('#' :: digits) = (parseCharRef digits).toOption := rfl

theorem resolveReference?_name {cs : List Char} (h : ∀ digits, cs ≠ '#' :: digits) :
    resolveReference? cs = predefinedEntity? cs := by
  rw [resolveReference?]
  exact h

/-- A reference that is read is known, or has a name. -/
theorem reference_eq_ok (h : r.reference name = .ok r₁) : ∃ s, r.encoding.decode? name = some s ∧
    (s.toList.head? = some '#' → (resolveReference? s.toList).isSome) := by
  unfold reference at h
  split at h
  · cases h
  · rename_i s hs
    refine ⟨s, hs, fun hhead => ?_⟩
    obtain ⟨digits, hdigits⟩ := List.head?_eq_some_iff.1 hhead
    rw [hdigits] at h
    rw [hdigits, resolveReference?_number]
    cases hparse : parseCharRef digits with
    | ok x => rfl
    | error fault =>
      simp only [hparse] at h
      cases h

theorem reference_of_decode (hs : r.encoding.decode? name = some s)
    (hnumber : s.toList.head? = some '#' → (resolveReference? s.toList).isSome) :
    r.reference name = r.emit (.characters (shownReference s)) := by
  by_cases hnamed : ∀ digits, s.toList ≠ '#' :: digits
  · simp only [reference, hs, shownReference, resolveReference?_name hnamed]
    cases predefinedEntity? s.toList with
    | some x => rfl
    | none => rfl
  · obtain ⟨digits, hdigits⟩ := not_forall_not.1 hnamed
    rw [hdigits, resolveReference?_number] at hnumber
    simp only [reference, hs, shownReference, hdigits, resolveReference?_number]
    cases hparse : parseCharRef digits with
    | ok x => rfl
    | error fault =>
      rw [hparse] at hnumber
      cases hnumber rfl

/-- What a reference is read as differs in line ends exactly if its name has a carriage return. -/
theorem unifies_shownReference (s : String) :
    Unifies (shownReference s).toList (shownReference (String.ofList (charEnd.squeeze s.toList))).toList ∧
      (shownReference (String.ofList (charEnd.squeeze s.toList)) = shownReference s ↔ '\r' ∉ s.toList) ∧
      (shownReference (String.ofList (charEnd.squeeze s.toList)) = shownReference s ∨
        ¬ Blank (shownReference s)) := by
  rw [shownReference, shownReference, String.toList_ofList, resolveReference?_unify]
  cases hresolve : resolveReference? s.toList with
  | some x =>
    have hno : '\r' ∉ s.toList := fun hmem => (free_of_resolveReference? hresolve _ hmem).1 rfl
    exact ⟨.refl _, iff_of_true rfl hno, .inl rfl⟩
  | none =>
    obtain ⟨hunifies, hsame⟩ := Unifies.squeeze s.toList
    have hshown : ∀ t : String, ("&" ++ t ++ ";").toList = '&' :: (t.toList ++ [';']) := by simp
    refine ⟨?_, ?_, .inr fun hblank => ?_⟩
    · rw [hshown, hshown, String.toList_ofList]
      exact .keep '&' (hunifies.append (.refl _))
    · rw [← String.toList_inj, hshown, hshown, String.toList_ofList, List.cons_inj_right,
        List.append_left_inj, hsame]
    · have hamp : isBlank '&' = true := hblank '&' (by rw [hshown]; exact List.mem_cons_self)
      cases hamp

/-- A reference is read as the same exactly if its name has no carriage return. -/
theorem Alike.reference {r' : Reader} (h : r.Alike r') (name : Bytes) :
    Follows Alike (r' = r ∧ name.contains 0x0D = false) (r.reference name)
      (r'.reference (byteEnd.squeeze name)) := by
  intro r₁ h₁
  obtain ⟨s, hs, hnumber⟩ := reference_eq_ok h₁
  have hs' := h.decode_unify hs
  have hnumber' : (String.ofList (charEnd.squeeze s.toList)).toList.head? = some '#' →
      (resolveReference? (String.ofList (charEnd.squeeze s.toList)).toList).isSome := by
    rw [String.toList_ofList, LineEnd.head?_squeeze_eq (by decide), resolveReference?_unify]
    exact hnumber
  obtain ⟨hunifies, hsame, hsolid⟩ := unifies_shownReference s
  rw [reference_of_decode hs hnumber] at h₁
  rw [reference_of_decode hs' hnumber']
  refine (h.emit (.characters hunifies hsolid)).congr (and_congr_right' ?_) r₁ h₁
  rw [Event.characters.injEq, hsame, Encoding.return_mem_iff h.ascii hs]
  simp

end References

/-! ### Tags -/

section Tags

variable {r r' : Reader}

namespace Alike

/-- An attribute is read as the same exactly if its value has no carriage return. -/
theorem readAttribute (h : r.Alike r') (key value : Bytes) :
    Follows Attribute.Alike (value.contains 0x0D = false) (r.readAttribute key value)
      (r'.readAttribute key (byteEnd.squeeze value)) := by
  intro a ha
  obtain ⟨k, hkey, ha⟩ := bind_eq_ok ha
  obtain ⟨raw, hraw, ha⟩ := bind_eq_ok ha
  cases ha
  have hvalue : (unescape? raw).getD raw = valueOf raw := rfl
  obtain ⟨hunifies, hsame⟩ := unifies_valueOf raw
  rw [hvalue]
  refine ⟨⟨k, valueOf (String.ofList (charEnd.squeeze raw.toList))⟩, ?_,
    Attribute.alike_of_unifies k hunifies, ?_⟩
  · rw [Reader.readAttribute, h.decode, hkey, decode_eq_ok.2 (h.decode_unify (decode_eq_ok.1 hraw))]
    rfl
  · rw [Attribute.mk.injEq, and_iff_right rfl]
    refine hsame.trans ?_
    rw [Encoding.return_mem_iff h.ascii (decode_eq_ok.1 hraw)]
    simp

theorem readAttributes (h : r.Alike r') (pairs : List (Bytes × Bytes)) :
    Follows (List.Forall₂ Attribute.Alike) (pairs.any (·.2.contains 0x0D) = false)
      (pairs.mapM fun p => r.readAttribute p.1 p.2)
      ((pairs.map unifyPair).mapM fun p => r'.readAttribute p.1 p.2) := by
  induction pairs with
  | nil => exact .ok .nil (iff_of_true rfl rfl)
  | cons p pairs ih =>
    rw [List.map_cons, List.mapM_cons, List.mapM_cons]
    have hrest : ∀ a a', Attribute.Alike a a' →
        Follows (List.Forall₂ Attribute.Alike) (a' = a ∧ pairs.any (·.2.contains 0x0D) = false)
          (pairs.mapM (fun p => r.readAttribute p.1 p.2) >>= fun as => .ok (a :: as))
          ((pairs.map unifyPair).mapM (fun p => r'.readAttribute p.1 p.2) >>= fun as => .ok (a' :: as)) := by
      intro a a' ha
      refine (ih.bind fun as as' _ has => ?_).congr and_comm
      refine .ok (.cons ha has) ?_
      rw [List.cons.injEq, and_comm]
    refine ((h.readAttribute p.1 p.2).bind fun a a' _ ha => hrest a a' ha).congr ?_
    rw [List.any_cons, Bool.or_eq_false_iff]

/-- The name of a tag is the same, its attributes are so exactly if no value has a carriage return. -/
theorem tag (h : r.Alike r') (content : Bytes) :
    Follows (fun p p' => p'.1 = p.1 ∧ List.Forall₂ Attribute.Alike p.2 p'.2)
      ((writtenAttributes content).any (·.2.contains 0x0D) = false) (r.tag content)
      (r'.tag (byteEnd.squeeze content)) := by
  rcases hscan : scanAttributes true (tagRest content) with ⟨pairs, fault?⟩
  rw [Reader.tag, Reader.tag, tagName_unify, tagRest_unify, scanAttributes_unify, hscan, h.decode]
  dsimp only
  cases hname : r.decode (tagName content) with
  | error fault => exact .error
  | ok name =>
    cases fault? with
    | some fault =>
      intro p hp
      obtain ⟨name, -, hp⟩ := bind_eq_ok hp
      obtain ⟨attributes, -, hp⟩ := bind_eq_ok hp
      cases hp
    | none =>
      have hwritten : writtenAttributes content = pairs :=
        congrArg Prod.fst (scanAttributes_of_sound hscan).2
      rw [hwritten]
      refine (h.readAttributes pairs).bind_same fun as as' _ has => ?_
      exact .ok ⟨rfl, has⟩ (by simp)

/-- One more open element. -/
theorem withName (h : r.Alike r') {name : Bytes} (hname : ∀ b ∈ name, byteEnd.Free b) :
    Alike { r with names := name :: r.names } { r' with names := name :: r'.names } ∧
      (({ r' with names := name :: r'.names } : Reader) = { r with names := name :: r.names } ↔ r' = r) := by
  have halike : Alike { r with names := name :: r.names } { r' with names := name :: r'.names } :=
    ⟨h.encoding, h.declarable, congrArg (name :: ·) h.names, h.builder, h.ascii,
      List.forall_mem_cons.2 ⟨hname, h.plain⟩⟩
  refine ⟨halike, ?_⟩
  rw [halike.eq_iff, h.eq_iff]

/-- A tag that is read opens its element, or makes one that is closed already. -/
theorem opening (h : r.Alike r') (content : Bytes) (selfClosing : Bool) (name : String)
    {attributes attributes' : List Attribute} (ha : List.Forall₂ Attribute.Alike attributes attributes') :
    Follows Alike (r' = r ∧ attributes' = attributes)
      (if selfClosing then r.emit (.empty name attributes) else
        r.emit (.start name attributes) >>= fun r => .ok { r with names := tagName content :: r.names })
      (if selfClosing then r'.emit (.empty name attributes') else
        r'.emit (.start name attributes') >>= fun r => .ok { r with names := tagName content :: r.names }) := by
  cases selfClosing with
  | true => exact (h.emit (.empty name ha)).congr (by simp)
  | false =>
    have hfree : ∀ b ∈ tagName content, byteEnd.Free b := fun b hb =>
      free_of_not_blank (by simpa using List.mem_takeWhile_imp hb)
    refine ((h.emit (.start name ha)).bind_same fun r₁ r₁' _ h₁ => ?_).congr (by simp)
    obtain ⟨halike, hsame⟩ := h₁.withName hfree
    exact .ok halike hsame

/-- A start tag makes the same element exactly if no value has a carriage return. -/
theorem startTag (h : r.Alike r') (content : Bytes) (selfClosing : Bool) :
    Follows Alike (r' = r ∧ (writtenAttributes content).any (·.2.contains 0x0D) = false)
      (r.startTag content selfClosing) (r'.startTag (byteEnd.squeeze content) selfClosing) := by
  rw [h.eq_iff]
  refine h.builder.flush.bind fun b b' _ hb => ?_
  obtain ⟨hflushed, hsame⟩ := h.withBuilder hb
  refine ((hflushed.tag content).bind fun p p' _ hp => ?_).congr and_comm
  obtain ⟨name, attributes⟩ := p
  obtain ⟨name', attributes'⟩ := p'
  obtain ⟨hname, ha⟩ : name' = name ∧ List.Forall₂ Attribute.Alike attributes attributes' := hp
  subst hname
  dsimp only
  rw [tagName_unify]
  refine (hflushed.opening content selfClosing name' ha).congr ?_
  rw [hsame, Prod.mk.injEq, and_iff_right rfl, and_comm]

/-- An end tag has the name of the open element before and after, as the name has no line end. -/
theorem endTag (h : r.Alike r') (content : Bytes) :
    Follows Alike (r' = r) (r.endTag content) (r'.endTag (byteEnd.squeeze content)) := by
  rw [Reader.endTag, Reader.endTag, h.names, endTagName_unify]
  dsimp only
  split
  · exact .error
  · rename_i expected names hnames
    -- No name has a line end, so the names of both tags match before exactly if they match after.
    have hplain : ∀ b ∈ expected, byteEnd.Free b :=
      h.plain expected (by rw [hnames]; exact List.mem_cons_self)
    have hfound : (expected == byteEnd.squeeze (endTagName content)) = (expected == endTagName content) := by
      rw [Bool.eq_iff_iff, beq_iff_eq, beq_iff_eq, eq_comm, LineEnd.squeeze_eq_iff hplain, eq_comm]
    have hclosed : Alike { r with names } { r' with names } :=
      ⟨h.encoding, h.declarable, rfl, h.builder, h.ascii, fun name hname =>
        h.plain name (by rw [hnames]; exact List.mem_cons_of_mem _ hname)⟩
    rw [hfound]
    split
    · refine (hclosed.emit .close).congr ?_
      rw [and_iff_left rfl, hclosed.eq_iff, h.eq_iff]
    · exact .error

end Alike

end Tags

/-! ### Tokens -/

namespace Alike

variable {r r' : Reader}

/-- An instruction declares the same encoding before and after. -/
theorem instruction (h : r.Alike r') (content : Bytes)
    (hdeclared : r.declarable = true → ∀ e, declaredEncoding? content = some e → e.KeepsAscii) :
    (r.instruction content).Alike (r'.instruction (byteEnd.squeeze content)) ∧
      (r'.instruction (byteEnd.squeeze content) = r.instruction content ↔ r' = r) := by
  have halike : (r.instruction content).Alike (r'.instruction (byteEnd.squeeze content)) := by
    rw [Reader.instruction, Reader.instruction, h.declarable, declaredEncoding?_unify]
    split
    · rename_i hdeclarable
      split
      · rename_i e he
        exact ⟨rfl, rfl, h.names, h.builder, hdeclared hdeclarable e he, h.plain⟩
      · exact h
    · exact h
  refine ⟨halike, ?_⟩
  rw [halike.eq_iff, h.eq_iff, builder_instruction, builder_instruction]

/-- A token does the same before and after, up to the carriage returns that it keeps. -/
theorem step (h : r.Alike r') (t : Token)
    (hdeclared : r.declarable = true → ∀ e, t.declared? = some e → e.KeepsAscii) :
    Follows Alike (r' = r ∧ t.keepsReturn = false) (r.step t) (r'.step t.unify) := by
  have hignorable : ∀ {r r' : Reader}, r.Alike r' →
      Follows Alike (r' = r ∧ false = false) (r.emit .ignorable) (r'.emit .ignorable) := fun h =>
    (h.emit .ignorable).congr (by simp)
  cases t with
  | text content => exact (h.characters content).congr (and_iff_left rfl).symm
  | reference name => exact h.reference name
  | cdata content => exact (h.characters content).congr (and_iff_left rfl).symm
  | startTag content selfClosing => exact h.startTag content selfClosing
  | endTag content => exact (h.endTag content).congr (and_iff_left rfl).symm
  | instruction content =>
    obtain ⟨halike, hsame⟩ := h.instruction content hdeclared
    exact (hignorable halike).congr (and_congr_left' hsame)
  | comment => exact hignorable h
  | doctype => exact hignorable h

end Alike

/-- What may still be declared has not been declared yet. -/
theorem declarable_of_step {r r₁ : Reader} {t : Token} (h : r.step t = .ok r₁)
    (hdeclarable : r₁.declarable = true) : r.declarable = true ∧ t.declared? = none := by
  by_cases hignores : r.Ignores t
  · have hbefore : r.declarable = true := (settled_of_step hignores h).declarable ▸ hdeclarable
    refine ⟨hbefore, ?_⟩
    cases t with
    | instruction content => exact hignores hbefore content rfl
    | _ => rfl
  · obtain ⟨hbefore, hdeclares⟩ := Classical.not_imp.1 hignores
    simp only [not_forall] at hdeclares
    obtain ⟨content, rfl, hdeclares⟩ := hdeclares
    obtain ⟨e, he⟩ := Option.ne_none_iff_exists'.1 hdeclares
    have hinstruction : r.instruction content = { r with encoding := e, declarable := false } := by
      rw [instruction, if_pos hbefore, he]
    obtain ⟨b, -, rfl⟩ := emit_eq_ok (show (r.instruction content).emit .ignorable = .ok r₁ from h)
    rw [hinstruction] at hdeclarable
    cases hdeclarable

/-- All tokens of a text that keeps ASCII. -/
theorem Alike.run {tokens : List Token} : ∀ {r r' : Reader}, r.Alike r' →
    (r.declarable = true → ∀ e, tokens.findSome? Token.declared? = some e → e.KeepsAscii) →
      Follows Alike (r' = r ∧ ∀ t ∈ tokens, t.keepsReturn = false) (tokens.foldlM Reader.step r)
        ((tokens.map Token.unify).foldlM Reader.step r') := by
  induction tokens with
  | nil =>
    intro r r' h _
    exact .ok h (by simp)
  | cons t tokens ih =>
    intro r r' h hdeclared
    rw [List.map_cons, List.foldlM_cons, List.foldlM_cons]
    have hstep := h.step t fun hdeclarable e he =>
      hdeclared hdeclarable e (by rw [List.findSome?_cons, he])
    refine (hstep.bind fun r₁ r₁' h₁ halike => ih halike fun hdeclarable e he => ?_).congr ?_
    -- Where an encoding may still be declared, the first declaration is among the tokens that follow.
    · obtain ⟨hbefore, hnone⟩ := declarable_of_step h₁ hdeclarable
      exact hdeclared hbefore e (by rw [List.findSome?_cons, hnone, he])
    · rw [List.forall_mem_cons, and_assoc]

/-- The rest of a text that keeps ASCII. -/
theorem Alike.read {r r' : Reader} (h : r.Alike r') (bytes : Bytes)
    (hdeclared : r.declarable = true →
      ∀ e, (scan bytes).1.findSome? Token.declared? = some e → e.KeepsAscii) :
    Follows Document.Alike (r' = r ∧ ∀ t ∈ (scan bytes).1, t.keepsReturn = false) (r.read bytes)
      (r'.read (byteEnd.squeeze bytes)) := by
  rw [Reader.read, Reader.read, scan_unify]
  dsimp only
  refine (h.run hdeclared).bind_same fun r₁ r₁' _ h₁ => ?_
  split
  · exact .error
  · exact h₁.builder.finish.congr h₁.eq_iff.symm

end Reader

/-! ### Whole texts -/

section Sources

variable {bytes : Bytes}

/-- What a text in UTF-16 starts with. -/
def utf16Marks : List Bytes :=
  [[0xFE, 0xFF], [0xFF, 0xFE], [0x00, 0x3C, 0x00, 0x3F], [0x3C, 0x00, 0x3F, 0x00]]

theorem utf16Content?_eq_none_iff :
    utf16Content? bytes = none ↔ ∀ mark ∈ utf16Marks, ¬ mark <+: bytes := by
  constructor
  · rintro h mark hmark ⟨rest, rfl⟩
    simp only [utf16Marks, List.mem_cons, List.not_mem_nil, or_false] at hmark
    rcases hmark with rfl | rfl | rfl | rfl
    all_goals cases h
  · intro h
    unfold utf16Content?
    split
    · exact absurd ⟨_, rfl⟩ (h [0xFE, 0xFF] (by decide))
    · exact absurd ⟨_, rfl⟩ (h [0xFF, 0xFE] (by decide))
    · exact absurd ⟨_, rfl⟩ (h [0x00, 0x3C, 0x00, 0x3F] (by decide))
    · exact absurd ⟨_, rfl⟩ (h [0x3C, 0x00, 0x3F, 0x00] (by decide))
    · rfl

/-- No text is taken for UTF-16 only after its line ends are unified. -/
theorem utf16Content?_unify (h : utf16Content? bytes = none) :
    utf16Content? (byteEnd.squeeze bytes) = none := by
  have hfree : ∀ mark ∈ utf16Marks, (mark.all fun b => decide (byteEnd.Free b)) = true := by decide
  refine utf16Content?_eq_none_iff.2 fun mark hmark hprefix => ?_
  have hstarts : mark <+: bytes := (LineEnd.prefix_squeeze (LineEnd.free_of_all (hfree mark hmark))).1 hprefix
  exact utf16Content?_eq_none_iff.1 h mark hmark hstarts

theorem dropMark_unify (bytes : Bytes) :
    dropMark (byteEnd.squeeze bytes) = byteEnd.squeeze (dropMark bytes) := by
  have hfree : ∀ b ∈ ([0xEF, 0xBB, 0xBF] : Bytes), byteEnd.Free b := LineEnd.free_of_all (by decide)
  have hunmarked : ∀ {bytes : Bytes}, ¬ [0xEF, 0xBB, 0xBF] <+: bytes → dropMark bytes = bytes := by
    intro bytes h
    unfold dropMark
    split
    · exact absurd ⟨_, rfl⟩ h
    · rfl
  by_cases hmark : [0xEF, 0xBB, 0xBF] <+: bytes
  · obtain ⟨rest, rfl⟩ := hmark
    rw [LineEnd.squeeze_append_free hfree]
    rfl
  · rw [hunmarked hmark, hunmarked fun hprefix => hmark ((LineEnd.prefix_squeeze hfree).1 hprefix)]

end Sources

/-- The tokens of a text. -/
def tokensOf (x : String) : List Token := (scan (dropMark (utf8 x))).1

/-- A text that is not taken for UTF-16, and that declares an encoding in which ASCII stands for itself, if any. -/
structure KeepsAscii (x : String) : Prop where
  start : utf16Content? (utf8 x) = none
  declared : ∀ e ∈ (tokensOf x).findSome? Token.declared?, e.KeepsAscii

instance (x : String) : Decidable (KeepsAscii x) :=
  decidable_of_iff (utf16Content? (utf8 x) = none ∧
    ∀ e ∈ (tokensOf x).findSome? Token.declared?, e.KeepsAscii)
    ⟨fun h => ⟨h.1, h.2⟩, fun h => ⟨h.start, h.declared⟩⟩

/-- A text is read as a document that is alike after its line ends are unified, and as the same one exactly if
no value of an attribute and no name of a reference has a carriage return. -/
theorem parseDocument_unifyLineEnds {x : String} {d : Document} (hx : KeepsAscii x)
    (h : parseDocument (utf8 x) = .ok d) :
    ∃ d', parseDocument (utf8 (String.ofList (unifyLineEnds x.toList))) = .ok d' ∧ d.Alike d' ∧
      (d' = d ↔ ∀ t ∈ tokensOf x, t.keepsReturn = false) := by
  have hbytes : utf8 (String.ofList (unifyLineEnds x.toList)) = byteEnd.squeeze (utf8 x) := by
    rw [utf8_eq_bytesOf, utf8_eq_bytesOf, squeeze_bytesOf, String.toList_ofList, unifyLineEnds_eq_squeeze]
  have hsource : ∀ {bytes}, utf16Content? bytes = none →
      sourceOf bytes = .ok ⟨dropMark bytes, .utf8, true⟩ := by
    intro bytes hnone
    rw [sourceOf, hnone]
  have hstart : (Reader.start ⟨dropMark (utf8 x), .utf8, true⟩).Alike
      (Reader.start ⟨byteEnd.squeeze (dropMark (utf8 x)), .utf8, true⟩) :=
    ⟨rfl, rfl, rfl, ⟨rfl, .cons ⟨rfl, .document⟩ .nil, .nil, .inl rfl⟩,
      (by decide : Encoding.utf8.KeepsAscii), fun _ hname => by cases hname⟩
  rw [parseDocument_eq_read (hsource hx.start)] at h
  rw [hbytes, parseDocument_eq_read (hsource (utf16Content?_unify hx.start)), dropMark_unify]
  obtain ⟨d', hd', halike, hsame⟩ := hstart.read _ (fun _ => hx.declared) d h
  exact ⟨d', hd', halike, hsame.trans (and_iff_right rfl)⟩

/-- Carriage returns in all places that a text has, but for values and names of references. -/
theorem parseDocument_unifyLineEnds_mixed :
    let x := "<?xml version='1.0'\r\n?>\r<r\r\n  a = 'x&#13;'\r>p\r\r\n<!-- \r -->" ++
      "<![CDATA[q\r]]>&#xD;\n<e\r/></r\r\n>\r"
    let d : Document := ⟨#[⟨0, .document⟩, ⟨1, .element "r" [⟨"a", "x\r"⟩]⟩, ⟨2, .text "p\n\nq\n\r\n"⟩,
      ⟨2, .element "e" []⟩]⟩
    KeepsAscii x ∧ parseDocument (utf8 x) = .ok d ∧ (∀ t ∈ tokensOf x, t.keepsReturn = false) ∧
      ∃ d', parseDocument (utf8 (String.ofList (unifyLineEnds x.toList))) = .ok d' ∧ d.Alike d' ∧
        (d' = d ↔ ∀ t ∈ tokensOf x, t.keepsReturn = false) := by
  intro x d
  have hx : KeepsAscii x := by decide +kernel
  have hparse : parseDocument (utf8 x) = .ok d := by decide +kernel
  exact ⟨hx, hparse, by decide +kernel, parseDocument_unifyLineEnds hx hparse⟩

/-- A carriage return in the value of an attribute makes a difference. -/
theorem parseDocument_ne_of_return :
    let x := "<r a=\"x\r\ny\"/>"
    KeepsAscii x ∧ String.ofList (unifyLineEnds x.toList) = "<r a=\"x\ny\"/>" ∧
      ∃ d d', parseDocument (utf8 x) = .ok d ∧ parseDocument (utf8 "<r a=\"x\ny\"/>") = .ok d' ∧
        (Node.rootOf 0 d).attribute? "a" = some "x\r\ny" ∧
        (Node.rootOf 0 d').attribute? "a" = some "x\ny" ∧ d' ≠ d := by
  intro x
  refine ⟨by decide +kernel, by decide +kernel, ⟨#[⟨0, .document⟩, ⟨1, .element "r" [⟨"a", "x\r\ny"⟩]⟩]⟩,
    ⟨#[⟨0, .document⟩, ⟨1, .element "r" [⟨"a", "x\ny"⟩]⟩]⟩, ?_, ?_, ?_, ?_, ?_⟩
  · decide +kernel
  · decide +kernel
  · decide +kernel
  · decide +kernel
  · decide +kernel

end Builtins
