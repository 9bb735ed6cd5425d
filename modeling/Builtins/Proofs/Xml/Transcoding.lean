import Builtins.Fault
import Builtins.Proofs.Xml.Parsed
import Builtins.Proofs.Xml.Pieces
import Builtins.Proofs.Xml.WidenedTag

/-!
# Reading transcoded text

A reader that decodes with one encoding finds in a text what a reader of UTF-8 finds in the transcoded
text, as long as no declaration changes the encoding on the way.

* `Reader.read` — the rest of a text, `parseDocument_eq_read` — a whole text;
* `ReadAlike` — texts that are read as the same document, or malformed for the same reason;
* `Reader.step_inUtf8` — one token, `Reader.settled_of_step` — what stays as it is;
* `Reader.read_inUtf8` — the rest of a text;
* `Reader.read_declared` — a text that begins with an instruction.
-/

namespace Builtins

/-! ### Readers of whole texts -/

/-- Reads the rest of a text. -/
def Reader.read (r : Reader) (bytes : Bytes) : Except XmlFault Document := do
  let r ← (scan bytes).1.foldlM Reader.step r
  match (scan bytes).2 with
  | some fault => .error (.markup fault)
  | none => r.builder.finish

theorem parseDocument_eq_read {bytes : Bytes} {source : Source} (h : sourceOf bytes = .ok source) :
    parseDocument bytes = (Reader.start source).read source.bytes := by
  rw [parseDocument, h]
  rfl

/-- Two texts are read as the same document, or both are malformed for the same reason. -/
inductive ReadAlike (xs ys : Bytes) : Prop where
  | document (d : Document) (hxs : parseDocument xs = .ok d) (hys : parseDocument ys = .ok d)
  | malformed (fault : XmlFault) (hxs : parseDocument xs = .error fault)
    (hys : parseDocument ys = .error fault)
    (code : ∀ path, (Fault.malformed fault path).code = .malformedDocument)

theorem readAlike_of_eq {xs ys : Bytes} (h : parseDocument xs = parseDocument ys) :
    ReadAlike xs ys := by
  cases hxs : parseDocument xs with
  | ok d => exact .document d hxs (h ▸ hxs)
  | error fault => exact .malformed fault hxs (h ▸ hxs) fun _ => rfl

namespace Reader

/-- A reader that is about to read the transcoded rest of a text. -/
def inUtf8 (w : Widening) (r : Reader) : Reader := ⟨.utf8, false, r.names.map w.widen, r.builder⟩

/-- A reader that decodes with an encoding, and whose open elements have names of certain bytes. -/
structure Fits (e : Encoding) (P : UInt8 → Prop) (r : Reader) : Prop where
  encoding : r.encoding = e
  names : ∀ name ∈ r.names, ∀ b ∈ name, P b

variable {w : Widening} {e : Encoding} {P : UInt8 → Prop} {r r' : Reader} {content : Bytes}

/-! ### One token -/

/-- What comes out of a computation is changed by changing what its last step gives. -/
theorem bind_map {ε α β γ : Type} {x : Except ε α} {f : α → Except ε β} {f' : α → Except ε γ}
    {g : β → γ} (h : ∀ a, f' a = (f a).map g) : (x >>= f') = (x >>= f).map g := by
  cases x with
  | error fault => rfl
  | ok a => exact h a

theorem decode_inUtf8 (ht : Transcodes w e P) (hr : r.encoding = e) (hcontent : ∀ b ∈ content, P b) :
    (r.inUtf8 w).decode (w.widen content) = r.decode content := by
  have hutf8 : (r.inUtf8 w).encoding = .utf8 := rfl
  rw [decode, decode, hr, hutf8, ht.decode content hcontent]
  cases hs : e.decode? content with
  | some s => rfl
  | none => rw [ht.fault content hcontent hs]

theorem emit_inUtf8 (r : Reader) (event : Event) :
    (r.inUtf8 w).emit event = (r.emit event).map (inUtf8 w) := by
  show (r.builder.step event >>= _) = _
  exact bind_map fun b => rfl

theorem characters_inUtf8 (ht : Transcodes w e P) (hr : r.encoding = e)
    (hcontent : ∀ b ∈ content, P b) :
    (r.inUtf8 w).characters (w.widen content) = (r.characters content).map (inUtf8 w) := by
  rw [characters, characters, decode_inUtf8 ht hr hcontent]
  exact bind_map fun s => emit_inUtf8 r _

theorem reference_inUtf8 (ht : Transcodes w e P) (hr : r.encoding = e)
    (hcontent : ∀ b ∈ content, P b) :
    (r.inUtf8 w).reference (w.widen content) = (r.reference content).map (inUtf8 w) := by
  have hdecode : (r.inUtf8 w).encoding.decode? (w.widen content) = e.decode? content :=
    ht.decode content hcontent
  rw [reference, reference, hdecode, hr]
  cases hs : e.decode? content with
  | none =>
    rw [ht.fault content hcontent hs]
    rfl
  | some s =>
    simp only
    split
    · split
      · exact emit_inUtf8 r _
      · rfl
    · split
      · exact emit_inUtf8 r _
      · exact emit_inUtf8 r _

theorem readAttribute_inUtf8 (ht : Transcodes w e P) (hr : r.encoding = e) {p : Bytes × Bytes}
    (hp : (∀ b ∈ p.1, P b) ∧ ∀ b ∈ p.2, P b) :
    (r.inUtf8 w).readAttribute (w.widen p.1) (w.widen p.2) = r.readAttribute p.1 p.2 := by
  rw [readAttribute, readAttribute, decode_inUtf8 ht hr hp.1, decode_inUtf8 ht hr hp.2]

theorem tag_inUtf8 (ht : Transcodes w e P) (hr : r.encoding = e) (hcontent : ∀ b ∈ content, P b) :
    (r.inUtf8 w).tag (w.widen content) = r.tag content := by
  have hname : ∀ b ∈ tagName content, P b := fun b hb =>
    hcontent b ((List.takeWhile_prefix _).subset hb)
  have hrest : ∀ b ∈ tagRest content, P b := fun b hb =>
    hcontent b ((List.dropWhile_suffix _).subset hb)
  have hattributes : ∀ {pairs : List (Bytes × Bytes)},
      (∀ p ∈ pairs, (∀ b ∈ p.1, P b) ∧ ∀ b ∈ p.2, P b) →
        (pairs.map (widenPair w)).mapM (fun p => (r.inUtf8 w).readAttribute p.1 p.2) =
          pairs.mapM fun p => r.readAttribute p.1 p.2 := by
    intro pairs hpairs
    induction pairs with
    | nil => rfl
    | cons p pairs ih =>
      obtain ⟨hp, hpairs⟩ := List.forall_mem_cons.1 hpairs
      rw [List.map_cons, List.mapM_cons, List.mapM_cons, ih hpairs]
      show ((r.inUtf8 w).readAttribute (w.widen p.1) (w.widen p.2) >>= _) = _
      rw [readAttribute_inUtf8 ht hr hp]
  rw [tag, tag, tagName_widen, decode_inUtf8 ht hr hname, tagRest_widen, scanAttributes_widen]
  simp only [hattributes fun p hp => all_of_mem_scanAttributes hrest hp]

theorem startTag_inUtf8 (ht : Transcodes w e P) (hr : r.encoding = e) (hcontent : ∀ b ∈ content, P b)
    (selfClosing : Bool) : (r.inUtf8 w).startTag (w.widen content) selfClosing =
      (r.startTag content selfClosing).map (inUtf8 w) := by
  show (r.builder.flush >>= _) = _
  refine bind_map fun b => ?_
  have htag := @tag_inUtf8 w e P { r with builder := b } content ht hr hcontent
  show ((({ r with builder := b } : Reader).inUtf8 w).tag (w.widen content) >>= _) = _
  rw [htag]
  refine bind_map fun ⟨name, attributes⟩ => ?_
  cases selfClosing with
  | true => exact emit_inUtf8 { r with builder := b } (.empty name attributes)
  | false =>
    have hemit := @emit_inUtf8 w { r with builder := b } (.start name attributes)
    show ((({ r with builder := b } : Reader).inUtf8 w).emit (.start name attributes) >>= _) =
      (({ r with builder := b } : Reader).emit (.start name attributes) >>= _).map (inUtf8 w)
    rw [hemit, tagName_widen]
    cases Reader.emit { r with builder := b } (.start name attributes) with
    | error fault => rfl
    | ok r₁ => rfl

theorem endTag_inUtf8 (ht : Transcodes w e P) (hr : r.Fits e P) (hcontent : ∀ b ∈ content, P b) :
    (r.inUtf8 w).endTag (w.widen content) = (r.endTag content).map (inUtf8 w) := by
  have hfound : ∀ b ∈ endTagName content, P b := by
    intro b hb
    rw [endTagName] at hb
    split at hb
    · exact hcontent b hb
    · exact hcontent b (List.mem_reverse.1
        ((List.dropWhile_suffix _).subset (List.mem_reverse.1 hb)))
  have hshown : ∀ name : Bytes, (∀ b ∈ name, P b) →
      (r.inUtf8 w).encoding.decode? (w.widen name) = r.encoding.decode? name := by
    intro name hname
    rw [hr.encoding]
    exact ht.decode name hname
  rw [endTag, endTag, endTagName_widen]
  cases hnames : r.names with
  | nil =>
    have hnone : (r.inUtf8 w).names = [] := by rw [inUtf8, hnames, List.map_nil]
    simp only [hnone, hshown _ hfound]
    rfl
  | cons expected names =>
    have hcons : (r.inUtf8 w).names = w.widen expected :: names.map w.widen := by
      rw [inUtf8, hnames, List.map_cons]
    have hexpected := hr.names expected (by rw [hnames]; exact List.mem_cons_self)
    simp only [hcons, hshown _ hexpected, hshown _ hfound, w.beq_widen]
    split
    · exact @emit_inUtf8 w { r with names } .close
    · rfl

/-- An instruction that declares no encoding, or comes too late, leaves the reader as it is. -/
def Ignores (r : Reader) (token : Token) : Prop :=
  r.declarable = true → ∀ content, token = .instruction content → declaredEncoding? content = none

theorem instruction_of_ignores (h : r.Ignores (.instruction content)) : r.instruction content = r := by
  rw [instruction]
  split
  · rename_i hdeclarable
    rw [h hdeclarable content rfl]
  · rfl

/-- Before and after transcoding, a reader does the same with a token. -/
theorem step_inUtf8 (ht : Transcodes w e P) (hr : r.Fits e P) {token : Token}
    (htoken : ∀ b ∈ token.piece, P b) (hignores : r.Ignores token) :
    (r.inUtf8 w).step (token.widen w) = (r.step token).map (inUtf8 w) := by
  cases token with
  | text content => exact characters_inUtf8 ht hr.encoding htoken
  | reference name => exact reference_inUtf8 ht hr.encoding htoken
  | cdata content => exact characters_inUtf8 ht hr.encoding htoken
  | startTag content selfClosing => exact startTag_inUtf8 ht hr.encoding htoken selfClosing
  | endTag content => exact endTag_inUtf8 ht hr htoken
  | instruction content =>
    show (r.inUtf8 w).emit .ignorable = ((r.instruction content).emit .ignorable).map (inUtf8 w)
    rw [instruction_of_ignores hignores]
    exact emit_inUtf8 r .ignorable
  | comment => exact emit_inUtf8 r .ignorable
  | doctype => exact emit_inUtf8 r .ignorable

/-! ### What stays as it is -/

/-- A reader keeps its encoding, and whether it may still be told another one. The names of open
elements stand in the text. -/
structure Settled (token : Token) (r r' : Reader) : Prop where
  encoding : r'.encoding = r.encoding
  declarable : r'.declarable = r.declarable
  names : ∀ name ∈ r'.names, name ∈ r.names ∨ name ⊆ token.piece

theorem settled_of_emit {event : Event} {token : Token} (h : r.emit event = .ok r') :
    Settled token r r' := by
  obtain ⟨b, -, rfl⟩ := emit_eq_ok h
  exact ⟨rfl, rfl, fun name hname => .inl hname⟩

theorem settled_of_reference {name : Bytes} {token : Token} (h : r.reference name = .ok r') :
    Settled token r r' := by
  rw [reference] at h
  split at h
  · cases h
  · split at h
    · split at h
      · exact settled_of_emit h
      · cases h
    · split at h
      · exact settled_of_emit h
      · exact settled_of_emit h

theorem settled_of_startTag {selfClosing : Bool} (h : r.startTag content selfClosing = .ok r') :
    Settled (.startTag content selfClosing) r r' := by
  obtain ⟨b, -, h⟩ := bind_eq_ok h
  obtain ⟨⟨name, attributes⟩, -, h⟩ := bind_eq_ok h
  cases selfClosing with
  | true =>
    obtain ⟨b', -, rfl⟩ := emit_eq_ok h
    exact ⟨rfl, rfl, fun name hname => .inl hname⟩
  | false =>
    obtain ⟨r₁, hemit, hr⟩ := bind_eq_ok h
    obtain ⟨b', -, rfl⟩ := emit_eq_ok hemit
    cases hr
    refine ⟨rfl, rfl, fun name hname => ?_⟩
    rcases List.mem_cons.1 hname with rfl | hold
    · exact .inr (List.takeWhile_prefix _).subset
    · exact .inl hold

theorem settled_of_endTag (h : r.endTag content = .ok r') : Settled (.endTag content) r r' := by
  rw [endTag] at h
  split at h
  · cases h
  · rename_i expected names hnames
    split at h
    · obtain ⟨b, -, rfl⟩ := emit_eq_ok h
      refine ⟨rfl, rfl, fun name hname => .inl ?_⟩
      rw [hnames]
      exact List.mem_cons_of_mem _ hname
    · cases h

theorem settled_of_step {token : Token} (hignores : r.Ignores token) (h : r.step token = .ok r') :
    Settled token r r' := by
  cases token with
  | text content =>
    obtain ⟨s, -, hemit⟩ := bind_eq_ok h
    exact settled_of_emit hemit
  | reference name => exact settled_of_reference h
  | cdata content =>
    obtain ⟨s, -, hemit⟩ := bind_eq_ok h
    exact settled_of_emit hemit
  | startTag content selfClosing => exact settled_of_startTag h
  | endTag content => exact settled_of_endTag h
  | instruction content =>
    have hemit : (r.instruction content).emit .ignorable = .ok r' := h
    rw [instruction_of_ignores hignores] at hemit
    exact settled_of_emit hemit
  | comment => exact settled_of_emit h
  | doctype => exact settled_of_emit h

theorem Settled.fits {token : Token} (h : Settled token r r') (hr : r.Fits e P)
    (htoken : ∀ b ∈ token.piece, P b) : r'.Fits e P := by
  refine ⟨h.encoding.trans hr.encoding, fun name hname b hb => ?_⟩
  rcases h.names name hname with hold | hpiece
  · exact hr.names name hold b hb
  · exact htoken b (hpiece hb)

/-! ### Whole texts -/

/-- Before and after transcoding, a reader does the same with all tokens. -/
theorem foldlM_inUtf8 (ht : Transcodes w e P) {tokens : List Token} : ∀ {r : Reader}, r.Fits e P →
    (∀ t ∈ tokens, ∀ b ∈ t.piece, P b) → (∀ t ∈ tokens, r.Ignores t) →
      (tokens.map (Token.widen w)).foldlM step (r.inUtf8 w) =
        (tokens.foldlM step r).map (inUtf8 w) := by
  induction tokens with
  | nil =>
    intro r _ _ _
    rfl
  | cons t tokens ih =>
    intro r hr hpieces hignores
    obtain ⟨hpiece, hpieces⟩ := List.forall_mem_cons.1 hpieces
    obtain ⟨hignored, hignores⟩ := List.forall_mem_cons.1 hignores
    rw [List.map_cons, List.foldlM_cons, List.foldlM_cons, step_inUtf8 ht hr hpiece hignored]
    cases hstep : r.step t with
    | error fault => rfl
    | ok r₁ =>
      have hsettled := settled_of_step hignored hstep
      refine ih (hsettled.fits hr hpiece) hpieces fun t ht hdeclarable => ?_
      exact hignores t ht (hsettled.declarable ▸ hdeclarable)

/-- A reader finds in a text what a reader of UTF-8 finds in the transcoded text. -/
theorem read_inUtf8 (ht : Transcodes w e P) {bytes : Bytes} (hr : r.Fits e P)
    (hbytes : ∀ b ∈ bytes, P b) (hignores : ∀ t ∈ (scan bytes).1, r.Ignores t) :
    (r.inUtf8 w).read (w.widen bytes) = r.read bytes := by
  have hpieces : ∀ t ∈ (scan bytes).1, ∀ b ∈ t.piece, P b := fun t ht b hb =>
    hbytes b ((piece_of_mem_scan ht).subset hb)
  rw [read, read, scan_widen]
  simp only [foldlM_inUtf8 ht hr hpieces hignores]
  cases (scan bytes).1.foldlM step r with
  | error fault => rfl
  | ok r₁ =>
    rfl

/-- A text that begins with an instruction is read as what follows, by a reader that has taken the
instruction. -/
theorem read_declared {first : Bytes}
    (h : Scan.run Scan.start first = ⟨.text [], [.instruction content]⟩) (r : Reader) (bytes : Bytes) :
    r.read (first ++ bytes) = (r.instruction content).read bytes := by
  rw [read, scan_append h]
  rfl

end Reader

end Builtins
