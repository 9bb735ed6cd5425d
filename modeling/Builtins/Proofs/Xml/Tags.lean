import Builtins.Proofs.Xml.Parsed

/-!
# Tags and the open elements

What a reader does to its open names, to the open elements of its builder and to the nodes, one token
at a time.

* `Reader.Makes` — a tag makes one element, after the text that was pending;
* `Reader.Takes` — what each kind of token does, and `Reader.takes` — that there is nothing else;
* `Avoids` — a result that is not the builder's refusal of an end without a start;
* `Reader.avoids_step` — a reader never meets it if there is an open element behind its open names.
-/

namespace Builtins

/-! ### Nodes that are added -/

namespace Builder

variable {b b' : Builder}

theorem kind_of_mem_textThen {s : String} {depth : Nat} {e : Entry}
    (h : e ∈ (textThen s .nil).entries depth) : e.content.kind = .text := by
  rw [textThen] at h
  split at h
  · cases h
  · rw [List.mem_singleton.1 h]
    rfl

/-- Settling the pending characters adds at most texts. -/
theorem exists_texts_of_flush (h : b.flush = .ok b') :
    ∃ texts, b' = b.extend texts ∧ ∀ e ∈ texts, e.content.kind = .text := by
  by_cases hpath : b.path = []
  · rw [flush_outside hpath] at h
    split at h
    · cases h
      exact ⟨[], rfl, by simp⟩
    · cases h
  · rw [flush_inside hpath] at h
    cases h
    exact ⟨_, rfl, fun e he => kind_of_mem_textThen he⟩

theorem eq_push_of_addElement {name : String} {attributes : List Attribute}
    (h : b.addElement name attributes = .ok b') : b' = b.push (.element name attributes) := by
  rw [addElement] at h
  split at h
  · cases h
  · cases h
    rfl

end Builder

/-- Whether a token is a tag. -/
def Token.isTag : Token → Bool
  | startTag _ _ => true
  | endTag _ => true
  | _ => false

namespace Reader

variable {r r' : Reader}

/-- The nodes so far, in document order. -/
def nodes (r : Reader) : List Entry := r.builder.entries.toList

/-- A tag makes an element: after the text that was pending, under the innermost open element, with
the name and the attributes of the tag. -/
structure Makes (r r' : Reader) (content : Bytes) (i : Nat) (e : Entry) : Prop where
  nodes : ∃ texts, (∀ x ∈ texts, x.content.kind = .text) ∧ r'.nodes = r.nodes ++ texts ++ [e] ∧
    i = (r.nodes ++ texts).length
  element : ∃ name attributes, r.tag content = .ok (name, attributes) ∧
    e = ⟨r.builder.depth + 1, .element name attributes⟩

theorem Makes.getElem? {content : Bytes} {i : Nat} {e : Entry} (h : r.Makes r' content i e) :
    r'.nodes[i]? = some e := by
  obtain ⟨texts, -, hnodes, hi⟩ := h.nodes
  rw [hnodes, hi, List.getElem?_append_right (Nat.le_refl _), Nat.sub_self]
  rfl

/-- The element that a tag makes is the latest node. -/
theorem Makes.length_eq {content : Bytes} {i : Nat} {e : Entry} (h : r.Makes r' content i e) :
    r'.nodes.length = i + 1 := by
  obtain ⟨texts, -, hnodes, hi⟩ := h.nodes
  rw [hnodes, hi, List.length_append, List.length_singleton]

/-- An element is found among older nodes if only texts come after them. -/
theorem old_of_texts {texts : List Entry} (htexts : ∀ x ∈ texts, x.content.kind = .text) {k : Nat}
    {x : Entry} (hx : (r.nodes ++ texts)[k]? = some x) (hkind : x.content.kind = .element) :
    r.nodes[k]? = some x := by
  rcases Nat.lt_or_ge k r.nodes.length with hk | hk
  · rwa [List.getElem?_append_left hk] at hx
  · rw [List.getElem?_append_right hk] at hx
    have htext := htexts x (List.mem_of_getElem? hx)
    rw [hkind] at htext
    cases htext

/-- After a tag every element is an older one or the one that the tag made. -/
theorem Makes.old_or_new {content : Bytes} {i k : Nat} {e x : Entry} (h : r.Makes r' content i e)
    (hx : r'.nodes[k]? = some x) (hkind : x.content.kind = .element) :
    r.nodes[k]? = some x ∨ k = i := by
  obtain ⟨texts, htexts, hnodes, hi⟩ := h.nodes
  rw [hnodes] at hx
  rcases Nat.lt_or_ge k (r.nodes ++ texts).length with hk | hk
  · rw [List.getElem?_append_left hk] at hx
    exact .inl (old_of_texts htexts hx hkind)
  · obtain ⟨hlt, -⟩ := List.getElem?_eq_some_iff.1 hx
    rw [List.length_append, List.length_singleton] at hlt
    exact .inr (by omega)

/-- A reader that goes on with the same open elements and the same nodes. -/
structure Stays (r r' : Reader) : Prop where
  names : r'.names = r.names
  path : r'.builder.path = r.builder.path
  nodes : r'.nodes = r.nodes

/-- A reader that takes a token. -/
inductive Takes (r r' : Reader) : Token → Prop
  | other {token : Token} : token.isTag = false → r.Stays r' → Takes r r' token
  | empty {content : Bytes} {i : Nat} {e : Entry} : r.Makes r' content i e →
      r'.names = r.names → r'.builder.path = r.builder.path → Takes r r' (.startTag content true)
  | start {content : Bytes} {i : Nat} {e : Entry} : r.Makes r' content i e →
      r'.names = tagName content :: r.names → r'.builder.path = i :: r.builder.path →
        Takes r r' (.startTag content false)
  | close {content : Bytes} {i : Nat} {texts : List Entry} :
      r.names = endTagName content :: r'.names → r.builder.path = i :: r'.builder.path →
        r'.nodes = r.nodes ++ texts → (∀ x ∈ texts, x.content.kind = .text) →
          Takes r r' (.endTag content)

/-! ### One token -/

/-- Characters and ignorable events do nothing, but for what is pending. -/
theorem stays_of_emit {e : Event} (he : e.isTag = false) (hclose : e ≠ .close)
    (h : r.emit e = .ok r') : r.Stays r' := by
  obtain ⟨b, hb, rfl⟩ := emit_eq_ok h
  cases e with
  | start name attributes => cases he
  | empty name attributes => cases he
  | close => exact absurd rfl hclose
  | characters s =>
    cases hb
    exact ⟨rfl, rfl, rfl⟩
  | ignorable =>
    cases hb
    exact ⟨rfl, rfl, rfl⟩

theorem stays_of_characters {content : Bytes} (h : r.characters content = .ok r') : r.Stays r' := by
  obtain ⟨s, -, hemit⟩ := bind_eq_ok h
  exact stays_of_emit rfl Event.noConfusion hemit

theorem stays_of_reference {name : Bytes} (h : r.reference name = .ok r') : r.Stays r' := by
  rw [reference] at h
  split at h
  · cases h
  · split at h
    · split at h
      · exact stays_of_emit rfl Event.noConfusion h
      · cases h
    · split at h
      · exact stays_of_emit rfl Event.noConfusion h
      · exact stays_of_emit rfl Event.noConfusion h

theorem names_instruction (r : Reader) (content : Bytes) :
    (r.instruction content).names = r.names := by
  rw [instruction]
  split
  · split <;> rfl
  · rfl

theorem stays_of_instruction {content : Bytes}
    (h : (r.instruction content).emit .ignorable = .ok r') : r.Stays r' := by
  obtain ⟨hnames, hpath, hnodes⟩ := stays_of_emit rfl Event.noConfusion h
  rw [names_instruction] at hnames
  rw [builder_instruction] at hpath
  rw [nodes, nodes, builder_instruction] at hnodes
  exact ⟨hnames, hpath, hnodes⟩

/-- An element that is added to a builder with nothing pending. -/
theorem makes_of_flush {b : Builder} {content : Bytes} {name : String}
    {attributes : List Attribute} (hflush : r.builder.flush = .ok b)
    (htag : r.tag content = .ok (name, attributes))
    (hentries : r'.builder.entries = (b.push (.element name attributes)).entries) :
    r.Makes r' content b.entries.size ⟨r.builder.depth + 1, .element name attributes⟩ := by
  obtain ⟨texts, rfl, htexts⟩ := Builder.exists_texts_of_flush hflush
  refine ⟨⟨texts, htexts, ?_, ?_⟩, name, attributes, htag, rfl⟩
  · rw [nodes, nodes, hentries]
    simp [Builder.push, Builder.extend]
  · rw [Builder.size_extend, List.length_append]
    rfl

theorem startTag_takes {content : Bytes} {selfClosing : Bool}
    (h : r.startTag content selfClosing = .ok r') : r.Takes r' (.startTag content selfClosing) := by
  obtain ⟨b, hflush, h⟩ := bind_eq_ok h
  obtain ⟨⟨name, attributes⟩, htag, h⟩ := bind_eq_ok h
  have htag' : r.tag content = .ok (name, attributes) := htag
  have hpath := Builder.path_of_flush hflush
  cases selfClosing with
  | true =>
    obtain ⟨b', hb', rfl⟩ := emit_eq_ok h
    obtain ⟨b₁, hsame, hadd⟩ := bind_eq_ok hb'
    rw [Builder.flush_flush hflush] at hsame
    cases hsame
    cases Builder.eq_push_of_addElement hadd
    exact .empty (makes_of_flush hflush htag' rfl) rfl hpath
  | false =>
    obtain ⟨r₁, hemit, hr⟩ := bind_eq_ok h
    cases hr
    obtain ⟨b', hb', rfl⟩ := emit_eq_ok hemit
    obtain ⟨b₁, hsame, hb'⟩ := bind_eq_ok hb'
    rw [Builder.flush_flush hflush] at hsame
    cases hsame
    obtain ⟨b₂, hadd, henter⟩ := bind_eq_ok hb'
    cases Builder.eq_push_of_addElement hadd
    cases henter
    refine .start (makes_of_flush hflush htag' rfl) rfl ?_
    show ((b.push _).entries.size - 1) :: b.path = _
    rw [hpath, Builder.push, Array.size_push, Nat.add_sub_cancel]

theorem endTag_takes {content : Bytes} (h : r.endTag content = .ok r') :
    r.Takes r' (.endTag content) := by
  rw [endTag] at h
  split at h
  · cases h
  · rename_i expected names hnames
    split at h
    · rename_i hfound
      obtain ⟨b, hb, rfl⟩ := emit_eq_ok h
      obtain ⟨b₁, hflush, hb⟩ := bind_eq_ok hb
      split at hb
      · cases hb
      · rename_i hopen
        cases hb
        obtain ⟨i, path, hpath⟩ := List.exists_cons_of_ne_nil (show b₁.path ≠ [] by simpa using hopen)
        obtain ⟨texts, rfl, htexts⟩ := Builder.exists_texts_of_flush hflush
        refine @Takes.close _ _ content i texts ?_ ?_ ?_ htexts
        · rw [hnames, eq_of_beq hfound]
        · show r.builder.path = i :: (Builder.path _).tail
          rw [hpath]
          exact hpath
        · simp [nodes, Builder.leave, Builder.extend]
    · cases h

/-- A reader does nothing else with a token. -/
theorem takes {token : Token} (h : r.step token = .ok r') : r.Takes r' token := by
  cases token with
  | text content => exact .other rfl (stays_of_characters h)
  | reference name => exact .other rfl (stays_of_reference h)
  | cdata content => exact .other rfl (stays_of_characters h)
  | startTag content selfClosing => exact startTag_takes h
  | endTag content => exact endTag_takes h
  | instruction content => exact .other rfl (stays_of_instruction h)
  | comment => exact .other rfl (stays_of_emit rfl Event.noConfusion h)
  | doctype => exact .other rfl (stays_of_emit rfl Event.noConfusion h)

end Reader

/-! ### Ends without a start -/

/-- A result that is not the refusal of an end without a start. -/
def Avoids {α : Type} (x : Except XmlFault α) : Prop := x ≠ .error .unopenedEnd

namespace Avoids

variable {α β : Type}

theorem ok (a : α) : Avoids (.ok a) := fun h => by cases h

theorem error {fault : XmlFault} (h : fault ≠ .unopenedEnd) :
    Avoids (.error fault : Except XmlFault α) := fun he => h (Except.error.inj he)

theorem bind {x : Except XmlFault α} {f : α → Except XmlFault β} (hx : Avoids x)
    (hf : ∀ a, x = .ok a → Avoids (f a)) : Avoids (x >>= f) := by
  cases x with
  | error fault => exact error fun h => hx (congrArg Except.error h)
  | ok a => exact hf a rfl

theorem mapM {f : α → Except XmlFault β} (hf : ∀ a, Avoids (f a)) (l : List α) :
    Avoids (l.mapM f) := by
  induction l with
  | nil => exact ok []
  | cons a rest ih =>
    rw [List.mapM_cons]
    exact (hf a).bind fun _ _ => ih.bind fun _ _ => ok _

end Avoids

namespace Builder

variable {b : Builder}

theorem avoids_flush (b : Builder) : Avoids b.flush := by
  by_cases hpath : b.path = []
  · rw [flush_outside hpath]
    split
    · exact .ok _
    · exact .error XmlFault.noConfusion
  · rw [flush_inside hpath]
    exact .ok _

theorem avoids_addElement (b : Builder) (name : String) (attributes : List Attribute) :
    Avoids (b.addElement name attributes) := by
  rw [addElement]
  split
  · exact .error XmlFault.noConfusion
  · exact .ok _

/-- Only an end can be without a start, and not when an element is open. -/
theorem avoids_step {e : Event} (h : e = .close → b.path ≠ []) : Avoids (b.step e) := by
  cases e with
  | start name attributes =>
    exact b.avoids_flush.bind fun b₁ _ => (b₁.avoids_addElement _ _).bind fun _ _ => .ok _
  | empty name attributes => exact b.avoids_flush.bind fun b₁ _ => b₁.avoids_addElement _ _
  | close =>
    refine b.avoids_flush.bind fun b₁ hb₁ => ?_
    have hopen : ¬ b₁.path.isEmpty = true := by
      rw [path_of_flush hb₁]
      simpa using h rfl
    rw [if_neg hopen]
    exact .ok _
  | characters s => exact .ok _
  | ignorable => exact .ok _

theorem avoids_finish (b : Builder) : Avoids b.finish := by
  refine b.avoids_flush.bind fun b₁ _ => ?_
  split
  · exact .error XmlFault.noConfusion
  · split
    · exact .ok _
    · exact .error XmlFault.noConfusion

end Builder

namespace Reader

variable {r : Reader}

theorem avoids_decode (r : Reader) (bytes : Bytes) : Avoids (r.decode bytes) := by
  rw [decode]
  split
  · exact .ok _
  · exact .error XmlFault.noConfusion

theorem avoids_emit {e : Event} (h : e = .close → r.builder.path ≠ []) : Avoids (r.emit e) :=
  (Builder.avoids_step h).bind fun _ _ => .ok _

theorem avoids_characters (r : Reader) (content : Bytes) : Avoids (r.characters content) :=
  (r.avoids_decode content).bind fun _ _ => avoids_emit Event.noConfusion

theorem avoids_reference (r : Reader) (name : Bytes) : Avoids (r.reference name) := by
  rw [reference]
  split
  · exact .error XmlFault.noConfusion
  · split
    · split
      · exact avoids_emit Event.noConfusion
      · exact .error XmlFault.noConfusion
    · split
      · exact avoids_emit Event.noConfusion
      · exact avoids_emit Event.noConfusion

theorem avoids_readAttribute (r : Reader) (key value : Bytes) :
    Avoids (r.readAttribute key value) :=
  (r.avoids_decode key).bind fun _ _ => (r.avoids_decode value).bind fun _ _ => .ok _

theorem avoids_tag (r : Reader) (content : Bytes) : Avoids (r.tag content) := by
  refine (r.avoids_decode _).bind fun name _ => ?_
  refine (Avoids.mapM (fun p : Bytes × Bytes => r.avoids_readAttribute p.1 p.2) _).bind
    fun attributes _ => ?_
  split
  · exact .error XmlFault.noConfusion
  · exact .ok _

theorem avoids_startTag (r : Reader) (content : Bytes) (selfClosing : Bool) :
    Avoids (r.startTag content selfClosing) := by
  refine r.builder.avoids_flush.bind fun b _ => (avoids_tag _ content).bind fun _ _ => ?_
  cases selfClosing with
  | true => exact avoids_emit Event.noConfusion
  | false => exact (avoids_emit Event.noConfusion).bind fun _ _ => .ok _

/-- An end tag without a start tag is refused by its name, before the builder is asked. -/
theorem avoids_endTag (content : Bytes) (h : r.names ≠ [] → r.builder.path ≠ []) :
    Avoids (r.endTag content) := by
  rw [endTag]
  split
  · exact .error XmlFault.noConfusion
  · rename_i expected names hnames
    split
    · exact avoids_emit fun _ => h (by rw [hnames]; exact List.cons_ne_nil _ _)
    · exact .error XmlFault.noConfusion

/-- With an open element behind every open name, no end is without a start for the builder. -/
theorem avoids_step {token : Token} (h : r.names ≠ [] → r.builder.path ≠ []) :
    Avoids (r.step token) := by
  cases token with
  | text content => exact r.avoids_characters content
  | reference name => exact r.avoids_reference name
  | cdata content => exact r.avoids_characters content
  | startTag content selfClosing => exact r.avoids_startTag content selfClosing
  | endTag content => exact avoids_endTag content h
  | instruction content => exact avoids_emit Event.noConfusion
  | comment => exact avoids_emit Event.noConfusion
  | doctype => exact avoids_emit Event.noConfusion

end Reader

end Builtins
