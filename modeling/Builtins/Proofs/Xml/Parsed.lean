import Builtins.Proofs.Xml.Reading
import Builtins.Proofs.Xml.Showing

/-!
# Documents that are read

Whatever bytes are read, a document comes from a sequence of events, so it holds a tree.

* `Reader.exists_event` — a reader passes on one event for each token that it takes;
* `exists_events_of_parse` — a document that is read is built from events;
* `holds_of_parse` — so it holds a tree: its first node is the document, whose only child is the root
  element.
-/

namespace Builtins

namespace Builder

variable {b b₁ b' : Builder}

/-- Characters that are settled already need not be settled by the tag. -/
theorem step_of_flush {e : Event} (he : e.isTag = true) (hflush : b.flush = .ok b₁)
    (hstep : b₁.step e = .ok b') : b.step e = .ok b' := by
  cases e with
  | start name attributes =>
    rw [step, flush_flush hflush] at hstep
    rw [step, hflush]
    exact hstep
  | empty name attributes =>
    rw [step, flush_flush hflush] at hstep
    rw [step, hflush]
    exact hstep
  | close => cases he
  | characters s => cases he
  | ignorable => cases he

end Builder

/-! ### From tokens to events -/

namespace Reader

variable {r r' : Reader}

theorem emit_eq_ok {e : Event} (h : r.emit e = .ok r') :
    ∃ b, r.builder.step e = .ok b ∧ r' = { r with builder := b } := by
  obtain ⟨b, hb, hr⟩ := bind_eq_ok h
  cases hr
  exact ⟨b, hb, rfl⟩

theorem builder_of_emit {e : Event} (h : r.emit e = .ok r') : r.builder.step e = .ok r'.builder := by
  obtain ⟨b, hb, rfl⟩ := emit_eq_ok h
  exact hb

theorem exists_event_of_characters {content : Bytes} (h : r.characters content = .ok r') :
    ∃ e, r.builder.step e = .ok r'.builder := by
  obtain ⟨s, -, hemit⟩ := bind_eq_ok h
  exact ⟨_, builder_of_emit hemit⟩

theorem exists_event_of_reference {name : Bytes} (h : r.reference name = .ok r') :
    ∃ e, r.builder.step e = .ok r'.builder := by
  rw [reference] at h
  split at h
  · cases h
  · split at h
    · split at h
      · exact ⟨_, builder_of_emit h⟩
      · cases h
    · split at h
      · exact ⟨_, builder_of_emit h⟩
      · exact ⟨_, builder_of_emit h⟩

theorem exists_event_of_startTag {content : Bytes} {selfClosing : Bool}
    (h : r.startTag content selfClosing = .ok r') : ∃ e, r.builder.step e = .ok r'.builder := by
  obtain ⟨b, hflush, h⟩ := bind_eq_ok h
  obtain ⟨⟨name, attributes⟩, -, h⟩ := bind_eq_ok h
  cases selfClosing with
  | true => exact ⟨_, Builder.step_of_flush rfl hflush (builder_of_emit h)⟩
  | false =>
    obtain ⟨r₁, hemit, hr⟩ := bind_eq_ok h
    cases hr
    exact ⟨_, Builder.step_of_flush rfl hflush (builder_of_emit hemit)⟩

theorem exists_event_of_endTag {content : Bytes} (h : r.endTag content = .ok r') :
    ∃ e, r.builder.step e = .ok r'.builder := by
  rw [endTag] at h
  split at h
  · cases h
  · split at h
    · have hemit := builder_of_emit h
      exact ⟨_, hemit⟩
    · cases h

theorem builder_instruction (r : Reader) (content : Bytes) :
    (r.instruction content).builder = r.builder := by
  rw [instruction]
  split
  · split <;> rfl
  · rfl

/-- A reader passes on one event for each token that it takes. -/
theorem exists_event {token : Token} (h : r.step token = .ok r') :
    ∃ e, r.builder.step e = .ok r'.builder := by
  cases token with
  | text content => exact exists_event_of_characters h
  | reference name => exact exists_event_of_reference h
  | cdata content => exact exists_event_of_characters h
  | startTag content selfClosing => exact exists_event_of_startTag h
  | endTag content => exact exists_event_of_endTag h
  | instruction content =>
    have hemit := builder_of_emit h
    rw [builder_instruction] at hemit
    exact ⟨_, hemit⟩
  | comment => exact ⟨_, builder_of_emit h⟩
  | doctype => exact ⟨_, builder_of_emit h⟩

theorem exists_events {tokens : List Token} : ∀ {r r' : Reader},
    tokens.foldlM step r = .ok r' →
      ∃ events : List Event, events.foldlM Builder.step r.builder = .ok r'.builder := by
  induction tokens with
  | nil =>
    intro r r' h
    cases h
    exact ⟨[], rfl⟩
  | cons token rest ih =>
    intro r r' h
    rw [List.foldlM_cons] at h
    obtain ⟨r₁, hstep, hrest⟩ := bind_eq_ok h
    obtain ⟨e, he⟩ := exists_event hstep
    obtain ⟨events, hevents⟩ := ih hrest
    refine ⟨e :: events, ?_⟩
    rw [List.foldlM_cons, he]
    exact hevents

end Reader

/-! ### Documents -/

/-- A document that is read is built from events. -/
theorem exists_events_of_parse {bytes : Bytes} {d : Document} (h : parseDocument bytes = .ok d) :
    ∃ events, buildDocument events = .ok d := by
  obtain ⟨source, -, h⟩ := bind_eq_ok h
  obtain ⟨r, hfold, hfinish⟩ := bind_eq_ok h
  obtain ⟨events, hevents⟩ := Reader.exists_events hfold
  split at hfinish
  · cases hfinish
  · refine ⟨events, ?_⟩
    have hstart : (Reader.start source).builder = Builder.start := rfl
    rw [buildDocument, ← hstart, hevents]
    exact hfinish

/-- A document that is built has the outline of a tree. -/
theorem entries_of_build {events : List Event} {d : Document} (h : buildDocument events = .ok d) :
    ∃ t : Tree, d = ⟨t.entries.toArray⟩ := by
  obtain ⟨f, hf⟩ := exists_spells (matched_of_build h)
  obtain ⟨-, t, -, hd⟩ := (hf.build d).1 h
  exact ⟨t, hd⟩

/-- A document that is read has the outline of a tree. -/
theorem exists_entries_of_parse {bytes : Bytes} {d : Document} (h : parseDocument bytes = .ok d) :
    ∃ t : Tree, d.entries.toList = t.entries := by
  obtain ⟨events, hevents⟩ := exists_events_of_parse h
  obtain ⟨t, rfl⟩ := entries_of_build hevents
  exact ⟨t, rfl⟩

/-- A document that is read holds a tree, whatever the bytes are. -/
theorem holds_of_parse {bytes : Bytes} {d : Document} (h : parseDocument bytes = .ok d) :
    ∃ t : Tree, d.Holds t := by
  obtain ⟨t, ht⟩ := exists_entries_of_parse h
  exact ⟨t, Document.holds_of_entries ht⟩

/-- The root element of a tree is an element. -/
theorem Document.Holds.root_kind {d : Document} {t : Tree} (h : d.Holds t) (load : UInt64) :
    (Node.rootOf load d).kind = .element := by
  cases h.root load with
  | element hkind => exact hkind

end Builtins
