import Builtins.Proofs.Text.LineEnds
import Builtins.Proofs.Xml.Reading
import Mathlib.Data.List.Forall2

/-!
# Documents that differ in line ends

What is built from events that differ in line ends differs in line ends, and is the same document only if all
events are the same.

* `Follows` — a computation that succeeds where another one does, with a result that is like the other one;
* `Content.Alike`, `Document.Alike` — trees of the same shape, names and keys, whose values and texts differ
  in line ends;
* `Event.Alike`, `Builder.Alike` — what they are built from;
* `Builder.Alike.step`, `Builder.Alike.finish` — one event, and the end.
-/

namespace Builtins

/-! ### Computations side by side -/

section Computations

variable {ε α β : Type} {related : α → α → Prop} {related' : β → β → Prop} {same same' : Prop}

/-- The second computation succeeds where the first one does. What it gives is related to what the first
gives, and is the same exactly if `same` holds. -/
def Follows (related : α → α → Prop) (same : Prop) (x x' : Except ε α) : Prop :=
  ∀ a, x = .ok a → ∃ a', x' = .ok a' ∧ related a a' ∧ (a' = a ↔ same)

namespace Follows

variable {x x' : Except ε α} {f f' : α → Except ε β}

theorem ok {a a' : α} (h : related a a') (hsame : a' = a ↔ same) :
    @Follows ε α related same (.ok a) (.ok a') := by
  intro b hb
  cases hb
  exact ⟨a', rfl, h, hsame⟩

theorem error {fault : ε} : Follows related same (.error fault) x' := fun _ h => by cases h

theorem congr (h : Follows related same x x') (hiff : same ↔ same') : Follows related same' x x' := by
  intro a ha
  obtain ⟨a', ha', hrelated, hsame⟩ := h a ha
  exact ⟨a', ha', hrelated, hsame.trans hiff⟩

/-- One computation after another. -/
theorem bind (h : Follows related same x x')
    (hf : ∀ a a', x = .ok a → related a a' → Follows related' (a' = a ∧ same') (f a) (f' a')) :
    Follows related' (same ∧ same') (x >>= f) (x' >>= f') := by
  intro b hb
  obtain ⟨a, ha, hb⟩ := bind_eq_ok hb
  obtain ⟨a', ha', hrelated, hsame⟩ := h a ha
  obtain ⟨b', hb', hrelated', hsame'⟩ := hf a a' ha hrelated b hb
  refine ⟨b', ?_, hrelated', hsame'.trans (and_congr_left' hsame)⟩
  rw [ha']
  exact hb'

/-- A second computation that gives the same exactly if the first one does. -/
theorem bind_same (h : Follows related same x x')
    (hf : ∀ a a', x = .ok a → related a a' → Follows related' (a' = a) (f a) (f' a')) :
    Follows related' same (x >>= f) (x' >>= f') :=
  (h.bind fun a a' ha hrelated => (hf a a' ha hrelated).congr (and_iff_left trivial).symm).congr
    (and_iff_left trivial)

end Follows

end Computations

/-! ### Trees -/

/-- Attributes with the same key, whose values differ in line ends. -/
def Attribute.Alike (a a' : Attribute) : Prop := a'.key = a.key ∧ Unifies a.value.toList a'.value.toList

theorem Attribute.alike_of_unifies (key : String) {v v' : String} (h : Unifies v.toList v'.toList) :
    Attribute.Alike ⟨key, v⟩ ⟨key, v'⟩ := ⟨rfl, h⟩

/-- Nodes of the same kind and name, whose values or texts differ in line ends. -/
inductive Content.Alike : Content → Content → Prop
  | document : Alike .document .document
  | element (name : String) {attributes attributes' : List Attribute}
    (h : List.Forall₂ Attribute.Alike attributes attributes') :
    Alike (.element name attributes) (.element name attributes')
  | text {s s' : String} (h : Unifies s.toList s'.toList) : Alike (.text s) (.text s')

/-- Nodes at the same place that are alike. -/
def Entry.Alike (e e' : Entry) : Prop := e'.depth = e.depth ∧ e.content.Alike e'.content

/-- Documents that are alike, node by node. -/
def Document.Alike (d d' : Document) : Prop := List.Forall₂ Entry.Alike d.entries.toList d'.entries.toList

/-- Events that differ in line ends. What is white space is the same. -/
inductive Event.Alike : Event → Event → Prop
  | start (name : String) {attributes attributes' : List Attribute}
    (h : List.Forall₂ Attribute.Alike attributes attributes') :
    Alike (.start name attributes) (.start name attributes')
  | empty (name : String) {attributes attributes' : List Attribute}
    (h : List.Forall₂ Attribute.Alike attributes attributes') :
    Alike (.empty name attributes) (.empty name attributes')
  | close : Alike .close .close
  | characters {s s' : String} (h : Unifies s.toList s'.toList) (solid : s' = s ∨ ¬ Blank s) :
    Alike (.characters s) (.characters s')
  | ignorable : Alike .ignorable .ignorable

/-- A text node of characters that are alike, if there are any. -/
theorem alike_textThen {s s' : String} (h : Unifies s.toList s'.toList) (depth : Nat) :
    List.Forall₂ Entry.Alike ((textThen s .nil).entries depth) ((textThen s' .nil).entries depth) ∧
      ((textThen s' .nil).entries depth = (textThen s .nil).entries depth ↔ s' = s) := by
  have hempty : s'.isEmpty = s.isEmpty := by
    rw [Bool.eq_iff_iff, String.isEmpty_iff, String.isEmpty_iff, ← String.toList_eq_nil_iff,
      ← String.toList_eq_nil_iff, h.eq_nil]
  rw [textThen, textThen, hempty]
  split
  · rename_i hs
    have hs' : s' = s := (String.isEmpty_iff.1 (hempty.trans hs)).trans (String.isEmpty_iff.1 hs).symm
    exact ⟨.nil, iff_of_true rfl hs'⟩
  · refine ⟨.cons ⟨rfl, .text h⟩ .nil, ?_⟩
    simp [Forest.entries]

namespace Builder

/-- Builders at the same point, whose nodes and pending characters differ in line ends. -/
structure Alike (b b' : Builder) : Prop where
  path : b'.path = b.path
  entries : List.Forall₂ Entry.Alike b.entries.toList b'.entries.toList
  pending : Unifies b.pending.toList b'.pending.toList
  solid : b'.pending = b.pending ∨ ¬ Blank b.pending

namespace Alike

variable {b b' : Builder}

theorem depth (h : b.Alike b') : b'.depth = b.depth := by rw [b'.depth_eq, b.depth_eq, h.path]

theorem size (h : b.Alike b') : b'.entries.size = b.entries.size := h.entries.length_eq.symm

theorem hasRoot (h : b.Alike b') : b'.hasRoot = b.hasRoot := by rw [Builder.hasRoot, Builder.hasRoot, h.size]

/-- Builders at the same point are the same if they hold the same. -/
theorem eq_iff (h : b.Alike b') : b' = b ↔ b'.entries = b.entries ∧ b'.pending = b.pending := by
  obtain ⟨entries, path, depth, pending, hdepth⟩ := b
  obtain ⟨entries', path', depth', pending', hdepth'⟩ := b'
  have hpath : path' = path := h.path
  have hdepth : depth' = depth := h.depth
  simp [hpath, hdepth]

/-- More nodes that are alike, and nothing pending. -/
theorem extend (h : b.Alike b') {xs xs' : List Entry} (hxs : List.Forall₂ Entry.Alike xs xs') :
    (b.extend xs).Alike (b'.extend xs') ∧
      (b'.extend xs' = b.extend xs ↔ b'.entries = b.entries ∧ xs' = xs) := by
  have hextended : (b.extend xs).Alike (b'.extend xs') := by
    refine ⟨h.path, ?_, .nil, .inl rfl⟩
    rw [Builder.extend, Builder.extend, Array.toList_append, Array.toList_append]
    exact List.rel_append h.entries hxs
  refine ⟨hextended, ?_⟩
  rw [hextended.eq_iff, Builder.extend, Builder.extend, and_iff_left rfl, ← Array.toList_inj,
    Array.toList_append, Array.toList_append, ← Array.toList_inj]
  exact List.append_eq_append_iff_of_size_eq_left h.entries.length_eq.symm

theorem push (h : b.Alike b') {c c' : Content} (hc : c.Alike c') :
    (b.push c).Alike (b'.push c') ∧ (b'.push c' = b.push c ↔ b' = b ∧ c' = c) := by
  have hpushed : (b.push c).Alike (b'.push c') := by
    refine ⟨h.path, ?_, h.pending, h.solid⟩
    rw [Builder.push, Builder.push, Array.toList_push, Array.toList_push, h.depth]
    exact List.rel_append h.entries (.cons ⟨rfl, hc⟩ .nil)
  refine ⟨hpushed, ?_⟩
  rw [hpushed.eq_iff, h.eq_iff]
  show b'.entries.push ⟨b'.depth + 1, c'⟩ = b.entries.push ⟨b.depth + 1, c⟩ ∧ b'.pending = b.pending ↔ _
  rw [h.depth, Array.push_eq_push, Entry.mk.injEq, and_iff_right rfl]
  tauto

theorem flush (h : b.Alike b') : Follows Alike (b' = b) b.flush b'.flush := by
  by_cases hpath : b.path = []
  · have hextended := h.extend .nil
    have hblank : Blank b'.pending ↔ Blank b.pending := h.pending.forall_isBlank
    rw [flush_outside hpath, flush_outside (h.path.trans hpath)]
    simp only [hblank]
    split
    · rename_i hblank
      -- The characters are dropped, which hides no difference: white space is the same.
      refine .ok hextended.1 ?_
      rw [hextended.2, h.eq_iff, and_iff_left rfl]
      exact (and_iff_left (h.solid.resolve_right fun hno => hno hblank)).symm
    · exact .error
  · have hextended := h.extend (alike_textThen h.pending (b.depth + 1)).1
    rw [flush_inside hpath, flush_inside (by rwa [h.path]), h.depth]
    refine .ok hextended.1 ?_
    rw [hextended.2, h.eq_iff, (alike_textThen h.pending (b.depth + 1)).2]

theorem addElement (h : b.Alike b') (name : String) {attributes attributes' : List Attribute}
    (hattributes : List.Forall₂ Attribute.Alike attributes attributes') :
    Follows Alike (b' = b ∧ attributes' = attributes) (b.addElement name attributes)
      (b'.addElement name attributes') := by
  have hpushed := h.push (.element name hattributes)
  rw [Builder.addElement, Builder.addElement, h.path, h.hasRoot]
  split
  · exact .error
  · refine .ok hpushed.1 (hpushed.2.trans ?_)
    rw [Content.element.injEq, and_iff_right rfl]

theorem enter (h : b.Alike b') : b.enter.Alike b'.enter ∧ (b'.enter = b.enter ↔ b' = b) := by
  have hentered : b.enter.Alike b'.enter := by
    refine ⟨?_, h.entries, h.pending, h.solid⟩
    show (b'.entries.size - 1) :: b'.path = (b.entries.size - 1) :: b.path
    rw [h.size, h.path]
  rw [hentered.eq_iff, h.eq_iff]
  exact ⟨hentered, Iff.rfl⟩

theorem leave (h : b.Alike b') : b.leave.Alike b'.leave ∧ (b'.leave = b.leave ↔ b' = b) := by
  have hleft : b.leave.Alike b'.leave := by
    exact ⟨congrArg List.tail h.path, h.entries, h.pending, h.solid⟩
  rw [hleft.eq_iff, h.eq_iff]
  exact ⟨hleft, Iff.rfl⟩

/-- The characters of an event are the same before and after exactly if they and those before them are. -/
theorem characters (h : b.Alike b') {s s' : String} (hs : Unifies s.toList s'.toList)
    (hsolid : s' = s ∨ ¬ Blank s) :
    Follows Alike (b' = b ∧ s' = s) (b.step (.characters s)) (b'.step (.characters s')) := by
  have happend : b'.pending ++ s' = b.pending ++ s ↔ b'.pending = b.pending ∧ s' = s := by
    rw [← String.toList_inj, String.toList_append, String.toList_append, h.pending.append_eq_iff,
      String.toList_inj, String.toList_inj]
  have hadded : Alike { b with pending := b.pending ++ s } { b' with pending := b'.pending ++ s' } := by
    refine ⟨h.path, h.entries, ?_, ?_⟩
    · rw [String.toList_append, String.toList_append]
      exact h.pending.append hs
    · show b'.pending ++ s' = b.pending ++ s ∨ ¬ Blank (b.pending ++ s)
      rw [happend, blank_append]
      rcases h.solid with hpending | hpending
      · exact hsolid.imp (fun hs => ⟨hpending, hs⟩) fun hs hblank => hs hblank.2
      · exact .inr fun hblank => hpending hblank.1
  refine .ok hadded ?_
  rw [hadded.eq_iff, h.eq_iff, happend, and_assoc]

/-- One event. -/
theorem step (h : b.Alike b') {e e' : Event} (he : e.Alike e') :
    Follows Alike (b' = b ∧ e' = e) (b.step e) (b'.step e') := by
  cases he with
  | @start name attributes attributes' hattributes =>
    have hadd : ∀ b b' : Builder, b.Alike b' → Follows Alike (b' = b ∧ attributes' = attributes)
        (b.addElement name attributes >>= fun b => .ok b.enter)
        (b'.addElement name attributes' >>= fun b => .ok b.enter) := by
      intro b b' h
      refine (h.addElement name hattributes).bind_same fun b b' _ h => ?_
      exact .ok h.enter.1 h.enter.2
    refine (h.flush.bind fun b b' _ h => hadd b b' h).congr ?_
    simp
  | @empty name attributes attributes' hattributes =>
    refine (h.flush.bind fun b b' _ h => h.addElement name hattributes).congr ?_
    simp
  | close =>
    refine (h.flush.bind_same fun b b' _ h => ?_).congr (by simp)
    rw [h.path]
    split
    · exact .error
    · exact .ok h.leave.1 h.leave.2
  | characters hs hsolid => exact (h.characters hs hsolid).congr (by simp)
  | ignorable => exact .ok h (and_iff_left rfl).symm

/-- The end of a document. -/
theorem finish (h : b.Alike b') : Follows Document.Alike (b' = b) b.finish b'.finish := by
  refine h.flush.bind_same fun b₁ b₁' hflush h₁ => ?_
  have hempty : b₁.pending = "" := pending_of_flush hflush
  have hempty' : b₁'.pending = "" := by
    rw [← String.toList_eq_nil_iff, h₁.pending.eq_nil, String.toList_eq_nil_iff, hempty]
  rw [h₁.path]
  split
  · exact .error
  · rw [h₁.hasRoot]
    split
    · refine .ok h₁.entries ?_
      rw [Document.mk.injEq, h₁.eq_iff, hempty, hempty', and_iff_left rfl]
    · exact .error

end Alike

end Builder

end Builtins
