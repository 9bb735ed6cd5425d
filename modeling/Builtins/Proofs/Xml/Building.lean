import Builtins.Proofs.Xml.Spelling

/-!
# Building documents

The builder keeps a flat list of nodes and a path; what it builds is nevertheless the tree that its
events describe.

* `Builder.extend` — the builder with more nodes and nothing pending;
* `Spells.fold_inside` — inside of an element the builder adds the outline of the forest;
* `Spells.fold_outside` — outside it adds the elements, if there is only one and only white space
  around it;
* `matched_of_build` — it refuses ends that do not match;
* `buildDocument_spec` — it builds the tree of every well-formed sequence, and refuses all others.
-/

namespace Builtins

/-! ### Pending characters -/

namespace Builder

variable {b b' : Builder}

/-- The builder with more nodes and nothing pending. -/
def extend (b : Builder) (xs : List Entry) : Builder :=
  { b with entries := b.entries ++ xs.toArray, pending := "" }

theorem extend_extend (b : Builder) (xs ys : List Entry) :
    (b.extend xs).extend ys = b.extend (xs ++ ys) := by
  simp [extend, Array.append_assoc]

theorem size_extend (b : Builder) (xs : List Entry) :
    (b.extend xs).entries.size = b.entries.size + xs.length := by
  simp [extend]

theorem extend_push (b : Builder) (xs : List Entry) (c : Content) :
    (b.extend xs).push c = b.extend (xs ++ [⟨b.depth + 1, c⟩]) := by
  simp [extend, push]

/-- An element that is entered, filled and left again only adds nodes. -/
theorem leave_enter (b : Builder) (xs ys : List Entry) :
    ((b.extend xs).enter.extend ys).leave = b.extend (xs ++ ys) := by
  simp [extend, enter, leave, Array.append_assoc]

theorem extend_nil (h : b.pending.isEmpty = true) : b.extend [] = b := by
  obtain ⟨entries, path, depth, pending, hd⟩ := b
  have hempty : pending = "" := String.isEmpty_iff.1 h
  subst hempty
  simp [extend]

/-- Inside of an element pending characters become a text. -/
theorem flush_inside (h : b.path ≠ []) :
    b.flush = .ok (b.extend ((textThen b.pending .nil).entries (b.depth + 1))) := by
  rw [flush, textThen]
  split
  · rename_i hempty
    rw [Forest.entries, extend_nil hempty]
  · split
    · rename_i hpath
      exact absurd hpath h
    · simp [extend, push, Forest.entries]

/-- Outside they have to be white space, and leave nothing. -/
theorem flush_outside (h : b.path = []) :
    b.flush = if Blank b.pending then .ok (b.extend []) else .error .textOutsideRoot := by
  rw [flush]
  split
  · rename_i hempty
    have hpending : b.pending = "" := String.isEmpty_iff.1 hempty
    rw [extend_nil hempty, hpending, if_pos blank_empty]
  · split
    · by_cases hblank : Blank b.pending
      · rw [if_pos hblank, if_pos (trimBlank_isEmpty.2 hblank)]
        simp [extend]
      · rw [if_neg hblank, if_neg fun he => hblank (trimBlank_isEmpty.1 he)]
    · rename_i hpath
      rw [h] at hpath
      cases hpath

theorem addElement_inside (h : b.path ≠ []) (name : String) (attributes : List Attribute) :
    b.addElement name attributes = .ok (b.push (.element name attributes)) := by
  rw [addElement]
  simp [h]

theorem addElement_outside (h : b.path = []) (name : String) (attributes : List Attribute) :
    b.addElement name attributes =
      if b.hasRoot then .error (.secondRoot name) else .ok (b.push (.element name attributes)) := by
  rw [addElement]
  simp [h]

/-- The nodes of an element without what is below it, after the characters before it. -/
def opening (b : Builder) (name : String) (attributes : List Attribute) : List Entry :=
  (textThen b.pending .nil).entries (b.depth + 1) ++ [⟨b.depth + 1, .element name attributes⟩]

theorem step_empty_inside (h : b.path ≠ []) (name : String) (attributes : List Attribute) :
    b.step (.empty name attributes) = .ok (b.extend (b.opening name attributes)) := by
  rw [step, flush_inside h]
  show addElement _ _ _ = _
  rw [addElement_inside (show (b.extend _).path ≠ [] from h), extend_push, opening]

theorem step_start_inside (h : b.path ≠ []) (name : String) (attributes : List Attribute) :
    b.step (.start name attributes) = .ok (b.extend (b.opening name attributes)).enter := by
  rw [step, flush_inside h]
  show (addElement _ _ _ >>= fun b => pure b.enter) = _
  rw [addElement_inside (show (b.extend _).path ≠ [] from h), extend_push, opening]
  rfl

/-- What stands in an element is built and settled before the element is left. -/
theorem foldlM_close (inner events : List Event) (b : Builder) :
    (inner ++ .close :: events).foldlM step b =
      (inner.foldlM step b >>= flush) >>= fun b =>
        (if b.path.isEmpty then .error .unopenedEnd else .ok b.leave) >>= fun b =>
          events.foldlM step b := by
  simp only [List.foldlM_append, List.foldlM_cons, step, bind_assoc]

end Builder

/-! ### Inside of an element -/

section Folds

variable {s : String} {events : List Event} {f : Forest}

/-- Inside of an element the builder adds the outline of what the events spell. -/
theorem Spells.fold_inside (h : Spells s events f) : ∀ b : Builder, b.path ≠ [] → b.pending = s →
    (events.foldlM Builder.step b >>= Builder.flush) =
      .ok (b.extend (f.entries (b.depth + 1))) := by
  induction h with
  | finish s =>
    intro b hpath hs
    subst hs
    exact Builder.flush_inside hpath
  | characters _ ih =>
    intro b hpath hs
    subst hs
    exact ih { b with pending := b.pending ++ _ } hpath rfl
  | ignorable _ ih =>
    intro b hpath hs
    exact ih b hpath hs
  | @empty s name attributes events f _ ih =>
    intro b hpath hs
    subst hs
    rw [List.foldlM_cons, Builder.step_empty_inside hpath]
    show (events.foldlM Builder.step _ >>= Builder.flush) = _
    rw [ih _ (by exact hpath) rfl, Builder.extend_extend, Forest.entries_textThen, Builder.opening,
      List.append_assoc]
    rfl
  | @element s name attributes inner events below f _ _ ihi ihe =>
    intro b hpath hs
    subst hs
    rw [List.foldlM_cons, Builder.step_start_inside hpath]
    show ((inner ++ .close :: events).foldlM Builder.step _ >>= Builder.flush) = _
    rw [Builder.foldlM_close, ihi _ (by simp [Builder.enter]) rfl]
    show (events.foldlM Builder.step (Builder.leave _) >>= Builder.flush) = _
    rw [Builder.leave_enter, ihe _ (by exact hpath) rfl, Builder.extend_extend,
      Forest.entries_textThen, Builder.opening, List.append_assoc, List.append_assoc]
    rfl

end Folds

/-! ### Outside of every element -/

/-- The outline of elements that follow one another outside of all others. -/
def outline (ts : List Tree) : List Entry := ts.flatMap fun t => t.alone.entries 1

theorem outline_cons (t : Tree) (ts : List Tree) : outline (t :: ts) = outline [t] ++ outline ts := by
  rw [← List.singleton_append, outline, outline, outline, List.flatMap_append]

namespace Builder

variable {b : Builder}

theorem depth_of_outside (h : b.path = []) : b.depth = 0 := by
  rw [b.depth_eq, h]
  rfl

theorem step_empty_outside (h : b.path = []) (name : String) (attributes : List Attribute) :
    b.step (.empty name attributes) =
      if Blank b.pending then
        if b.hasRoot then .error (.secondRoot name)
        else .ok (b.extend [⟨1, .element name attributes⟩])
      else .error .textOutsideRoot := by
  rw [step, flush_outside h]
  split
  · show addElement _ _ _ = _
    rw [addElement_outside (show (b.extend _).path = [] from h), extend_push, depth_of_outside h]
    simp [hasRoot, extend]
  · rfl

theorem step_start_outside (h : b.path = []) (name : String) (attributes : List Attribute) :
    b.step (.start name attributes) =
      if Blank b.pending then
        if b.hasRoot then .error (.secondRoot name)
        else .ok (b.extend [⟨1, .element name attributes⟩]).enter
      else .error .textOutsideRoot := by
  rw [step, flush_outside h]
  split
  · show (addElement _ _ _ >>= fun b => pure b.enter) = _
    rw [addElement_outside (show (b.extend _).path = [] from h), extend_push, depth_of_outside h]
    by_cases hroot : b.hasRoot
    · have hroot' : (b.extend []).hasRoot = true := by simpa [hasRoot, extend] using hroot
      rw [if_pos hroot, if_pos hroot']
      rfl
    · have hroot' : ¬ (b.extend []).hasRoot = true := by simpa [hasRoot, extend] using hroot
      rw [if_neg hroot, if_neg hroot']
      rfl
  · rfl

/-- An element outside is refused after other characters than white space, and after another one. -/
theorem error_of_bad (h : ¬ (Blank b.pending ∧ b.hasRoot = false)) (name : String) (opened : Builder) :
    ∃ fault, (if Blank b.pending then
        if b.hasRoot then .error (.secondRoot name) else .ok opened
      else .error .textOutsideRoot : Except XmlFault Builder) = .error fault := by
  split
  · rename_i hblank
    cases hroot : b.hasRoot with
    | true => exact ⟨_, rfl⟩
    | false => exact absurd ⟨hblank, hroot⟩ h
  · exact ⟨_, rfl⟩

/-- The number of elements there are outside of all others. -/
def roots (b : Builder) : Nat := if b.hasRoot then 1 else 0

theorem roots_extend (h : 0 < b.entries.size) (t : Tree) : (b.extend (outline [t])).roots = 1 := by
  have hone : 0 < (outline [t]).length := Nat.succ_pos _
  have hsize : 1 < (b.extend (outline [t])).entries.size := by
    rw [size_extend]
    omega
  rw [roots, hasRoot, if_pos (decide_eq_true hsize)]

end Builder

section Folds

variable {s : String} {events : List Event} {f : Forest}

/-- What the builder makes of events outside: it goes well if there is white space and one element at
most, and then it adds the elements. -/
def BuildsOutside (b : Builder) (f : Forest) (result : Except XmlFault Builder) : Prop :=
  ∀ b', result = .ok b' ↔
    (∀ t ∈ f.texts, Blank t) ∧ f.elements.length + b.roots ≤ 1 ∧ b' = b.extend (outline f.elements)

/-- An element outside goes well if it is the first one. -/
theorem buildsOutside_element {b : Builder} {t : Tree} {result rest : Except XmlFault Builder}
    (hsize : 0 < b.entries.size) (hrest : BuildsOutside (b.extend (outline [t])) f rest)
    (hgood : Blank b.pending → b.hasRoot = false → result = rest)
    (hbad : ¬ (Blank b.pending ∧ b.hasRoot = false) → ∃ fault, result = .error fault) :
    BuildsOutside b (textThen b.pending (.element t.name t.attributes t.below f)) result := by
  intro b'
  rw [Forest.blank_texts_textThen, Forest.elements_textThen]
  by_cases h : Blank b.pending ∧ b.hasRoot = false
  · have hroots : b.roots = 0 := by rw [Builder.roots, h.2]; rfl
    rw [hgood h.1 h.2, hrest b', Builder.roots_extend hsize, Builder.extend_extend, hroots]
    have hout : outline (⟨t.name, t.attributes, t.below⟩ :: f.elements) =
        outline [t] ++ outline f.elements := outline_cons t f.elements
    simp only [Forest.texts, Forest.elements, List.length_cons, h.1, true_and, hout]
  · obtain ⟨fault, hfault⟩ := hbad h
    rw [hfault]
    constructor
    · intro he
      cases he
    · intro hbuilt
      obtain ⟨⟨hblank, -⟩, hlength, -⟩ := hbuilt
      refine absurd ⟨hblank, ?_⟩ h
      rw [Builder.roots] at hlength
      split at hlength
      · simp [Forest.elements] at hlength
      · rename_i hroot
        simpa using hroot

/-- Outside of every element the builder adds what the events spell, if it is one element in white
space. -/
theorem Spells.fold_outside (h : Spells s events f) : ∀ b : Builder, b.path = [] → b.pending = s →
    0 < b.entries.size → BuildsOutside b f (events.foldlM Builder.step b >>= Builder.flush) := by
  induction h with
  | finish s =>
    intro b hpath hs hsize b'
    subst hs
    show b.flush = .ok b' ↔ _
    rw [Builder.flush_outside hpath, Forest.blank_texts_textThen, Forest.elements_textThen]
    have hroots : b.roots ≤ 1 := by
      rw [Builder.roots]
      split <;> omega
    split
    · rename_i hblank
      simp only [Except.ok.injEq, hblank, Forest.texts, Forest.elements, List.length_nil, outline]
      simp [hroots, eq_comm]
    · rename_i hblank
      simp [hblank]
  | characters _ ih =>
    intro b hpath hs hsize
    subst hs
    exact ih { b with pending := b.pending ++ _ } hpath rfl hsize
  | ignorable _ ih =>
    intro b hpath hs hsize
    exact ih b hpath hs hsize
  | @empty s name attributes events f _ ih =>
    intro b hpath hs hsize
    subst hs
    have hrest := ih (b.extend (outline [⟨name, attributes, .nil⟩])) hpath rfl
      (by rw [Builder.size_extend]; omega)
    refine @buildsOutside_element f b ⟨name, attributes, .nil⟩ _ _ hsize hrest ?_ ?_
    · intro hblank hroot
      rw [List.foldlM_cons, Builder.step_empty_outside hpath, if_pos hblank, hroot]
      rfl
    · intro hbad
      obtain ⟨fault, hfault⟩ := Builder.error_of_bad hbad name (b.extend [⟨1, .element name attributes⟩])
      rw [List.foldlM_cons, Builder.step_empty_outside hpath, hfault]
      exact ⟨fault, rfl⟩
  | @element s name attributes inner events below f hi _ _ ih =>
    intro b hpath hs hsize
    subst hs
    have hrest := ih (b.extend (outline [⟨name, attributes, below⟩])) hpath rfl
      (by rw [Builder.size_extend]; omega)
    refine @buildsOutside_element f b ⟨name, attributes, below⟩ _ _ hsize hrest ?_ ?_
    · intro hblank hroot
      rw [List.foldlM_cons, Builder.step_start_outside hpath, if_pos hblank, hroot]
      show ((inner ++ .close :: events).foldlM Builder.step _ >>= Builder.flush) = _
      rw [Builder.foldlM_close, hi.fold_inside _ (by simp [Builder.enter]) rfl]
      show (events.foldlM Builder.step (Builder.leave _) >>= Builder.flush) = _
      rw [Builder.leave_enter]
      have hdepth : (b.extend [⟨1, .element name attributes⟩]).enter.depth + 1 = 2 := by
        show b.depth + 1 + 1 = 2
        rw [Builder.depth_of_outside hpath]
      rw [hdepth]
      simp [outline, Tree.alone, Forest.entries]
    · intro hbad
      obtain ⟨fault, hfault⟩ := Builder.error_of_bad hbad name
        (b.extend [⟨1, .element name attributes⟩]).enter
      rw [List.foldlM_cons, Builder.step_start_outside hpath, hfault]
      exact ⟨fault, rfl⟩

end Folds

/-! ### Whole documents -/

namespace Builder

/-- Ends the document once nothing is pending. -/
def conclude (b : Builder) : Except XmlFault Document :=
  match b.path with
  | i :: _ => .error (.unclosedElement (((b.entries.getD i default).content.name?).getD ""))
  | [] => if b.hasRoot then .ok ⟨b.entries⟩ else .error .noRoot

theorem conclude_of_tree (t : Tree) :
    (start.extend (outline [t])).conclude = .ok ⟨t.entries.toArray⟩ := by
  have hroot : (start.extend (outline [t])).hasRoot = true := by
    simp [hasRoot, extend, outline, start, Tree.alone, Forest.entries]
  have hentries : (start.extend (outline [t])).entries = t.entries.toArray := by
    simp [extend, outline, start, Tree.entries]
  show (if (start.extend (outline [t])).hasRoot then
    Except.ok (Document.mk (start.extend (outline [t])).entries) else _) = _
  rw [if_pos hroot, hentries]

end Builder

theorem buildDocument_eq (events : List Event) :
    buildDocument events =
      (events.foldlM Builder.step Builder.start >>= Builder.flush) >>= Builder.conclude := by
  rw [bind_assoc]
  rfl

/-- What spells a forest is built if the forest is one element in white space. -/
theorem Spells.build {events : List Event} {f : Forest} (h : Spells "" events f) (d : Document) :
    buildDocument events = .ok d ↔
      (∀ t ∈ f.texts, Blank t) ∧ ∃ t, f.elements = [t] ∧ d = ⟨t.entries.toArray⟩ := by
  have hfold := h.fold_outside Builder.start rfl rfl Nat.one_pos
  have hroots : Builder.start.roots = 0 := rfl
  rw [buildDocument_eq]
  constructor
  · intro hd
    cases hb : (events.foldlM Builder.step Builder.start >>= Builder.flush) with
    | error fault =>
      rw [hb] at hd
      cases hd
    | ok b =>
      rw [hb] at hd
      obtain ⟨hblank, hlength, rfl⟩ := (hfold b).1 hb
      refine ⟨hblank, ?_⟩
      match hf : f.elements with
      | [] =>
        rw [hf] at hd
        cases hd
      | [t] =>
        rw [hf] at hd
        have ht : (Builder.start.extend (outline [t])).conclude = .ok d := hd
        rw [Builder.conclude_of_tree] at ht
        cases ht
        exact ⟨t, rfl, rfl⟩
      | t :: t' :: ts =>
        rw [hf, hroots] at hlength
        simp at hlength
  · intro hf
    obtain ⟨hblank, t, ht, rfl⟩ := hf
    rw [(hfold _).2 ⟨hblank, by rw [ht, hroots]; simp, rfl⟩, ht]
    exact Builder.conclude_of_tree t

/-! ### Ends that match -/

theorem bind_eq_ok {ε α β : Type} {x : Except ε α} {f : α → Except ε β} {y : β}
    (h : (x >>= f) = .ok y) : ∃ a, x = .ok a ∧ f a = .ok y := by
  cases x with
  | error fault => cases h
  | ok a => exact ⟨a, rfl, h⟩

namespace Builder

variable {b b' : Builder}

theorem path_of_flush (h : b.flush = .ok b') : b'.path = b.path := by
  by_cases hpath : b.path = []
  · rw [flush_outside hpath] at h
    split at h
    · cases h
      rfl
    · cases h
  · rw [flush_inside hpath] at h
    cases h
    rfl

theorem path_of_addElement {name : String} {attributes : List Attribute}
    (h : b.addElement name attributes = .ok b') : b'.path = b.path := by
  rw [addElement] at h
  split at h
  · cases h
  · cases h
    rfl

/-- A step changes the depth as its event says. -/
theorem depth_of_step {e : Event} (h : b.step e = .ok b') :
    b'.path.length + (if e.isClose then 1 else 0) =
      b.path.length + (if e.isStart then 1 else 0) := by
  cases e with
  | start name attributes =>
    obtain ⟨b₁, h₁, h⟩ := bind_eq_ok h
    obtain ⟨b₂, h₂, h⟩ := bind_eq_ok h
    cases h
    show (_ :: b₂.path).length + 0 = b.path.length + 1
    rw [path_of_addElement h₂, path_of_flush h₁]
    rfl
  | empty name attributes =>
    obtain ⟨b₁, h₁, h₂⟩ := bind_eq_ok h
    rw [path_of_addElement h₂, path_of_flush h₁]
    rfl
  | close =>
    obtain ⟨b₁, h₁, h⟩ := bind_eq_ok h
    split at h
    · cases h
    · rename_i hpath
      cases h
      have hpos : 0 < b₁.path.length := List.length_pos_iff.2 (by simpa using hpath)
      rw [path_of_flush h₁] at hpos
      show b₁.path.tail.length + 1 = b.path.length + 0
      rw [List.length_tail, path_of_flush h₁]
      omega
  | characters c =>
    cases h
    rfl
  | ignorable =>
    cases h
    rfl

theorem depth_of_fold {events : List Event} : ∀ {b b' : Builder},
    events.foldlM step b = .ok b' →
      b'.path.length + events.countP Event.isClose = b.path.length + events.countP Event.isStart := by
  induction events with
  | nil =>
    intro b b' h
    cases h
    rfl
  | cons e events ih =>
    intro b b' h
    rw [List.foldlM_cons] at h
    obtain ⟨b₁, h₁, h⟩ := bind_eq_ok h
    have hstep := depth_of_step h₁
    have hrest := ih h
    rw [List.countP_cons, List.countP_cons]
    omega

end Builder

/-- What is built has ends that match. -/
theorem matched_of_build {events : List Event} {d : Document} (h : buildDocument events = .ok d) :
    Matched 0 events := by
  rw [buildDocument_eq, bind_assoc] at h
  obtain ⟨b, hfold, h⟩ := bind_eq_ok h
  obtain ⟨b', hflush, h⟩ := bind_eq_ok h
  constructor
  · intro n
    rw [← List.take_append_drop n events, List.foldlM_append] at hfold
    obtain ⟨b₁, htake, -⟩ := bind_eq_ok hfold
    have hdepth := Builder.depth_of_fold htake
    show _ ≤ _
    have hstart : Builder.start.path.length = 0 := rfl
    omega
  · have hdepth := Builder.depth_of_fold hfold
    have hstart : Builder.start.path.length = 0 := rfl
    rw [Builder.conclude] at h
    split at h
    · cases h
    · rename_i hpath
      rw [Builder.path_of_flush hflush] at hpath
      rw [hpath, hstart] at hdepth
      simpa using hdepth

/-! ### Every sequence -/

/-- A sequence that spells a forest is well-formed if the forest is one element in white space. -/
theorem Spells.wellFormed_iff {events : List Event} {f : Forest} (h : Spells "" events f)
    (hm : Matched 0 events) :
    WellFormed events ↔ (∀ t ∈ f.texts, Blank t) ∧ ∃ t, f.elements = [t] := by
  have hcount := h.countP_eventsAt 0
  have hblank := h.blank_eventsAt 0
  constructor
  · intro hw
    refine ⟨hblank.2 ⟨blank_empty, hw.blank⟩, List.length_eq_one_iff.1 ?_⟩
    rw [← hcount]
    exact hw.oneRoot
  · intro hone
    obtain ⟨htexts, t, ht⟩ := hone
    refine ⟨hm.1, hm.2, ?_, (hblank.1 htexts).2⟩
    rw [ht] at hcount
    exact hcount

/-- What describes a tree is built as its outline. -/
theorem Describes.build {events : List Event} {t : Tree} (h : Describes events t) :
    buildDocument events = .ok ⟨t.entries.toArray⟩ := by
  obtain ⟨f, hf, helements, hblank⟩ := h
  exact (hf.build _).2 ⟨hblank, t, helements, rfl⟩

/-- Events describe one tree at most. -/
theorem Describes.unique {events : List Event} {t t' : Tree} (h : Describes events t)
    (h' : Describes events t') : t = t' := by
  have hbuild := h.build
  rw [h'.build] at hbuild
  have hentries : t'.entries = t.entries := by simpa using hbuild
  exact (Tree.entries_injective hentries).symm

/-- A document is built of the well-formed sequences and of no others, and it is the tree that the
sequence describes, numbered in document order. -/
theorem buildDocument_spec (events : List Event) :
    ((∃ d, buildDocument events = .ok d) ↔ WellFormed events) ∧
      ∀ d, buildDocument events = .ok d →
        ∃ t, Describes events t ∧ (∀ t', Describes events t' → t' = t) ∧ d.arena = t.arena := by
  have hbuilt : ∀ d, buildDocument events = .ok d → ∃ t, Describes events t ∧ WellFormed events ∧
      d = ⟨t.entries.toArray⟩ := by
    intro d hd
    have hm := matched_of_build hd
    obtain ⟨f, hf⟩ := exists_spells hm
    obtain ⟨hblank, t, ht, rfl⟩ := (hf.build d).1 hd
    exact ⟨t, ⟨f, hf, ht, hblank⟩, (hf.wellFormed_iff hm).2 ⟨hblank, t, ht⟩, rfl⟩
  refine ⟨⟨?_, ?_⟩, ?_⟩
  · intro hbuild
    obtain ⟨d, hd⟩ := hbuild
    obtain ⟨t, -, hw, -⟩ := hbuilt d hd
    exact hw
  · intro hw
    have hm : Matched 0 events := ⟨hw.nested, hw.closed⟩
    obtain ⟨f, hf⟩ := exists_spells hm
    obtain ⟨hblank, t, ht⟩ := (hf.wellFormed_iff hm).1 hw
    exact ⟨_, Describes.build ⟨f, hf, ht, hblank⟩⟩
  · intro d hd
    obtain ⟨t, ht, -, rfl⟩ := hbuilt d hd
    exact ⟨t, ht, fun t' ht' => ht'.unique ht, Document.arena_of_entries rfl⟩

end Builtins
