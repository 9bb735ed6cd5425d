import Builtins.Proofs.Binary.RoundTrip

/-!
# Literals on lines

Literals are written on several lines greedily: a line ends behind the comma after the literal with
which it reaches its length, and the next line counts that comma and the end of the line as its own.

* `Greedy` — lines that are filled one after the other; `Greedy.unique` — no other lines have the
  same literals;
* `Writing` — what a text that grows by literals is in the middle of; `Writing.more`,
  `Writing.next` — one more literal, on the same line or on a new one; `Writing.foldl` — all that
  are left;
* `deleteAll` — a text without the ends of its lines; `deleteAll_onLines` — the lines put together
  again;
* `lineLayout_encode` — the layout of encoded content.
-/

namespace Builtins

variable {eol : String}

/-! ### Lines that are filled one after the other -/

/-- Whether some literals fill a line of which `used` bytes are taken before the first of them. -/
def Fills (used : Nat) (line : List String) : Prop :=
  lineLength ≤ used + (joinLiterals line).utf8ByteSize

/-- Literals that do not fill a line before the last of them. -/
structure Line (used : Nat) (line : List String) : Prop where
  ne_nil : line ≠ []
  not_before : ∀ start, start <+: line → start ≠ [] → start ≠ line → ¬ Fills used start

/-- Lines of which all but the last are filled, and none before its last literal. The comma and the
end of a line take room on the line that follows. -/
inductive Greedy (eol : String) : Nat → List (List String) → Prop
  | last {used : Nat} {line : List String} : Line used line → Greedy eol used [line]
  | cons {used : Nat} {line : List String} {rest : List (List String)} :
      Line used line → Fills used line → Greedy eol (1 + eol.utf8ByteSize) rest →
      Greedy eol used (line :: rest)

theorem Greedy.ne_nil {used : Nat} {lines : List (List String)} (h : Greedy eol used lines) :
    lines ≠ [] := by cases h <;> simp

theorem Greedy.flatten_ne_nil {used : Nat} {lines : List (List String)}
    (h : Greedy eol used lines) : lines.flatten ≠ [] := by
  cases h with
  | last hline => simpa using hline.ne_nil
  | cons hline _ _ => simp [hline.ne_nil]

/-- Literals that fill a line are all of the line that they start. -/
theorem Line.eq_of_fills {used : Nat} {start line : List String} (hline : Line used line)
    (hne : start ≠ []) (hfills : Fills used start) (hstart : start <+: line) : start = line := by
  by_contra he
  exact hline.not_before start hstart hne he hfills

/-- There is one way only to fill lines with given literals. -/
theorem Greedy.unique {used : Nat} {lines others : List (List String)} (h : Greedy eol used lines)
    (h' : Greedy eol used others) (hflatten : lines.flatten = others.flatten) : lines = others := by
  induction h generalizing others with
  | @last used line hline =>
    cases h' with
    | last _ => simpa using hflatten
    | @cons _ other rest hother hfills hrest =>
      simp only [List.flatten_cons, List.flatten_nil, List.append_nil] at hflatten
      have he : other = line := hline.eq_of_fills hother.ne_nil hfills ⟨_, hflatten.symm⟩
      exact absurd (List.append_right_eq_self.1 (he ▸ hflatten.symm)) hrest.flatten_ne_nil
  | @cons used line rest hline hfills hrest ih =>
    cases h' with
    | @last _ other hother =>
      simp only [List.flatten_cons, List.flatten_nil, List.append_nil] at hflatten
      have he : line = other := hother.eq_of_fills hline.ne_nil hfills ⟨_, hflatten⟩
      exact absurd (List.append_right_eq_self.1 (he ▸ hflatten)) hrest.flatten_ne_nil
    | @cons _ other rest' hother hfills' hrest' =>
      simp only [List.flatten_cons] at hflatten
      have he : line = other := by
        rcases List.prefix_or_prefix_of_prefix (List.prefix_append line rest.flatten)
          (hflatten ▸ List.prefix_append other rest'.flatten) with hprefix | hprefix
        · exact hother.eq_of_fills hline.ne_nil hfills hprefix
        · exact (hline.eq_of_fills hother.ne_nil hfills' hprefix).symm
      subst he
      rw [ih hrest' (List.append_cancel_left hflatten)]

/-! ### Writing the literals -/

/-- The text of lines: a comma stands between all literals, and the end of a line behind the comma. -/
def onLines (eol : String) (lines : List (List String)) : String :=
  String.intercalate ("," ++ eol) (lines.map joinLiterals)

theorem onLines_singleton (line : List String) : onLines eol [line] = joinLiterals line := by
  simp [onLines]

theorem onLines_cons (line : List String) {rest : List (List String)} (h : rest ≠ []) :
    onLines eol (line :: rest) = joinLiterals line ++ "," ++ eol ++ onLines eol rest := by
  rw [onLines, List.map_cons, String.intercalate_cons_of_ne_nil (by simpa using h),
    ← String.append_assoc]
  rfl

theorem joinLiterals_append {xs ys : List String} (hx : xs ≠ []) (hy : ys ≠ []) :
    joinLiterals (xs ++ ys) = joinLiterals xs ++ "," ++ joinLiterals ys :=
  String.intercalate_append_of_ne_nil hx hy

theorem joinLiterals_singleton (l : String) : joinLiterals [l] = l := by simp [joinLiterals]

/-- One more literal that does not follow one that fills the line. -/
theorem Line.concat {used : Nat} {line : List String} (h : Line used line)
    (hfills : ¬ Fills used line) (l : String) : Line used (line ++ [l]) := by
  refine ⟨by simp, fun start hstart hne hproper => ?_⟩
  rcases List.prefix_concat_iff.1 hstart with he | hprefix
  · exact absurd he hproper
  · by_cases he : start = line
    · exact he ▸ hfills
    · exact h.not_before start hprefix hne he

theorem line_singleton (used : Nat) (l : String) : Line used [l] := by
  refine ⟨by simp, fun start hstart hne hproper => ?_⟩
  rcases List.prefix_concat_iff.1 (show start <+: [] ++ [l] from hstart) with he | hprefix
  · exact absurd he hproper
  · exact absurd (List.prefix_nil.1 hprefix) hne

/-- What is compared with the limit is the text with the new literal. -/
theorem add_cases (eol : String) (s : LiteralLines) (l : String) :
    (s.limit ≤ (s.add eol l).text.utf8ByteSize ∧ (s.add eol l).due = true ∧
        (s.add eol l).limit = (s.add eol l).text.utf8ByteSize + lineLength) ∨
      ((s.add eol l).text.utf8ByteSize < s.limit ∧ (s.add eol l).due = false ∧
        (s.add eol l).limit = s.limit) := by
  have hadd : s.add eol l = if s.limit ≤ (s.add eol l).text.utf8ByteSize then
      ⟨(s.add eol l).text, (s.add eol l).text.utf8ByteSize + lineLength, true⟩
      else ⟨(s.add eol l).text, s.limit, false⟩ := by
    rw [text_add]
    rfl
  by_cases h : s.limit ≤ (s.add eol l).text.utf8ByteSize
  · rw [if_pos h] at hadd
    exact .inl ⟨h, by rw [hadd], by rw [hadd]⟩
  · rw [if_neg h] at hadd
    exact .inr ⟨Nat.lt_of_not_le h, by rw [hadd], by rw [hadd]⟩

/-- A text that is in the middle of the line `row`: `before` stands in front of it. The limit is that
of the next line if the line is filled, and else its own. -/
structure Writing (s : LiteralLines) (before : String) (used : Nat) (row : List String) : Prop where
  text : s.text = before ++ joinLiterals row
  text_ne : s.text ≠ ""
  line : Line used row
  due : s.due = true ↔ Fills used row
  limit_due : s.due = true → s.limit = s.text.utf8ByteSize + lineLength
  limit : s.due = false → s.limit + used = before.utf8ByteSize + lineLength

/-- A literal is compared with the limit of the line on which it is written. -/
theorem writing_add {s : LiteralLines} {l before : String} {used : Nat} {row : List String}
    (htext : (s.add eol l).text = before ++ joinLiterals row) (hne : (s.add eol l).text ≠ "")
    (hline : Line used row) (hlimit : s.limit + used = before.utf8ByteSize + lineLength) :
    Writing (s.add eol l) before used row := by
  have hsize : (s.add eol l).text.utf8ByteSize =
      before.utf8ByteSize + (joinLiterals row).utf8ByteSize := by
    rw [htext, String.utf8ByteSize_append]
  rcases add_cases eol s l with ⟨hreached, hdue, hnext⟩ | ⟨hshort, hdue, hsame⟩
  · have hfills : Fills used row := by
      show lineLength ≤ _
      omega
    exact ⟨htext, hne, hline, by simp [hdue, hfills], fun _ => hnext, by simp [hdue]⟩
  · have hfills : ¬ Fills used row := by
      show ¬ lineLength ≤ _
      omega
    exact ⟨htext, hne, hline, by simp [hdue, hfills], by simp [hdue], fun _ => hsame ▸ hlimit⟩

/-- The first literal starts the first line. -/
theorem writing_start {l : String} (h : l ≠ "") :
    Writing (LiteralLines.start.add eol l) "" 0 [l] := by
  have htext : (LiteralLines.start.add eol l).text = l := by
    rw [text_add]
    simp [LiteralLines.start]
  apply writing_add _ _ (line_singleton 0 l) rfl
  · rw [htext, joinLiterals_singleton, String.empty_append]
  · rwa [htext]

namespace Writing

variable {s : LiteralLines} {before : String} {used : Nat} {row : List String}

theorem add_ne (h : Writing s before used row) (l : String) : (s.add eol l).text ≠ "" := by
  rw [text_add]
  simp [h.text_ne]

/-- One more literal on a line that is not filled. -/
theorem more (h : Writing s before used row) (hdue : s.due = false) (l : String) :
    Writing (s.add eol l) before used (row ++ [l]) := by
  have hfills : ¬ Fills used row := fun hf => by simp [h.due.2 hf] at hdue
  refine writing_add ?_ (h.add_ne l) (h.line.concat hfills l) (h.limit hdue)
  have htext : ¬ s.text.isEmpty = true := by
    rw [String.isEmpty_iff]
    exact h.text_ne
  rw [text_add, joinLiterals_append h.line.ne_nil (by simp), joinLiterals_singleton, if_neg htext,
    h.text]
  simp [hdue, String.append_assoc]

/-- The first literal of a new line. -/
theorem next (h : Writing s before used row) (hdue : s.due = true) (l : String) :
    Writing (s.add eol l) (s.text ++ "," ++ eol) (1 + eol.utf8ByteSize) [l] := by
  refine writing_add ?_ (h.add_ne l) (line_singleton _ l) ?_
  · rw [text_add, joinLiterals_singleton]
    simp [hdue, h.text_ne]
  · rw [h.limit_due hdue, String.utf8ByteSize_append, String.utf8ByteSize_append]
    show _ = _ + 1 + _ + _
    omega

/-- The literals that are left fill the line and those after it. -/
theorem foldl (h : Writing s before used row) (literals : List String) :
    ∃ lines, Greedy eol used lines ∧ lines.flatten = row ++ literals ∧
      (literals.foldl (LiteralLines.add eol) s).text = before ++ onLines eol lines := by
  induction literals generalizing s before used row with
  | nil => exact ⟨[row], .last h.line, by simp, by rw [onLines_singleton]; exact h.text⟩
  | cons l literals ih =>
    rw [List.foldl_cons]
    by_cases hdue : s.due = true
    · obtain ⟨lines, hlines, hflatten, htext⟩ := ih (h.next hdue l)
      refine ⟨row :: lines, .cons h.line (h.due.1 hdue) hlines, by simp [hflatten], ?_⟩
      rw [htext, h.text, onLines_cons row hlines.ne_nil]
      simp only [String.append_assoc]
    · obtain ⟨lines, hlines, hflatten, htext⟩ := ih (h.more (by simpa using hdue) l)
      exact ⟨lines, hlines, by simp [hflatten], htext⟩

end Writing

/-- Literals are written on the only lines that they fill. -/
theorem splitLiterals_eq_onLines {literals : List String} (hne : literals ≠ [])
    (hliterals : ∀ l ∈ literals, l ≠ "") :
    ∃ lines, Greedy eol 0 lines ∧ lines.flatten = literals ∧
      splitLiterals eol literals = onLines eol lines := by
  cases literals with
  | nil => exact absurd rfl hne
  | cons l literals =>
    have hfirst : Writing (LiteralLines.start.add eol l) "" 0 [l] :=
      writing_start (hliterals l List.mem_cons_self)
    obtain ⟨lines, hlines, hflatten, htext⟩ := hfirst.foldl literals
    refine ⟨lines, hlines, hflatten, ?_⟩
    rw [splitLiterals, List.foldl_cons, htext, String.empty_append]

/-! ### Putting the lines together again -/

/-- A text without a separator, wherever it occurs: what the separator begins with is looked for from
the left, and `skip` characters of it are still to be passed over. -/
def deleteFrom (sep : List Char) : Nat → List Char → List Char
  | _, [] => []
  | 0, c :: cs =>
    if sep <+: c :: cs then deleteFrom sep (sep.length - 1) cs else c :: deleteFrom sep 0 cs
  | skip + 1, _ :: cs => deleteFrom sep skip cs

/-- A text without every occurrence of another, from the left and without overlap. -/
def deleteAll (sep s : String) : String := String.ofList (deleteFrom sep.toList 0 s.toList)

theorem deleteFrom_skip (sep xs cs : List Char) :
    deleteFrom sep xs.length (xs ++ cs) = deleteFrom sep 0 cs := by
  induction xs with
  | nil => rfl
  | cons x xs ih => exact ih

/-- A separator is deleted where it stands. -/
theorem deleteFrom_append {sep : List Char} (h : sep ≠ []) (cs : List Char) :
    deleteFrom sep 0 (sep ++ cs) = deleteFrom sep 0 cs := by
  cases sep with
  | nil => exact absurd rfl h
  | cons c sep =>
    have hprefix : c :: sep <+: c :: (sep ++ cs) := List.prefix_append (c :: sep) cs
    rw [List.cons_append, deleteFrom, if_pos hprefix]
    exact deleteFrom_skip (c :: sep) sep cs

/-- No separator of white space starts in front of anything else. -/
theorem deleteFrom_solid {sep xs : List Char} (h : sep ≠ []) (hsep : ∀ c ∈ sep, isBlank c = true)
    (hxs : ∀ c ∈ xs, isBlank c = false) (cs : List Char) :
    deleteFrom sep 0 (xs ++ cs) = xs ++ deleteFrom sep 0 cs := by
  induction xs with
  | nil => rfl
  | cons x xs ih =>
    have hstart : ¬ sep <+: x :: (xs ++ cs) := by
      rintro ⟨rest, hrest⟩
      cases sep with
      | nil => exact absurd rfl h
      | cons c sep =>
        rw [List.cons_append, List.cons.injEq] at hrest
        have hblank := hsep c List.mem_cons_self
        rw [hrest.1, hxs x List.mem_cons_self] at hblank
        cases hblank
    rw [List.cons_append, deleteFrom, if_neg hstart,
      ih fun c hc => hxs c (List.mem_cons_of_mem x hc), List.cons_append]

/-- The characters of literals are solid. -/
def SolidLiterals (literals : List String) : Prop :=
  ∀ l ∈ literals, l ≠ "" ∧ ∀ c ∈ l.toList, Solid c

theorem not_blank_joinLiterals {literals : List String} (h : SolidLiterals literals) :
    ∀ c ∈ (joinLiterals literals).toList, isBlank c = false := by
  induction literals with
  | nil => simp [joinLiterals]
  | cons l literals ih =>
    have hl : ∀ c ∈ l.toList, isBlank c = false := fun c hc => ((h l List.mem_cons_self).2 c hc).1
    by_cases hne : literals = []
    · subst hne
      rwa [joinLiterals_singleton]
    · intro c hc
      rw [← List.singleton_append, joinLiterals_append (by simp) hne, joinLiterals_singleton,
        String.toList_append, String.toList_append, List.mem_append, List.mem_append] at hc
      rcases hc with (hc | hc) | hc
      · exact hl c hc
      · rw [List.mem_singleton.1 hc]
        rfl
      · exact ih (fun l' hl' => h l' (List.mem_cons_of_mem l hl')) c hc

/-- Without the ends of its lines a text is that on one line. -/
theorem deleteAll_onLines {used : Nat} {lines : List (List String)} (h : Greedy eol used lines)
    (hliterals : SolidLiterals lines.flatten) (hne : eol ≠ "") (hblank : Blank eol) :
    deleteAll eol (onLines eol lines) = joinLiterals lines.flatten := by
  have hsep : eol.toList ≠ [] := fun he => hne (String.toList_inj.1 he)
  rw [deleteAll, ← String.toList_inj, String.toList_ofList]
  induction h with
  | @last used line _ =>
    rw [List.flatten_singleton] at hliterals ⊢
    have hsolid := deleteFrom_solid hsep hblank (not_blank_joinLiterals hliterals) []
    rw [onLines_singleton]
    simpa [deleteFrom] using hsolid
  | @cons used line rest hline _ hrest ih =>
    rw [List.flatten_cons] at hliterals ⊢
    have hl : SolidLiterals line := fun l hl => hliterals l (List.mem_append_left _ hl)
    have hr : SolidLiterals rest.flatten := fun l hl => hliterals l (List.mem_append_right _ hl)
    have hfront : ∀ c ∈ (joinLiterals line ++ ",").toList, isBlank c = false := by
      intro c hc
      rw [String.toList_append] at hc
      rcases List.mem_append.1 hc with hc | hc
      · exact not_blank_joinLiterals hl c hc
      · rw [List.mem_singleton.1 hc]
        rfl
    rw [onLines_cons line hrest.ne_nil, joinLiterals_append hline.ne_nil hrest.flatten_ne_nil,
      String.toList_append, String.toList_append, List.append_assoc,
      deleteFrom_solid hsep hblank hfront, deleteFrom_append hsep, ih hr, ← String.toList_append]

/-! ### The layout -/

theorem solid_of_getLast? {s l : String} (hne : l ≠ "") (hl : ∀ c ∈ l.toList, Solid c) {c : Char}
    (hc : (s ++ l).toList.getLast? = some c) : Solid c := by
  have hl' : l.toList ≠ [] := fun he => hne (String.toList_inj.1 he)
  rw [String.toList_append, List.getLast?_append_of_ne_nil _ hl'] at hc
  exact hl c (List.mem_of_getLast? hc)

/-- A text on one line ends with a literal. -/
theorem solid_of_getLast?_joinLiterals {literals : List String} (h : SolidLiterals literals)
    {c : Char} (hc : (joinLiterals literals).toList.getLast? = some c) : Solid c := by
  induction literals using List.reverseRecOn with
  | nil => simp [joinLiterals] at hc
  | append_singleton literals l _ =>
    obtain ⟨hne, hl⟩ := h l (by simp)
    by_cases hfirst : literals = []
    · subst hfirst
      rw [List.nil_append, joinLiterals_singleton] at hc
      exact hl c (List.mem_of_getLast? hc)
    · rw [joinLiterals_append hfirst (by simp), joinLiterals_singleton] at hc
      exact solid_of_getLast? hne hl hc

/-- A text on several lines ends with a literal. -/
theorem solid_of_getLast?_splitLiterals {literals : List String} (h : SolidLiterals literals)
    {c : Char} (hc : (splitLiterals eol literals).toList.getLast? = some c) : Solid c := by
  induction literals using List.reverseRecOn with
  | nil => cases hc
  | append_singleton literals l _ =>
    obtain ⟨hne, hl⟩ := h l (by simp)
    rw [splitLiterals, List.foldl_append, List.foldl_cons, List.foldl_nil, text_add] at hc
    exact solid_of_getLast? hne hl hc

/-- How literals are laid out, on one line as `plain` and on several as `split`. -/
structure LineLayout (eol : String) (literals : List String) (plain split : String) : Prop where
  plain_eq : plain = joinLiterals literals
  empty : literals = [] → split = ""
  lines : literals ≠ [] → ∃ lines, Greedy eol 0 lines ∧ lines.flatten = literals ∧
    split = onLines eol lines ∧
    ∀ others, Greedy eol 0 others → others.flatten = literals → others = lines
  plain_ends : ∀ c, plain.toList.getLast? = some c → c ≠ ',' ∧ isBlank c = false
  split_ends : ∀ c, split.toList.getLast? = some c → c ≠ ',' ∧ isBlank c = false
  deleted : eol ≠ "" → Blank eol → deleteAll eol split = plain

theorem lineLayout_splitLiterals (eol : String) {literals : List String} (h : SolidLiterals literals) :
    LineLayout eol literals (joinLiterals literals) (splitLiterals eol literals) where
  plain_eq := rfl
  empty := by
    rintro rfl
    rfl
  lines := by
    intro hne
    obtain ⟨lines, hlines, hflatten, htext⟩ := splitLiterals_eq_onLines hne fun l hl => (h l hl).1
    exact ⟨lines, hlines, hflatten, htext,
      fun others hothers he => hothers.unique hlines (he.trans hflatten.symm)⟩
  plain_ends := fun c hc => (solid_of_getLast?_joinLiterals h hc).symm
  split_ends := fun c hc => (solid_of_getLast?_splitLiterals h hc).symm
  deleted := by
    intro heol hblank
    by_cases hne : literals = []
    · subst hne
      rfl
    · obtain ⟨lines, hlines, hflatten, htext⟩ := splitLiterals_eq_onLines hne fun l hl => (h l hl).1
      rw [htext, deleteAll_onLines hlines (hflatten ▸ h) heol hblank, hflatten]

/-- The literals of bytes are solid. -/
theorem solidLiterals_map (form : LiteralForm) (bytes : Bytes) :
    SolidLiterals (bytes.map (literal form)) := by
  intro l hl
  obtain ⟨b, _, rfl⟩ := List.mem_map.1 hl
  rw [literal, String.toList_ofList]
  refine ⟨fun he => literalChars_ne_nil form b ?_, fun c hc => solid_of_mem_literalChars hc⟩
  rw [← String.toList_ofList (l := literalChars form b), he]
  rfl

/-- Content is laid out on the only lines that its literals fill one after the other, and so that the
ends of the lines can be deleted again. -/
theorem lineLayout_encode (eol : String) (data : Bytes) (form : LiteralForm) (compressed : Bool) :
    LineLayout eol ((if compressed then deflate data else data).map (literal form))
      (encode data ⟨.literals form, false, compressed⟩ eol)
      (encode data ⟨.literals form, true, compressed⟩ eol) :=
  lineLayout_splitLiterals eol (solidLiterals_map form _)

/-- Of literals of three characters the first line has 21 and the next has 20. -/
example : splitLiterals "\n" (List.replicate 45 "255") =
    onLines "\n" [List.replicate 21 "255", List.replicate 20 "255", List.replicate 4 "255"] := by
  decide +kernel

end Builtins
