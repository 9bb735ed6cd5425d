import Builtins.Proofs.Text.LineEnds
import Builtins.Proofs.Xml.WidenedText

/-!
# Scanning text with unified line ends

No line end is a part of markup, so text can be scanned before or after its line ends are unified: the tokens
are the same up to the line ends that they carry.

* `Token.unify`, `ScanMode.unify`, `Scan.unify` — with all line ends unified;
* `ScanMode.step_unify` — a byte does the same before and after, unless it is the second half of a pair;
* `ScanMode.step_pair` — which does nothing more;
* `scan_unify` — whole texts.
-/

namespace Builtins

/-- A token with the line ends that it carries unified. -/
def Token.unify : Token → Token
  | .text content => .text (byteEnd.squeeze content)
  | .reference name => .reference (byteEnd.squeeze name)
  | .cdata content => .cdata (byteEnd.squeeze content)
  | .startTag content selfClosing => .startTag (byteEnd.squeeze content) selfClosing
  | .endTag content => .endTag (byteEnd.squeeze content)
  | .instruction content => .instruction (byteEnd.squeeze content)
  | .comment => .comment
  | .doctype => .doctype

/-- What is equal to a byte that is no part of a line end is so before and after. -/
theorem beq_one {a : UInt8} (ha : byteEnd.Free a) (b : UInt8) : (byteEnd.one b == a) = (b == a) := by
  rw [Bool.eq_iff_iff, beq_iff_eq, beq_iff_eq, LineEnd.one_eq_iff ha]

/-- A quote is no part of a line end. -/
theorem free_of_quote {b : UInt8} (h : (b == 0x27 || b == 0x22) = true) : byteEnd.Free b := by
  rw [Bool.or_eq_true, beq_iff_eq, beq_iff_eq] at h
  rcases h with rfl | rfl
  · decide
  · decide

/-- A run that is read from its end. -/
theorem reverse_squeeze (run : Bytes) :
    (byteEnd.flip.squeeze run).reverse = byteEnd.squeeze run.reverse :=
  LineEnd.reverse_squeeze run

/-- A test for what a list starts with sees past line ends. -/
theorem beq_take_squeeze {e : LineEnd UInt8} {start : Bytes} (h : ∀ b ∈ start, e.Free b) (bytes : Bytes) :
    ((e.squeeze bytes).take start.length == start) = (bytes.take start.length == start) := by
  rw [Bool.eq_iff_iff, beq_iff_eq, beq_iff_eq, LineEnd.take_squeeze h]

/-- A byte that is not the second half of a pair is read as what stands for it. -/
theorem squeeze_cons_run {run : Bytes} {b : UInt8} (h : ¬ (b = 0x0A ∧ run.head? = some 0x0D)) :
    byteEnd.flip.squeeze (b :: run) = byteEnd.one b :: byteEnd.flip.squeeze run := by
  rw [LineEnd.squeeze_cons (e := byteEnd.flip) fun hb hrun => h ⟨hb, hrun⟩, LineEnd.one_flip]

/-- A line feed after a carriage return adds nothing. -/
theorem squeeze_pair_run (run : Bytes) :
    byteEnd.flip.squeeze (0x0A :: 0x0D :: run) = byteEnd.flip.squeeze (0x0D :: run) := by
  have hreturn : byteEnd.flip.squeeze (0x0D :: run) = byteEnd.flip.one 0x0D :: byteEnd.flip.squeeze run :=
    LineEnd.squeeze_cons fun he => absurd he (by decide)
  rw [hreturn]
  exact LineEnd.squeeze_pair (e := byteEnd.flip)

namespace ScanMode

/-- A mode with the line ends of its run unified. -/
def unify : ScanMode → ScanMode
  | text run => text (byteEnd.flip.squeeze run)
  | reference run => reference (byteEnd.flip.squeeze run)
  | opened => opened
  | declared => declared
  | comment run => comment (byteEnd.flip.squeeze run)
  | cdata run => cdata (byteEnd.flip.squeeze run)
  | doctype run depth => doctype (byteEnd.flip.squeeze run) depth
  | instruction run => instruction (byteEnd.flip.squeeze run)
  | tag closing run quote => tag closing (byteEnd.flip.squeeze run) quote
  | failed fault => failed fault

/-- What a step gives, with the line ends unified. -/
def nextUnified (result : ScanMode × Option Token) : ScanMode × Option Token :=
  (result.1.unify, result.2.map Token.unify)

/-- The bytes since the last token, the latest first. -/
def run : ScanMode → Bytes
  | text run => run
  | reference run => run
  | opened => []
  | declared => []
  | comment run => run
  | cdata run => run
  | doctype run _ => run
  | instruction run => run
  | tag _ run _ => run
  | failed _ => []

/-- Whether the latest byte may be the first half of a line end. -/
def Holds (m : ScanMode) : Prop := m.run.head? = some 0x0D

/-- A scanner whose open quote is no part of a line end. -/
def Quotes (m : ScanMode) : Prop := ∀ closing run q, m = tag closing run (some q) → byteEnd.Free q

variable {m : ScanMode} {run : Bytes} {b : UInt8}

theorem quotes_inTag (closing : Bool) (run : Bytes) (b : UInt8) : (inTag closing run b).1.Quotes := by
  intro closing' run' q hq
  simp only [inTag] at hq
  split at hq
  · split at hq
    · cases hq
    · split at hq
      · cases hq
      · cases hq
  · split at hq
    · rename_i hquote
      cases hq
      exact free_of_quote hquote
    · cases hq

theorem step_quotes (h : m.Quotes) (b : UInt8) : (m.step b).1.Quotes := by
  cases m with
  | tag closing run quote =>
    cases quote with
    | none => exact quotes_inTag closing run b
    | some q =>
      intro closing' run' q' hq'
      have hquote : (if b == q then none else some q) = some q' := (ScanMode.tag.inj hq').2.2
      split at hquote
      · cases hquote
      · cases hquote
        exact h closing run q rfl
  | opened =>
    simp only [step]
    split
    · exact fun _ _ _ hq => by cases hq
    · split
      · exact fun _ _ _ hq => by cases hq
      · split
        · exact fun _ _ _ hq => by cases hq
        · exact quotes_inTag false [] b
  | failed fault => exact fun _ _ _ hq => by cases hq
  | _ =>
    intro closing' run' q hq
    simp only [step, endComment, endCdata, endDoctype, endInstruction] at hq
    repeat' split at hq
    all_goals cases hq

/-! ### One byte -/

theorem textToken_unify (run : Bytes) :
    textToken (byteEnd.flip.squeeze run) = (textToken run).map Token.unify := by
  rw [textToken, LineEnd.isEmpty_squeeze, reverse_squeeze, textToken]
  split
  · rfl
  · rfl

/-- What a run ends with is seen past its line ends. -/
theorem beq_head?_squeeze {a : UInt8} (ha : byteEnd.flip.Free a) (run : Bytes) :
    ((byteEnd.flip.squeeze run).head? == some a) = (run.head? == some a) := by
  rw [Bool.eq_iff_iff, beq_iff_eq, beq_iff_eq, LineEnd.head?_squeeze_eq ha]

theorem inTag_unify (closing : Bool) (h : ¬ (b = 0x0A ∧ run.head? = some 0x0D)) :
    inTag closing (byteEnd.flip.squeeze run) (byteEnd.one b) = nextUnified (inTag closing run b) := by
  have hslash : byteEnd.flip.Free 0x2F := by decide
  have hangle : byteEnd.Free 0x3E := by decide
  rw [inTag, inTag, apply_ite nextUnified, apply_ite nextUnified, apply_ite nextUnified, beq_one hangle,
    beq_head?_squeeze hslash]
  refine ite_congr rfl (fun _ => ite_congr rfl (fun _ => ?_) fun _ => ite_congr rfl (fun hhead => ?_)
    fun _ => ?_) fun _ => ?_
  · rw [reverse_squeeze]
    rfl
  · rw [LineEnd.tail_squeeze hslash (beq_iff_eq.1 hhead), reverse_squeeze]
    rfl
  · rw [reverse_squeeze]
    rfl
  · have hsingle : byteEnd.Free 0x27 := by decide
    have hdouble : byteEnd.Free 0x22 := by decide
    have hquote : (if byteEnd.one b == 0x27 || byteEnd.one b == 0x22 then some (byteEnd.one b) else none) =
        if b == 0x27 || b == 0x22 then some b else none := by
      rw [beq_one hsingle, beq_one hdouble]
      exact ite_congr rfl (fun hb => congrArg some (LineEnd.one_of_free (free_of_quote hb))) fun _ => rfl
    rw [hquote, ← squeeze_cons_run h]
    rfl

/-- A comment is long enough before and after, since a shorter one has no line end. -/
theorem endsComment_unify (h : run.getLast? = some 0x2D) :
    ((byteEnd.flip.squeeze run).take 2 == [0x2D, 0x2D] &&
        decide (4 ≤ (byteEnd.flip.squeeze run).length)) =
      (run.take 2 == [0x2D, 0x2D] && decide (4 ≤ run.length)) := by
  have htake : ((byteEnd.flip.squeeze run).take 2 == [0x2D, 0x2D]) = (run.take 2 == [0x2D, 0x2D]) :=
    @beq_take_squeeze byteEnd.flip [0x2D, 0x2D] (LineEnd.free_of_all (by decide)) run
  rw [htake]
  by_cases hend : run.take 2 = [0x2D, 0x2D]
  · rw [beq_iff_eq.2 hend, Bool.true_and, Bool.true_and, decide_eq_decide]
    have hle := LineEnd.length_squeeze_le (e := byteEnd.flip) run
    by_cases hshort : (byteEnd.flip.squeeze run).length < 4
    · have hlast : (byteEnd.flip.squeeze run).getLast? = some 0x2D :=
        (LineEnd.getLast?_squeeze_eq (by decide)).2 h
      have hfree : ∀ x ∈ byteEnd.flip.squeeze run, byteEnd.flip.Free x := by
        intro x hx
        rw [hyphen_of_short (beq_iff_eq.1 (htake.trans (beq_iff_eq.2 hend))) hlast hshort x hx]
        decide
      rw [LineEnd.squeeze_of_free (LineEnd.free_of_squeeze hfree)]
    · omega
  · rw [beq_eq_false_iff_ne.2 hend, Bool.false_and, Bool.false_and]

theorem endComment_unify (run : Bytes) :
    endComment (byteEnd.flip.squeeze run) = nextUnified (endComment run) := by
  have htake : ((byteEnd.squeeze run.reverse).take 2 == [0x2D, 0x2D]) =
      (run.reverse.take 2 == [0x2D, 0x2D]) :=
    @beq_take_squeeze byteEnd [0x2D, 0x2D] (LineEnd.free_of_all (by decide)) run.reverse
  rw [endComment, reverse_squeeze, htake, endComment, apply_ite nextUnified]
  rfl

theorem endCdata_unify (h : run.take 2 = [0x5D, 0x5D]) :
    endCdata (byteEnd.flip.squeeze run) = nextUnified (endCdata run) := by
  have htake : ((byteEnd.squeeze run.reverse).take 7 == cdataOpening) =
      (run.reverse.take 7 == cdataOpening) :=
    @beq_take_squeeze byteEnd cdataOpening (LineEnd.free_of_all (by decide)) run.reverse
  rw [endCdata, reverse_squeeze, htake, endCdata, apply_ite nextUnified]
  refine ite_congr rfl (fun hopening => ?_) fun _ => rfl
  have hclosed : ∀ x ∈ run.take 2, byteEnd.flip.Free x := by
    rw [h]
    exact LineEnd.free_of_all (by decide)
  -- What stands before the closing brackets still begins with the opening.
  have hopened : ∀ x ∈ (run.drop 2).reverse.take 7, byteEnd.Free x := by
    intro x hx
    have hfree : ∀ x ∈ cdataOpening, byteEnd.Free x := LineEnd.free_of_all (by decide)
    obtain ⟨rest, hrest⟩ := List.reverse_prefix.2 (List.drop_suffix 2 run)
    refine hfree x ?_
    rw [← beq_iff_eq.1 hopening, ← hrest, List.take_append]
    exact List.mem_append_left _ hx
  rw [LineEnd.drop_squeeze hclosed, reverse_squeeze, LineEnd.drop_squeeze hopened]
  rfl

/-- No letter is a part of a line end, whatever its case. -/
theorem free_upperByte {b : UInt8} : byteEnd.Free (upperByte b) ↔ byteEnd.Free b := by
  rw [upperByte]
  split
  · rename_i hletter
    rw [Bool.and_eq_true, decide_eq_true_eq, decide_eq_true_eq, UInt8.le_iff_toNat_le,
      UInt8.le_iff_toNat_le] at hletter
    have hlow : 97 ≤ b.toNat := hletter.1
    have hnat : (b - 0x20).toNat = b.toNat - 32 := UInt8.toNat_sub_of_le b 0x20 (by
      rw [UInt8.le_iff_toNat_le]
      show 32 ≤ b.toNat
      omega)
    exact iff_of_true (free_of_toNat (by omega)) (free_of_toNat (by omega))
  · rfl

theorem endDoctype_unify (run : Bytes) :
    endDoctype (byteEnd.flip.squeeze run) = nextUnified (endDoctype run) := by
  have htake : (((byteEnd.squeeze run.reverse).take 7).map upperByte == doctypeOpening) =
      ((run.reverse.take 7).map upperByte == doctypeOpening) := by
    rw [List.map_take, List.map_take,
      LineEnd.map_squeeze_of_free (by decide) (by decide) fun x => free_upperByte.2]
    exact @beq_take_squeeze byteEnd doctypeOpening (LineEnd.free_of_all (by decide))
      (run.reverse.map upperByte)
  simp only [endDoctype, reverse_squeeze, htake]
  rw [apply_ite nextUnified, apply_ite nextUnified]
  refine ite_congr rfl (fun hopening => ite_congr ?_ (fun _ => rfl) fun _ => rfl) fun _ => rfl
  have hopened : ∀ x ∈ run.reverse.take 7, byteEnd.Free x := by
    intro x hx
    have hfree : ∀ x ∈ doctypeOpening, byteEnd.Free x := LineEnd.free_of_all (by decide)
    refine free_upperByte.1 (hfree (upperByte x) ?_)
    rw [← beq_iff_eq.1 hopening]
    exact List.mem_map_of_mem hx
  rw [LineEnd.drop_squeeze hopened, LineEnd.all_squeeze (by decide)]

theorem endInstruction_unify (h : (run.isEmpty || run.head? == some 0x3F) = true) :
    endInstruction (byteEnd.flip.squeeze run) = nextUnified (endInstruction run) := by
  rw [endInstruction, LineEnd.isEmpty_squeeze, endInstruction, apply_ite nextUnified]
  refine ite_congr rfl (fun _ => rfl) fun hempty => ?_
  have hmark : run.head? = some 0x3F := by
    rw [Bool.or_eq_true] at h
    exact beq_iff_eq.1 (h.resolve_left hempty)
  rw [LineEnd.tail_squeeze (by decide) hmark, reverse_squeeze]
  rfl

/-- A byte does the same before and after, unless it is the second half of a pair. -/
theorem step_unify (hsound : m.Sound) (hquotes : m.Quotes) (h : ¬ (b = 0x0A ∧ m.Holds)) :
    m.unify.step (byteEnd.one b) = nextUnified (m.step b) := by
  have hangle : byteEnd.Free 0x3C := by decide
  have hclose : byteEnd.Free 0x3E := by decide
  have hampersand : byteEnd.Free 0x26 := by decide
  have hsemicolon : byteEnd.Free 0x3B := by decide
  have hcons : ∀ run, m.run = run →
      byteEnd.one b :: byteEnd.flip.squeeze run = byteEnd.flip.squeeze (b :: run) := by
    rintro _ rfl
    exact (squeeze_cons_run h).symm
  cases m with
  | text run =>
    rw [unify, step, step, beq_one hangle, beq_one hampersand, textToken_unify, hcons run rfl,
      apply_ite nextUnified, apply_ite nextUnified]
    rfl
  | reference run =>
    rw [unify, step, step, beq_one hsemicolon, beq_one hampersand, beq_one hangle, reverse_squeeze,
      hcons run rfl, apply_ite nextUnified, apply_ite nextUnified]
    rfl
  | opened =>
    have hmark : byteEnd.Free 0x21 := by decide
    have hquestion : byteEnd.Free 0x3F := by decide
    have hslash : byteEnd.Free 0x2F := by decide
    have htag := @inTag_unify [] b false h
    rw [unify, step, step, beq_one hmark, beq_one hquestion, beq_one hslash, apply_ite nextUnified,
      apply_ite nextUnified, apply_ite nextUnified, ← htag]
    rfl
  | declared =>
    have hbracket : byteEnd.Free 0x5B := by decide
    have hhyphen : byteEnd.Free 0x2D := by decide
    have hone : [byteEnd.one b] = byteEnd.flip.squeeze [b] := hcons [] rfl
    have hletter : (upperByte (byteEnd.one b) == 0x44) = (upperByte b == 0x44) :=
      LineEnd.test_one (e := byteEnd) (p := fun b => upperByte b == 0x44) (by decide) b
    rw [unify, step, step, beq_one hbracket, beq_one hhyphen, hletter, hone, apply_ite nextUnified,
      apply_ite nextUnified, apply_ite nextUnified]
    rfl
  | comment run =>
    rw [unify, step, step, beq_one hclose, Bool.and_assoc, Bool.and_assoc, endsComment_unify hsound,
      endComment_unify, hcons run rfl, apply_ite nextUnified]
    rfl
  | cdata run =>
    have htake : ((byteEnd.flip.squeeze run).take 2 == [0x5D, 0x5D]) = (run.take 2 == [0x5D, 0x5D]) :=
      @beq_take_squeeze byteEnd.flip [0x5D, 0x5D] (LineEnd.free_of_all (by decide)) run
    rw [unify, step, step, beq_one hclose, htake, hcons run rfl, apply_ite nextUnified]
    refine ite_congr rfl (fun hend => ?_) fun _ => rfl
    rw [Bool.and_eq_true, beq_iff_eq (α := Bytes)] at hend
    exact endCdata_unify hend.2
  | doctype run depth =>
    rw [unify, step, step, beq_one hclose, beq_one hangle, endDoctype_unify, hcons run rfl,
      apply_ite nextUnified, apply_ite nextUnified, apply_ite nextUnified]
    rfl
  | instruction run =>
    rw [unify, step, step, beq_one hclose, LineEnd.isEmpty_squeeze, beq_head?_squeeze (by decide),
      hcons run rfl, apply_ite nextUnified]
    refine ite_congr rfl (fun hend => ?_) fun _ => rfl
    rw [Bool.and_eq_true] at hend
    exact endInstruction_unify hend.2
  | tag closing run quote =>
    cases quote with
    | none => exact inTag_unify closing h
    | some q =>
      rw [unify, step, step, beq_one (hquotes closing run q rfl), hcons run rfl]
      rfl
  | failed fault => rfl

/-- After a carriage return a line feed does nothing more. -/
theorem step_pair (hquotes : m.Quotes) :
    ((m.step 0x0D).1.step 0x0A).2 = none ∧
      ((m.step 0x0D).1.step 0x0A).1.unify = (m.step 0x0D).1.unify := by
  cases m with
  | text run => exact ⟨rfl, congrArg text (squeeze_pair_run run)⟩
  | reference run => exact ⟨rfl, congrArg reference (squeeze_pair_run run)⟩
  | opened => exact ⟨rfl, rfl⟩
  | declared => exact ⟨rfl, rfl⟩
  | comment run => exact ⟨rfl, congrArg comment (squeeze_pair_run run)⟩
  | cdata run => exact ⟨rfl, congrArg cdata (squeeze_pair_run run)⟩
  | doctype run depth => exact ⟨rfl, congrArg (doctype · depth) (squeeze_pair_run run)⟩
  | instruction run => exact ⟨rfl, congrArg instruction (squeeze_pair_run run)⟩
  | tag closing run quote =>
    cases quote with
    | none => exact ⟨rfl, congrArg (tag closing · none) (squeeze_pair_run run)⟩
    | some q =>
      obtain ⟨hreturn, hfeed⟩ : q ≠ 0x0D ∧ q ≠ 0x0A := hquotes closing run q rfl
      have hstep : ∀ {b : UInt8}, q ≠ b → ∀ run, (tag closing run (some q)).step b =
          (tag closing (b :: run) (some q), none) := by
        intro b hb run
        rw [step, if_neg (by simpa using Ne.symm hb)]
      rw [hstep hreturn, hstep hfeed]
      exact ⟨rfl, congrArg (tag closing · (some q)) (squeeze_pair_run run)⟩
  | failed fault => exact ⟨rfl, rfl⟩

/-- Only a carriage return may be the first half of a line end. -/
theorem not_holds_of_ne (hb : b ≠ 0x0D) : ¬ (m.step b).1.Holds := by
  have hcons : ∀ run : Bytes, ¬ (b :: run).head? = some 0x0D := fun run he => hb (Option.some.inj he)
  have hnil : ¬ ([] : Bytes).head? = some 0x0D := fun he => by cases he
  have htag : ∀ closing run, ¬ (inTag closing run b).1.Holds := by
    intro closing run
    simp only [inTag]
    split
    · split
      · exact hnil
      · split
        · exact hnil
        · exact hnil
    · exact hcons run
  cases m with
  | opened =>
    simp only [step]
    split
    · exact hnil
    · split
      · exact hnil
      · split
        · exact hnil
        · exact htag false []
  | tag closing run quote =>
    cases quote with
    | none => exact htag closing run
    | some q => exact hcons run
  | failed fault => exact hnil
  | _ =>
    simp only [step, endComment, endCdata, endDoctype, endInstruction]
    repeat' split
    all_goals first | exact hnil | exact hcons _

theorem finish_unify (m : ScanMode) :
    m.unify.finish = (m.finish.1.map Token.unify, m.finish.2) := by
  cases m with
  | text run => rw [unify, finish, textToken_unify, finish]
  | _ => rfl

end ScanMode

/-! ### Whole texts -/

namespace Scan

/-- A scanner with all line ends unified. -/
def unify (s : Scan) : Scan := ⟨s.mode.unify, s.tokens.map Token.unify⟩

variable {s : Scan} {b : UInt8}

theorem step_unify (hsound : s.mode.Sound) (hquotes : s.mode.Quotes) (h : ¬ (b = 0x0A ∧ s.mode.Holds)) :
    s.unify.step (byteEnd.one b) = (s.step b).unify := by
  rw [step, unify, ScanMode.step_unify hsound hquotes h]
  show Scan.mk _ (Option.toList (Option.map _ _) ++ _) = Scan.mk _ (List.map _ (_ ++ _))
  rw [List.map_append, Option.toList_map]
  rfl

theorem step_pair (hquotes : s.mode.Quotes) :
    ((s.step 0x0D).step 0x0A).unify = (s.step 0x0D).unify := by
  obtain ⟨htoken, hmode⟩ := ScanMode.step_pair hquotes
  have hnext : ((s.step 0x0D).mode.step 0x0A).2 = none := htoken
  rw [step, hnext]
  exact congrArg (Scan.mk · _) hmode

/-- A text with unified line ends does to the scanner what the text does. -/
theorem run_unify (bytes : Bytes) :
    start.unify.run (byteEnd.squeeze bytes) = (start.run bytes).unify :=
  @LineEnd.foldl_squeeze UInt8 byteEnd _ Scan step unify (fun s => s.mode.Sound ∧ s.mode.Quotes)
    (fun s => s.mode.Holds)
    (fun _ b h => ⟨ScanMode.step_sound h.1 b, ScanMode.step_quotes h.2 b⟩)
    (fun _ _ hsound h => step_unify hsound.1 hsound.2 h) (fun _ h => step_pair h.2)
    (fun _ _ _ hb => ScanMode.not_holds_of_ne hb) bytes start ⟨trivial, fun _ _ _ hq => by cases hq⟩
    fun h => by cases h

theorem finish_unify (s : Scan) :
    s.unify.finish = (s.finish.1.map Token.unify, s.finish.2) := by
  rw [finish, unify, ScanMode.finish_unify]
  show (List.reverse (Option.toList (Option.map _ _) ++ _), _) = _
  rw [Option.toList_map, ← List.map_append, ← List.map_reverse]
  rfl

end Scan

/-- Text with unified line ends has the same tokens, up to the line ends that they carry, and the same
fault. -/
theorem scan_unify (bytes : Bytes) :
    scan (byteEnd.squeeze bytes) = ((scan bytes).1.map Token.unify, (scan bytes).2) := by
  show (Scan.start.unify.run (byteEnd.squeeze bytes)).finish = _
  rw [Scan.run_unify bytes]
  exact Scan.finish_unify _

end Builtins
