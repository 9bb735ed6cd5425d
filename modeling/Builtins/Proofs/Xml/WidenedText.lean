import Builtins.Proofs.Encoding.Widening
import Builtins.Proofs.Xml.Scanning

/-!
# Scanning widened text

Markup is ASCII, so text can be scanned before or after its bytes are replaced by what stands for them:
the tokens are the same up to the bytes that they carry.

* `Token.widen`, `ScanMode.widen`, `Scan.widen` — with all bytes replaced;
* `ScanMode.step_ascii` — a byte of ASCII does the same before and after;
* `ScanMode.collect`, `ScanMode.foldl_collect_byte` — other bytes end nothing;
* `Scan.run_byte` — what stands for a byte does what the byte does;
* `scan_widen` — whole texts.
-/

namespace Builtins

variable (w : Widening)

/-! ### What stands for a byte -/

section Collecting

variable {σ : Type} {step : σ → UInt8 → σ} {first last : σ} (b : UInt8)

/-- What only collects bytes collects what stands for a byte. -/
theorem foldl_collect_widen (state : Bytes → σ) (h : ∀ run x, step (state run) x = state (x :: run))
    (run : Bytes) :
    (w.byte b).foldl step (state (w.mirror.widen run)) = state (w.mirror.widen (b :: run)) := by
  rw [foldl_collect state (fun x _ run => h run x), w.mirror.widen_cons]
  rfl

/-- What begins to collect with the first byte does so too. -/
theorem foldl_collect_first (state : Bytes → σ) (hfirst : ∀ x, step first x = state [x])
    (h : ∀ run x, step (state run) x = state (x :: run)) :
    (w.byte b).foldl step first = state (w.mirror.widen [b]) := by
  obtain ⟨x, rest, hbyte⟩ := List.exists_cons_of_ne_nil (w.byte_ne_nil b)
  have hmirror : w.mirror.byte b = (w.byte b).reverse := rfl
  rw [w.mirror.widen_singleton, hmirror, hbyte, List.foldl_cons, hfirst,
    foldl_collect state (fun x _ run => h run x), List.reverse_cons]

/-- What stays where the first byte brings it is there in the end. -/
theorem foldl_stay (hfirst : ∀ x, step first x = last) (h : ∀ x, step last x = last) :
    (w.byte b).foldl step first = last := by
  have hstay : ∀ bytes : Bytes, bytes.foldl step last = last := by
    intro bytes
    induction bytes with
    | nil => rfl
    | cons x bytes ih => rw [List.foldl_cons, h, ih]
  obtain ⟨x, rest, hbyte⟩ := List.exists_cons_of_ne_nil (w.byte_ne_nil b)
  rw [hbyte, List.foldl_cons, hfirst, hstay]

end Collecting

/-! ### Modes and tokens with their bytes replaced -/

/-- A token with the bytes that it carries replaced. -/
def Token.widen : Token → Token
  | .text content => .text (w.widen content)
  | .reference name => .reference (w.widen name)
  | .cdata content => .cdata (w.widen content)
  | .startTag content selfClosing => .startTag (w.widen content) selfClosing
  | .endTag content => .endTag (w.widen content)
  | .instruction content => .instruction (w.widen content)
  | .comment => .comment
  | .doctype => .doctype

namespace ScanMode

/-- A mode with the bytes of its run replaced. -/
def widen : ScanMode → ScanMode
  | text run => text (w.mirror.widen run)
  | reference run => reference (w.mirror.widen run)
  | opened => opened
  | declared => declared
  | comment run => comment (w.mirror.widen run)
  | cdata run => cdata (w.mirror.widen run)
  | doctype run depth => doctype (w.mirror.widen run) depth
  | instruction run => instruction (w.mirror.widen run)
  | tag closing run quote => tag closing (w.mirror.widen run) quote
  | failed fault => failed fault

/-- What a step gives, with the bytes replaced. -/
def next (result : ScanMode × Option Token) : ScanMode × Option Token :=
  (result.1.widen w, result.2.map (Token.widen w))

/-- What holds wherever the scanner comes to: a comment begins with its first hyphen, and quotes are
ASCII. -/
def Sound : ScanMode → Prop
  | comment run => run.getLast? = some 0x2D
  | tag _ _ quote => ∀ q ∈ quote, q.toNat < 128
  | _ => True

variable {w} {m : ScanMode} {run : Bytes} {b : UInt8}

theorem sound_inTag (closing : Bool) (run : Bytes) (b : UInt8) : (inTag closing run b).1.Sound := by
  simp only [inTag]
  split
  · split
    · trivial
    · split
      · trivial
      · trivial
  · show ∀ q ∈ if b == 0x27 || b == 0x22 then some b else none, q.toNat < 128
    intro q hq
    split at hq
    · rename_i hquote
      cases hq
      simp only [Bool.or_eq_true, beq_iff_eq] at hquote
      rcases hquote with rfl | rfl
      · decide
      · decide
    · cases hq

theorem step_sound (h : m.Sound) (b : UInt8) : (m.step b).1.Sound := by
  cases m with
  | comment run =>
    rw [step]
    split
    · rw [endComment]
      split
      · trivial
      · trivial
    · show (b :: run).getLast? = some 0x2D
      rw [List.getLast?_cons, h]
      rfl
  | tag closing run quote =>
    cases quote with
    | none => exact sound_inTag closing run b
    | some q =>
      show ∀ q' ∈ if b == q then none else some q, q'.toNat < 128
      intro q' hq'
      split at hq'
      · cases hq'
      · cases hq'
        exact h q rfl
  | opened =>
    simp only [step]
    split
    · trivial
    · split
      · trivial
      · split
        · exact fun q hq => by cases hq
        · exact sound_inTag false [] b
  | declared =>
    simp only [step]
    split
    · trivial
    · split
      · rename_i hb
        rw [beq_iff_eq] at hb
        rw [hb]
        rfl
      · split
        · trivial
        · trivial
  | failed fault => trivial
  | _ =>
    simp only [step, endCdata, endDoctype, endInstruction]
    repeat' split
    all_goals trivial

/-! ### A byte of ASCII -/

theorem textToken_widen (run : Bytes) :
    textToken (w.mirror.widen run) = (textToken run).map (Token.widen w) := by
  rw [textToken, w.mirror.isEmpty_widen, w.reverse_mirror, textToken]
  split
  · rfl
  · rfl

theorem inTag_widen (closing : Bool) (run : Bytes) (hb : b.toNat < 128) :
    inTag closing (w.mirror.widen run) b = next w (inTag closing run b) := by
  rw [inTag, inTag, apply_ite (next w), apply_ite (next w), apply_ite (next w)]
  refine ite_congr rfl (fun _ => ite_congr rfl (fun _ => ?_) fun _ => ite_congr ?_ (fun hslash => ?_)
    fun _ => ?_) fun _ => ?_
  · rw [w.reverse_mirror]
    rfl
  · rw [w.mirror.head?_widen (by decide)]
  · rw [w.mirror.tail_widen (by decide) (beq_iff_eq.1 hslash), w.reverse_mirror]
    rfl
  · rw [w.reverse_mirror]
    rfl
  · rw [← w.mirror.widen_cons_ascii hb]
    rfl

/-- The shortest comments are hyphens only. -/
theorem hyphen_of_short (hend : run.take 2 = [0x2D, 0x2D]) (h : run.getLast? = some 0x2D)
    (hshort : run.length < 4) : ∀ x ∈ run, x = 0x2D := by
  match run with
  | [] => cases hend
  | [_] => cases hend
  | [_, _] =>
    cases hend
    simp
  | [_, _, _] =>
    cases hend
    cases h
    simp
  | _ :: _ :: _ :: _ :: rest =>
    simp only [List.length_cons] at hshort
    omega

/-- A comment is long enough before and after, since a shorter one is ASCII only. -/
theorem endsComment_widen (h : run.getLast? = some 0x2D) :
    ((w.mirror.widen run).take 2 == [0x2D, 0x2D] && decide (4 ≤ (w.mirror.widen run).length)) =
      (run.take 2 == [0x2D, 0x2D] && decide (4 ≤ run.length)) := by
  have htake : ((w.mirror.widen run).take 2 == [0x2D, 0x2D]) = (run.take 2 == [0x2D, 0x2D]) :=
    @Widening.take_widen w.mirror [0x2D, 0x2D] (ascii_of_all rfl) run
  rw [htake]
  by_cases hend : run.take 2 = [0x2D, 0x2D]
  · rw [beq_iff_eq.2 hend, Bool.true_and, Bool.true_and, decide_eq_decide]
    have hle := w.mirror.length_le_widen run
    by_cases hshort : run.length < 4
    · have hascii : ∀ x ∈ run, x.toNat < 128 := by
        intro x hx
        rw [hyphen_of_short hend h hshort x hx]
        decide
      rw [w.mirror.widen_ascii hascii]
    · omega
  · rw [beq_eq_false_iff_ne.2 hend, Bool.false_and, Bool.false_and]

theorem endComment_widen (run : Bytes) :
    endComment (w.mirror.widen run) = next w (endComment run) := by
  have htake : ((w.widen run.reverse).take 2 == [0x2D, 0x2D]) = (run.reverse.take 2 == [0x2D, 0x2D]) :=
    @Widening.take_widen w [0x2D, 0x2D] (ascii_of_all rfl) run.reverse
  rw [endComment, w.reverse_mirror, htake, endComment, apply_ite (next w)]
  rfl

theorem endCdata_widen (h : run.take 2 = [0x5D, 0x5D]) :
    endCdata (w.mirror.widen run) = next w (endCdata run) := by
  have htake : ((w.widen run.reverse).take 7 == cdataOpening) =
      (run.reverse.take 7 == cdataOpening) :=
    @Widening.take_widen w cdataOpening (ascii_of_all rfl) run.reverse
  rw [endCdata, w.reverse_mirror, htake, endCdata, apply_ite (next w)]
  refine ite_congr rfl (fun hopening => ?_) fun _ => rfl
  have hclosed : ∀ x ∈ run.take 2, x.toNat < 128 := by
    rw [h]
    exact ascii_of_all rfl
  -- What stands before the closing brackets still begins with the opening.
  have hopened : ∀ x ∈ (run.drop 2).reverse.take 7, x.toNat < 128 := by
    intro x hx
    have hascii : ∀ x ∈ cdataOpening, x.toNat < 128 := ascii_of_all rfl
    obtain ⟨rest, hrest⟩ := List.reverse_prefix.2 (List.drop_suffix 2 run)
    refine hascii x ?_
    rw [← beq_iff_eq.1 hopening, ← hrest, List.take_append]
    exact List.mem_append_left _ hx
  rw [w.mirror.drop_widen hclosed, w.reverse_mirror, w.drop_widen hopened]
  rfl

theorem upperByte_high {b : UInt8} (hb : 128 ≤ b.toNat) : upperByte b = b := by
  have hletter : ¬ b ≤ 0x7A := by
    rw [UInt8.le_iff_toNat_le]
    show ¬ b.toNat ≤ 122
    omega
  simp [upperByte, hletter]

theorem endDoctype_widen (run : Bytes) :
    endDoctype (w.mirror.widen run) = next w (endDoctype run) := by
  have htake : (((w.widen run.reverse).take 7).map upperByte == doctypeOpening) =
      ((run.reverse.take 7).map upperByte == doctypeOpening) :=
    @Widening.map_take_widen w upperByte (fun b hb => by rwa [upperByte_high hb]) doctypeOpening
      (ascii_of_all rfl) run.reverse
  simp only [endDoctype, w.reverse_mirror, htake]
  rw [apply_ite (next w), apply_ite (next w)]
  refine ite_congr rfl (fun hopening => ite_congr ?_ (fun _ => rfl) fun _ => rfl) fun _ => rfl
  have hopened : ∀ x ∈ run.reverse.take 7, x.toNat < 128 := by
    intro x hx
    have hascii : ∀ x ∈ doctypeOpening, x.toNat < 128 := ascii_of_all rfl
    by_cases hhigh : 128 ≤ x.toNat
    · refine hascii x ?_
      rw [← beq_iff_eq.1 hopening, ← upperByte_high hhigh]
      exact List.mem_map_of_mem hx
    · omega
  rw [w.drop_widen hopened, Widening.all_widen Widening.sees_isMarkupBlank]

theorem endInstruction_widen (h : (run.isEmpty || run.head? == some 0x3F) = true) :
    endInstruction (w.mirror.widen run) = next w (endInstruction run) := by
  rw [endInstruction, w.mirror.isEmpty_widen, endInstruction, apply_ite (next w)]
  refine ite_congr rfl (fun _ => rfl) fun hempty => ?_
  have hmark : run.head? = some 0x3F := by
    rw [Bool.or_eq_true] at h
    exact beq_iff_eq.1 (h.resolve_left hempty)
  rw [w.mirror.tail_widen (by decide) hmark, w.reverse_mirror]
  rfl

/-- A byte of ASCII does the same before and after. -/
theorem step_ascii (h : m.Sound) (hb : b.toNat < 128) : (m.widen w).step b = next w (m.step b) := by
  have hcons : ∀ run, b :: w.mirror.widen run = w.mirror.widen (b :: run) := by
    intro run
    rw [w.mirror.widen_cons_ascii hb]
  cases m with
  | text run =>
    rw [widen, step, step, textToken_widen, hcons, apply_ite (next w), apply_ite (next w)]
    rfl
  | reference run =>
    rw [widen, step, step, w.reverse_mirror, hcons, apply_ite (next w), apply_ite (next w)]
    rfl
  | opened =>
    have htag := @inTag_widen w b false [] hb
    rw [widen, step, apply_ite (next w), apply_ite (next w), apply_ite (next w), ← htag]
    rfl
  | declared =>
    have hone : w.mirror.widen [b] = [b] := by rw [← hcons, Widening.widen_nil]
    rw [widen, step, apply_ite (next w), apply_ite (next w), apply_ite (next w)]
    show _ = if _ then (cdata (w.mirror.widen [b]), none) else if _ then
      (comment (w.mirror.widen [b]), none) else if _ then (doctype (w.mirror.widen [b]) 0, none) else _
    rw [hone]
    rfl
  | comment run =>
    rw [widen, step, step, Bool.and_assoc, Bool.and_assoc, endsComment_widen h, endComment_widen,
      hcons, apply_ite (next w)]
    rfl
  | cdata run =>
    have htake : ((w.mirror.widen run).take 2 == [0x5D, 0x5D]) = (run.take 2 == [0x5D, 0x5D]) :=
      @Widening.take_widen w.mirror [0x5D, 0x5D] (ascii_of_all rfl) run
    rw [widen, step, step, htake, hcons, apply_ite (next w)]
    refine ite_congr rfl (fun hend => ?_) fun _ => rfl
    rw [Bool.and_eq_true, beq_iff_eq (α := Bytes)] at hend
    exact endCdata_widen hend.2
  | doctype run depth =>
    rw [widen, step, step, endDoctype_widen, hcons, apply_ite (next w), apply_ite (next w),
      apply_ite (next w)]
    rfl
  | instruction run =>
    rw [widen, step, step, w.mirror.isEmpty_widen, w.mirror.head?_widen (by decide), hcons,
      apply_ite (next w)]
    refine ite_congr rfl (fun hend => ?_) fun _ => rfl
    rw [Bool.and_eq_true] at hend
    exact endInstruction_widen hend.2
  | tag closing run quote =>
    cases quote with
    | none => exact inTag_widen closing run hb
    | some q =>
      rw [widen, step, step, hcons]
      rfl
  | failed fault => rfl

/-! ### Other bytes -/

/-- The mode after a byte that is not ASCII. Such a byte ends nothing. -/
def collect : ScanMode → UInt8 → ScanMode
  | text run, b => text (b :: run)
  | reference run, b => reference (b :: run)
  | opened, b => tag false [b] none
  | declared, _ => failed .unknownMarkup
  | comment run, b => comment (b :: run)
  | cdata run, b => cdata (b :: run)
  | doctype run depth, b => doctype (b :: run) depth
  | instruction run, b => instruction (b :: run)
  | tag closing run quote, b => tag closing (b :: run) quote
  | failed fault, _ => failed fault

theorem inTag_high (closing : Bool) (run : Bytes) (hb : 128 ≤ b.toNat) :
    inTag closing run b = (tag closing (b :: run) none, none) := by
  rw [inTag, beq_of_high hb (by decide), beq_of_high hb (by decide), beq_of_high hb (by decide)]
  rfl

theorem step_high (h : m.Sound) (hb : 128 ≤ b.toNat) : m.step b = (m.collect b, none) := by
  cases m with
  | opened =>
    rw [step, beq_of_high hb (by decide), beq_of_high hb (by decide), beq_of_high hb (by decide)]
    exact inTag_high false [] hb
  | tag closing run quote =>
    cases quote with
    | none => exact inTag_high closing run hb
    | some q =>
      rw [step, beq_of_high hb (h q rfl)]
      rfl
  | failed fault => rfl
  | _ =>
    simp (disch := decide) only [step, collect, upperByte_high hb, beq_of_high hb, Bool.false_and,
      Bool.or_self, Bool.false_eq_true, if_false]

theorem collect_sound (h : m.Sound) (hb : 128 ≤ b.toNat) : (m.collect b).Sound := by
  have hsound := step_sound h b
  rwa [step_high h hb] at hsound

/-- What stands for a byte is collected as the byte is. -/
theorem foldl_collect_byte (m : ScanMode) (b : UInt8) :
    (w.byte b).foldl collect (m.widen w) = (m.collect b).widen w := by
  cases m with
  | text run => exact foldl_collect_widen w b text (fun _ _ => rfl) run
  | reference run => exact foldl_collect_widen w b reference (fun _ _ => rfl) run
  | opened =>
    exact foldl_collect_first w b (fun run => tag false run none) (fun _ => rfl) fun _ _ => rfl
  | declared => exact foldl_stay w b (fun _ => rfl) fun _ => rfl
  | comment run => exact foldl_collect_widen w b comment (fun _ _ => rfl) run
  | cdata run => exact foldl_collect_widen w b cdata (fun _ _ => rfl) run
  | doctype run depth =>
    exact foldl_collect_widen w b (fun run => doctype run depth) (fun _ _ => rfl) run
  | instruction run => exact foldl_collect_widen w b instruction (fun _ _ => rfl) run
  | tag closing run quote =>
    exact foldl_collect_widen w b (fun run => tag closing run quote) (fun _ _ => rfl) run
  | failed fault => exact foldl_stay w b (fun _ => rfl) fun _ => rfl

theorem widen_sound {m : ScanMode} (h : m.Sound) : (m.widen w).Sound := by
  cases m with
  | comment run =>
    show (w.mirror.widen run).getLast? = some 0x2D
    obtain ⟨rest, rfl⟩ := List.getLast?_eq_some_iff.1 h
    rw [w.mirror.widen_append, w.mirror.widen_singleton, w.mirror.ascii _ (by decide)]
    exact List.getLast?_concat
  | tag closing run quote => exact h
  | _ => trivial

theorem finish_widen (m : ScanMode) :
    (m.widen w).finish = (m.finish.1.map (Token.widen w), m.finish.2) := by
  cases m with
  | text run => rw [widen, finish, textToken_widen, finish]
  | _ => rfl

end ScanMode

/-! ### Whole texts -/

namespace Scan

/-- A scanner with all its bytes replaced. -/
def widen (s : Scan) : Scan := ⟨s.mode.widen w, s.tokens.map (Token.widen w)⟩

variable {w} {s : Scan} {b : UInt8}

/-- Bytes that are not ASCII give no token. -/
theorem run_high {bytes : Bytes} : ∀ {mode : ScanMode} {tokens : List Token}, mode.Sound →
    (∀ b ∈ bytes, 128 ≤ b.toNat) →
      Scan.run ⟨mode, tokens⟩ bytes = ⟨bytes.foldl ScanMode.collect mode, tokens⟩ := by
  induction bytes with
  | nil =>
    intro mode tokens _ _
    rfl
  | cons b bytes ih =>
    intro mode tokens h hbytes
    obtain ⟨hb, hbytes⟩ := List.forall_mem_cons.1 hbytes
    rw [run_cons, Scan.step, ScanMode.step_high h hb]
    exact ih (ScanMode.collect_sound h hb) hbytes

/-- What stands for a byte does to the scanner what the byte does. -/
theorem run_byte (h : s.mode.Sound) (b : UInt8) : (s.widen w).run (w.byte b) = (s.step b).widen w := by
  by_cases hb : b.toNat < 128
  · rw [w.ascii b hb]
    show Scan.step (s.widen w) b = _
    rw [Scan.step, Scan.widen, ScanMode.step_ascii h hb]
    show Scan.mk _ (Option.toList (Option.map _ _) ++ _) = Scan.mk _ (List.map _ (_ ++ _))
    rw [List.map_append, Option.toList_map]
    rfl
  · have hhigh : 128 ≤ b.toNat := Nat.le_of_not_lt hb
    rw [Scan.widen, run_high (ScanMode.widen_sound h) (w.high b hhigh).2, ScanMode.foldl_collect_byte,
      Scan.step, ScanMode.step_high h hhigh]
    rfl

/-- A widened text does to the scanner what the text does. -/
theorem run_widen (bytes : Bytes) (h : s.mode.Sound) :
    (s.widen w).run (w.widen bytes) = (s.run bytes).widen w :=
  @Widening.foldl_widen w Scan step (widen w) (fun s => s.mode.Sound) (fun h => run_byte h _)
    (fun h => ScanMode.step_sound h _) bytes s h

theorem finish_widen (s : Scan) :
    (s.widen w).finish = (s.finish.1.map (Token.widen w), s.finish.2) := by
  rw [finish, widen, ScanMode.finish_widen]
  show (List.reverse (Option.toList (Option.map _ _) ++ _), _) = _
  rw [Option.toList_map, ← List.map_append, ← List.map_reverse]
  rfl

end Scan

/-- Widened text has the same tokens, up to the bytes that they carry, and the same fault. -/
theorem scan_widen (bytes : Bytes) :
    scan (w.widen bytes) = ((scan bytes).1.map (Token.widen w), (scan bytes).2) := by
  have hstart : Scan.start.mode.Sound := trivial
  show ((Scan.start.widen w).run (w.widen bytes)).finish = _
  rw [Scan.run_widen bytes hstart]
  exact Scan.finish_widen _

end Builtins
