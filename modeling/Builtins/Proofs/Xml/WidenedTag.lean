import Builtins.Proofs.Xml.WidenedText

/-!
# Reading widened tags

The attributes of a tag can be found before or after its bytes are replaced by what stands for them,
since keys end and values are quoted in ASCII, and different keys stay different.

* `AttrMode.widen`, `AttrScan.widen` — with all bytes replaced;
* `AttrScan.step_ascii`, `AttrScan.collect` — what a byte of ASCII does, and what others do;
* `AttrScan.run_byte` — what stands for a byte does what the byte does;
* `scanAttributes_widen`, `tagName_widen`, `tagRest_widen`, `endTagName_widen` — the parts of a tag.
-/

namespace Builtins

variable (w : Widening)

/-! ### Attributes -/

/-- A mode of the scanner of attributes with its bytes replaced. -/
def AttrMode.widen : AttrMode → AttrMode
  | .gap => .gap
  | .key run => .key (w.mirror.widen run)
  | .afterKey name => .afterKey (w.widen name)
  | .afterEquals name => .afterEquals (w.widen name)
  | .value name quote run => .value (w.widen name) quote (w.mirror.widen run)
  | .failed fault => .failed fault

/-- Values are quoted with ASCII. -/
def AttrMode.Sound : AttrMode → Prop
  | .value _ quote _ => quote.toNat < 128
  | _ => True

/-- An attribute with its bytes replaced. -/
def widenPair (p : Bytes × Bytes) : Bytes × Bytes := (w.widen p.1, w.widen p.2)

namespace AttrScan

/-- A scanner of attributes with all its bytes replaced. -/
def widen (s : AttrScan) : AttrScan := ⟨s.distinct, s.mode.widen w, s.found.map (widenPair w)⟩

variable {w} {s : AttrScan} {b : UInt8}

theorem step_sound (h : s.mode.Sound) (b : UInt8) : (s.step b).mode.Sound := by
  obtain ⟨distinct, mode, found⟩ := s
  cases mode with
  | afterEquals name =>
    simp only [step]
    split
    · rename_i hquote
      simp only [Bool.or_eq_true, beq_iff_eq] at hquote
      show b.toNat < 128
      rcases hquote with rfl | rfl
      · decide
      · decide
    · split
      · trivial
      · trivial
  | value name quote run =>
    simp only [step]
    split
    · trivial
    · exact h
  | failed fault => trivial
  | _ =>
    simp only [step, withKey]
    repeat' split
    all_goals trivial

theorem withKey_widen (s : AttrScan) (key : Bytes) (next : AttrMode) :
    (s.widen w).withKey (w.widen key) (next.widen w) = (s.withKey key next).widen w := by
  have hany : (s.found.map (widenPair w)).any (·.1 == w.widen key) = s.found.any (·.1 == key) := by
    rw [List.any_map]
    refine congrArg s.found.any (funext fun p => ?_)
    exact w.beq_widen p.1 key
  rw [withKey, withKey, apply_ite (widen w)]
  show (if (s.distinct && (s.found.map (widenPair w)).any (·.1 == w.widen key)) = true then _ else _) = _
  rw [hany]
  rfl

/-- A byte of ASCII does the same before and after. -/
theorem step_ascii (s : AttrScan) (hb : b.toNat < 128) : (s.widen w).step b = (s.step b).widen w := by
  obtain ⟨distinct, mode, found⟩ := s
  have hcons : ∀ run, b :: w.mirror.widen run = w.mirror.widen (b :: run) := by
    intro run
    rw [w.mirror.widen_cons_ascii hb]
  cases mode with
  | gap =>
    have hone : w.mirror.widen [b] = [b] := by rw [← hcons, Widening.widen_nil]
    simp only [step, apply_ite (widen w)]
    show (if _ then _ else AttrScan.mk _ (.key [b]) _) =
      if _ then _ else AttrScan.mk _ (.key (w.mirror.widen [b])) _
    rw [hone]
    rfl
  | key run =>
    have hkey := @withKey_widen w ⟨distinct, .key run, found⟩ run.reverse (.afterEquals run.reverse)
    simp only [step, apply_ite (widen w), ← hkey]
    show (if _ then withKey _ _ (.afterEquals (w.mirror.widen run).reverse) else if _ then
      AttrScan.mk _ (.afterKey (w.mirror.widen run).reverse) _ else
        AttrScan.mk _ (.key (b :: w.mirror.widen run)) _) = _
    rw [w.reverse_mirror, hcons]
    rfl
  | afterKey name =>
    have hkey := @withKey_widen w ⟨distinct, .afterKey name, found⟩ name (.afterEquals name)
    simp only [step, apply_ite (widen w), ← hkey]
    rfl
  | afterEquals name =>
    simp only [step, apply_ite (widen w)]
    rfl
  | value name quote run =>
    simp only [step, apply_ite (widen w)]
    show (if _ then AttrScan.mk _ .gap ((w.widen name, (w.mirror.widen run).reverse) :: _) else
      AttrScan.mk _ (.value (w.widen name) quote (b :: w.mirror.widen run)) _) = _
    rw [w.reverse_mirror, hcons]
    rfl
  | failed fault => rfl

/-- The mode after a byte that is not ASCII. -/
def collect : AttrMode → UInt8 → AttrMode
  | .gap, b => .key [b]
  | .key run, b => .key (b :: run)
  | .afterKey _, _ => .failed .noEquals
  | .afterEquals _, _ => .failed .unquotedValue
  | .value name quote run, b => .value name quote (b :: run)
  | .failed fault, _ => .failed fault

theorem step_high (h : s.mode.Sound) (hb : 128 ≤ b.toNat) :
    s.step b = { s with mode := collect s.mode b } := by
  have hblank : isMarkupBlank b = false := by
    simp (disch := decide) only [isMarkupBlank, beq_of_high hb, Bool.or_self]
  obtain ⟨distinct, mode, found⟩ := s
  cases mode with
  | value name quote run =>
    simp only [step, beq_of_high hb h]
    rfl
  | _ =>
    simp (disch := decide) only [step, collect, hblank, beq_of_high hb, Bool.or_self,
      Bool.false_eq_true, if_false]

/-- What stands for a byte is collected as the byte is. -/
theorem foldl_collect_byte (m : AttrMode) (b : UInt8) :
    (w.byte b).foldl collect (m.widen w) = (collect m b).widen w := by
  cases m with
  | gap => exact foldl_collect_first w b AttrMode.key (fun _ => rfl) fun _ _ => rfl
  | key run => exact foldl_collect_widen w b AttrMode.key (fun _ _ => rfl) run
  | afterKey name => exact foldl_stay w b (fun _ => rfl) fun _ => rfl
  | afterEquals name => exact foldl_stay w b (fun _ => rfl) fun _ => rfl
  | value name quote run =>
    exact foldl_collect_widen w b (AttrMode.value (w.widen name) quote) (fun _ _ => rfl) run
  | failed fault => exact foldl_stay w b (fun _ => rfl) fun _ => rfl

theorem run_high {bytes : Bytes} : ∀ {s : AttrScan}, s.mode.Sound → (∀ b ∈ bytes, 128 ≤ b.toNat) →
    s.run bytes = { s with mode := bytes.foldl collect s.mode } := by
  induction bytes with
  | nil =>
    intro s _ _
    rfl
  | cons b bytes ih =>
    intro s h hbytes
    obtain ⟨hb, hbytes⟩ := List.forall_mem_cons.1 hbytes
    have hsound := step_sound h b
    rw [step_high h hb] at hsound
    rw [run_cons, step_high h hb, ih hsound hbytes]
    rfl

/-- What stands for a byte does to the scanner of attributes what the byte does. -/
theorem run_byte (h : s.mode.Sound) (b : UInt8) :
    (s.widen w).run (w.byte b) = (s.step b).widen w := by
  by_cases hb : b.toNat < 128
  · rw [w.ascii b hb]
    exact step_ascii s hb
  · have hhigh : 128 ≤ b.toNat := Nat.le_of_not_lt hb
    have hsound : (s.mode.widen w).Sound := by
      cases hmode : s.mode with
      | value name quote run =>
        rw [hmode] at h
        exact h
      | _ => trivial
    rw [@run_high _ (s.widen w) hsound (w.high b hhigh).2, step_high h hhigh]
    show AttrScan.mk _ ((w.byte b).foldl collect (s.mode.widen w)) _ = _
    rw [foldl_collect_byte]
    rfl

theorem run_widen (bytes : Bytes) (h : s.mode.Sound) :
    (s.widen w).run (w.widen bytes) = (s.run bytes).widen w :=
  @Widening.foldl_widen w AttrScan step (widen w) (fun s => s.mode.Sound) (fun h => run_byte h _)
    (fun h => step_sound h _) bytes s h

theorem finish_widen (s : AttrScan) :
    (s.widen w).finish = (s.finish.1.map (widenPair w), s.finish.2) := by
  obtain ⟨distinct, mode, found⟩ := s
  show ((found.map (widenPair w)).reverse, _) = (found.reverse.map (widenPair w), _)
  rw [List.map_reverse]
  cases mode with
  | _ => rfl

end AttrScan

/-- Widened attributes are the same up to the bytes of their keys and values, with the same fault. -/
theorem scanAttributes_widen (distinct : Bool) (bytes : Bytes) :
    scanAttributes distinct (w.widen bytes) =
      ((scanAttributes distinct bytes).1.map (widenPair w), (scanAttributes distinct bytes).2) := by
  have hstart : (AttrScan.mk distinct .gap []).mode.Sound := trivial
  show (((AttrScan.mk distinct .gap []).widen w).run (w.widen bytes)).finish = _
  rw [AttrScan.run_widen bytes hstart]
  exact AttrScan.finish_widen _

/-! ### The parts of a tag -/

theorem tagName_widen (content : Bytes) : tagName (w.widen content) = w.widen (tagName content) :=
  Widening.takeWhile_widen Widening.sees_isMarkupBlank.not content

theorem tagRest_widen (content : Bytes) : tagRest (w.widen content) = w.widen (tagRest content) :=
  Widening.dropWhile_widen Widening.sees_isMarkupBlank.not content

theorem endTagName_widen (content : Bytes) :
    endTagName (w.widen content) = w.widen (endTagName content) := by
  have hreverse : (w.widen content).reverse = w.mirror.widen content.reverse := by
    rw [← List.reverse_inj, w.reverse_mirror, List.reverse_reverse, List.reverse_reverse]
  rw [endTagName, Widening.all_widen Widening.sees_isMarkupBlank, hreverse,
    Widening.dropWhile_widen Widening.sees_isMarkupBlank, w.reverse_mirror, endTagName,
    apply_ite w.widen]

end Builtins
