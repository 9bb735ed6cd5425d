import Builtins.Proofs.Xml.UnifiedText
import Mathlib.Data.List.Find

/-!
# Reading tags with unified line ends

Line ends are white space between the parts of a tag, so only what is quoted carries them. A declaration names
its encoding by a label without any.

* `AttrScan.unify` — attributes with the line ends of their values unified;
* `scanAttributes_unify`, `tagName_unify`, `tagRest_unify`, `endTagName_unify` — the parts of a tag;
* `declaredEncoding?_unify` — the encoding that is declared.
-/

namespace Builtins

/-- An attribute with the line ends of its value unified. -/
def unifyPair (p : Bytes × Bytes) : Bytes × Bytes := (p.1, byteEnd.squeeze p.2)

/-- A mode of the scanner of attributes with the line ends of a value unified. -/
def AttrMode.unify : AttrMode → AttrMode
  | .value name quote run => .value name quote (byteEnd.flip.squeeze run)
  | mode => mode

/-- No quote is a part of a line end. -/
def AttrMode.Quotes (m : AttrMode) : Prop :=
  ∀ name quote run, m = .value name quote run → byteEnd.Free quote

/-- Whether the latest byte of a value may be the first half of a line end. -/
def AttrMode.Holds (m : AttrMode) : Prop :=
  ∃ name quote run, m = .value name quote run ∧ run.head? = some 0x0D

theorem isMarkupBlank_one (b : UInt8) : isMarkupBlank (byteEnd.one b) = isMarkupBlank b :=
  LineEnd.test_one (e := byteEnd) (by decide) b

/-- What is no white space is no part of a line end. -/
theorem free_of_not_blank {b : UInt8} (h : isMarkupBlank b = false) : byteEnd.Free b := by
  constructor
  · rintro rfl
    cases h
  · rintro rfl
    cases h

/-- What is no white space stands for itself. -/
theorem one_of_not_blank {b : UInt8} (h : ¬ isMarkupBlank b = true) : byteEnd.one b = b :=
  LineEnd.one_of_free (free_of_not_blank (Bool.eq_false_iff.2 h))

namespace AttrScan

/-- A scanner of attributes with the line ends of all values unified. -/
def unify (s : AttrScan) : AttrScan := ⟨s.distinct, s.mode.unify, s.found.map unifyPair⟩

variable {s : AttrScan} {b : UInt8}

theorem step_quotes (h : s.mode.Quotes) (b : UInt8) : (s.step b).mode.Quotes := by
  obtain ⟨distinct, mode, found⟩ := s
  intro name quote run hmode
  cases mode with
  | afterEquals key =>
    simp only [step] at hmode
    split at hmode
    · rename_i hquote
      cases hmode
      exact free_of_quote hquote
    · split at hmode
      · cases hmode
      · cases hmode
  | value key q bytes =>
    simp only [step] at hmode
    split at hmode
    · cases hmode
    · cases hmode
      exact h _ _ _ rfl
  | failed fault => cases hmode
  | _ =>
    simp only [step, withKey] at hmode
    repeat' split at hmode
    all_goals cases hmode

theorem withKey_unify (s : AttrScan) (key : Bytes) {next : AttrMode} (hnext : next.unify = next) :
    s.unify.withKey key next = (s.withKey key next).unify := by
  have hany : (s.found.map unifyPair).any (·.1 == key) = s.found.any (·.1 == key) := by
    rw [List.any_map]
    rfl
  rw [withKey, withKey, apply_ite unify]
  show (if (s.distinct && (s.found.map unifyPair).any (fun p => p.1 == key)) = true then _ else _) = _
  rw [hany]
  refine ite_congr rfl (fun _ => rfl) fun _ => ?_
  show AttrScan.mk _ next _ = AttrScan.mk _ next.unify _
  rw [hnext]
  rfl

/-- A byte does the same before and after, unless it is the second half of a pair. -/
theorem step_unify (hquotes : s.mode.Quotes) (h : ¬ (b = 0x0A ∧ s.mode.Holds)) :
    s.unify.step (byteEnd.one b) = (s.step b).unify := by
  obtain ⟨distinct, mode, found⟩ := s
  have hequals : byteEnd.Free 0x3D := by decide
  cases mode with
  | gap =>
    simp only [step, apply_ite unify]
    show (if isMarkupBlank (byteEnd.one b) = true then _ else AttrScan.mk _ (.key [byteEnd.one b]) _) = _
    rw [isMarkupBlank_one]
    refine ite_congr rfl (fun _ => rfl) fun hb => ?_
    rw [one_of_not_blank hb]
    rfl
  | key run =>
    have hkey := withKey_unify ⟨distinct, .key run, found⟩ run.reverse
      (rfl : (AttrMode.afterEquals run.reverse).unify = _)
    simp only [step, apply_ite unify, ← hkey]
    show (if byteEnd.one b == 0x3D then _ else if isMarkupBlank (byteEnd.one b) then _ else
      AttrScan.mk _ (.key (byteEnd.one b :: run)) _) = _
    rw [isMarkupBlank_one, beq_one hequals]
    refine ite_congr rfl (fun _ => rfl) fun _ => ite_congr rfl (fun _ => rfl) fun hb => ?_
    rw [one_of_not_blank hb]
    rfl
  | afterKey key =>
    have hkey := withKey_unify ⟨distinct, .afterKey key, found⟩ key
      (rfl : (AttrMode.afterEquals key).unify = _)
    simp only [step, apply_ite unify, ← hkey]
    show (if byteEnd.one b == 0x3D then _ else if isMarkupBlank (byteEnd.one b) then _ else _) = _
    rw [isMarkupBlank_one, beq_one hequals]
    rfl
  | afterEquals key =>
    have hsingle : byteEnd.Free 0x27 := by decide
    have hdouble : byteEnd.Free 0x22 := by decide
    simp only [step, apply_ite unify]
    show (if byteEnd.one b == 0x27 || byteEnd.one b == 0x22 then
      AttrScan.mk _ (.value key (byteEnd.one b) []) _ else if isMarkupBlank (byteEnd.one b) then _ else _) = _
    rw [isMarkupBlank_one, beq_one hsingle, beq_one hdouble]
    refine ite_congr rfl (fun hb => ?_) fun _ => rfl
    rw [LineEnd.one_of_free (free_of_quote hb)]
    rfl
  | value key quote run =>
    have hcons := squeeze_cons_run fun hb => h ⟨hb.1, key, quote, run, rfl, hb.2⟩
    simp only [step, apply_ite unify]
    show (if byteEnd.one b == quote then
      AttrScan.mk _ .gap ((key, (byteEnd.flip.squeeze run).reverse) :: _) else
        AttrScan.mk _ (.value key quote (byteEnd.one b :: byteEnd.flip.squeeze run)) _) = _
    rw [beq_one (hquotes key quote run rfl), reverse_squeeze, ← hcons]
    rfl
  | failed fault => rfl

/-- After a carriage return a line feed does nothing more. -/
theorem step_pair (hquotes : s.mode.Quotes) :
    ((s.step 0x0D).step 0x0A).unify = (s.step 0x0D).unify := by
  obtain ⟨distinct, mode, found⟩ := s
  cases mode with
  | value key quote run =>
    obtain ⟨hreturn, hfeed⟩ : quote ≠ 0x0D ∧ quote ≠ 0x0A := hquotes key quote run rfl
    have hstep : ∀ {b : UInt8}, quote ≠ b → ∀ run,
        (AttrScan.mk distinct (.value key quote run) found).step b =
          ⟨distinct, .value key quote (b :: run), found⟩ := by
      intro b hb run
      simp only [step, beq_eq_false_iff_ne.2 (Ne.symm hb), Bool.false_eq_true, if_false]
    rw [hstep hreturn, hstep hfeed]
    exact congrArg (fun run => AttrScan.mk distinct (.value key quote run) _) (squeeze_pair_run run)
  | _ => rfl

theorem not_holds_of_ne (hb : b ≠ 0x0D) : ¬ (s.step b).mode.Holds := by
  obtain ⟨distinct, mode, found⟩ := s
  rintro ⟨name, quote, run, hmode, hhead⟩
  cases mode with
  | afterEquals key =>
    simp only [step] at hmode
    split at hmode
    · cases hmode
      cases hhead
    · split at hmode
      · cases hmode
      · cases hmode
  | value key q bytes =>
    simp only [step] at hmode
    split at hmode
    · cases hmode
    · cases hmode
      exact hb (Option.some.inj hhead)
  | failed fault => cases hmode
  | _ =>
    simp only [step, withKey] at hmode
    repeat' split at hmode
    all_goals cases hmode

theorem run_unify (distinct : Bool) (bytes : Bytes) :
    (AttrScan.mk distinct .gap []).run (byteEnd.squeeze bytes) =
      ((AttrScan.mk distinct .gap []).run bytes).unify :=
  @LineEnd.foldl_squeeze UInt8 byteEnd _ AttrScan step unify (fun s => s.mode.Quotes) (fun s => s.mode.Holds)
    (fun _ b h => step_quotes h b) (fun _ _ hquotes h => step_unify hquotes h) (fun _ h => step_pair h)
    (fun _ _ _ hb => not_holds_of_ne hb) bytes ⟨distinct, .gap, []⟩ (fun _ _ _ hmode => by cases hmode)
    fun ⟨_, _, _, hmode, _⟩ => by cases hmode

theorem finish_unify (s : AttrScan) : s.unify.finish = (s.finish.1.map unifyPair, s.finish.2) := by
  obtain ⟨distinct, mode, found⟩ := s
  show ((found.map unifyPair).reverse, _) = (found.reverse.map unifyPair, _)
  rw [List.map_reverse]
  cases mode with
  | _ => rfl

end AttrScan

/-- Attributes with unified line ends are the same up to those of their values, with the same fault. -/
theorem scanAttributes_unify (distinct : Bool) (bytes : Bytes) :
    scanAttributes distinct (byteEnd.squeeze bytes) =
      ((scanAttributes distinct bytes).1.map unifyPair, (scanAttributes distinct bytes).2) := by
  show ((AttrScan.mk distinct .gap []).run (byteEnd.squeeze bytes)).finish = _
  rw [AttrScan.run_unify]
  exact AttrScan.finish_unify _

/-! ### The parts of a tag -/

theorem tagName_unify (content : Bytes) : tagName (byteEnd.squeeze content) = tagName content :=
  LineEnd.takeWhile_squeeze (by decide) (by decide) content

theorem tagRest_unify (content : Bytes) :
    tagRest (byteEnd.squeeze content) = byteEnd.squeeze (tagRest content) :=
  LineEnd.dropWhile_squeeze (by decide) content

theorem endTagName_unify (content : Bytes) :
    endTagName (byteEnd.squeeze content) = byteEnd.squeeze (endTagName content) := by
  rw [endTagName, LineEnd.all_squeeze (by decide), LineEnd.reverse_squeeze,
    LineEnd.dropWhile_squeeze (by decide), reverse_squeeze, endTagName, apply_ite byteEnd.squeeze]

/-! ### Declarations -/

namespace Encoding

theorem free_lowerByte {b : UInt8} (h : byteEnd.Free b) : byteEnd.Free (lowerByte b) := by
  rw [lowerByte]
  split
  · rename_i hletter
    rw [Bool.and_eq_true, decide_eq_true_eq, decide_eq_true_eq, UInt8.le_iff_toNat_le,
      UInt8.le_iff_toNat_le] at hletter
    have hlow : 65 ≤ b.toNat := hletter.1
    have hhigh : b.toNat ≤ 90 := hletter.2
    have hnat : (b + 0x20).toNat = (b.toNat + 32) % 256 := UInt8.toNat_add b 0x20
    exact free_of_toNat (by omega)
  · exact h

theorem normalLabel_unify (label : Bytes) :
    normalLabel (byteEnd.squeeze label) = byteEnd.squeeze (normalLabel label) := by
  rw [normalLabel, LineEnd.dropWhile_squeeze (by decide), LineEnd.reverse_squeeze,
    LineEnd.dropWhile_squeeze (by decide), reverse_squeeze,
    LineEnd.map_squeeze_of_free (by decide) (by decide) fun _ => free_lowerByte, normalLabel]

/-- No label has a line end. -/
theorem free_labelled : ∀ row ∈ labelled, ∀ l ∈ row.2,
    ((Builtins.utf8 l).all fun b => decide (byteEnd.Free b)) = true := by
  decide +kernel

/-- A label is known before and after. -/
theorem ofLabel?_unify (label : Bytes) : ofLabel? (byteEnd.squeeze label) = ofLabel? label := by
  have hrow : ∀ row ∈ labelled, (row.2.any fun l => Builtins.utf8 l == normalLabel (byteEnd.squeeze label)) =
      row.2.any fun l => Builtins.utf8 l == normalLabel label := by
    intro row hrow
    rw [Bool.eq_iff_iff, List.any_eq_true, List.any_eq_true]
    refine exists_congr fun l => and_congr_right fun hl => ?_
    rw [beq_iff_eq, beq_iff_eq, normalLabel_unify, eq_comm,
      LineEnd.squeeze_eq_iff (LineEnd.free_of_all (free_labelled row hrow l hl)), eq_comm]
  rw [ofLabel?, ofLabel?]
  congr 1
  exact List.find?_congr hrow

end Encoding

theorem declaredValue?_unify (key content : Bytes) :
    declaredValue? key (byteEnd.squeeze content) = (declaredValue? key content).map byteEnd.squeeze := by
  have hkey : ((fun p : Bytes × Bytes => p.1 == key) ∘ unifyPair) = fun p => p.1 == key := rfl
  rw [declaredValue?, scanAttributes_unify, List.find?_map, hkey, Option.map_map, declaredValue?,
    Option.map_map]
  rfl

/-- A declaration is one of the same encoding before and after. -/
theorem declaredEncoding?_unify (content : Bytes) :
    Reader.declaredEncoding? (byteEnd.squeeze content) = Reader.declaredEncoding? content := by
  have hfree : ∀ b ∈ Reader.declarationTarget, byteEnd.Free b := LineEnd.free_of_all (by decide)
  have htake : ((byteEnd.squeeze content).take 3 == Reader.declarationTarget) =
      (content.take 3 == Reader.declarationTarget) :=
    @beq_take_squeeze byteEnd Reader.declarationTarget hfree content
  rw [Reader.declaredEncoding?, Reader.declaredEncoding?, htake]
  by_cases htarget : content.take 3 = Reader.declarationTarget
  · have hdrop : (byteEnd.squeeze content).drop 3 = byteEnd.squeeze (content.drop 3) :=
      LineEnd.drop_squeeze (by rwa [htarget])
    have hblank : ((byteEnd.squeeze (content.drop 3)).head?.all isMarkupBlank) =
        (content.drop 3).head?.all isMarkupBlank := by
      rw [LineEnd.head?_squeeze]
      cases (content.drop 3).head? with
      | none => rfl
      | some b => exact isMarkupBlank_one b
    rw [hdrop, hblank, declaredValue?_unify]
    cases declaredValue? Reader.encodingKey (content.drop 3) with
    | none => rfl
    | some value => rw [Option.map_some, Option.bind_some, Option.bind_some, Encoding.ofLabel?_unify]
  · rw [beq_eq_false_iff_ne.2 htarget, Bool.false_and]
    rfl

end Builtins
