import Builtins.Proofs.Encoding.Forms

/-!
# The multi-byte encodings

Five encodings extend ASCII: their tables hold nothing but what is beyond it.

* `CharRun.le_toNat`, `CodeRun.le_toNat` — what a repertoire finds is beyond ASCII;
* `extendsAscii_shiftJis` and the like — so are all forms but the first.
-/

namespace Builtins

variable {n : Nat} {c : Char}

theorem CharRun.le_toNat {runs : List CharRun} (h : CharRun.char? runs n = some c) : 128 ≤ c.toNat := by
  obtain ⟨run, -, h⟩ := Option.bind_eq_some_iff.1 h
  exact of_decide_eq_true (Option.filter_eq_some_iff.1 h).2

/-- A run of characters beyond ASCII. -/
def CodeRun.Beyond (run : CodeRun) : Prop :=
  128 ≤ run.code ∧ (run.code + run.length ≤ 0xD800 ∨
    0xE000 ≤ run.code ∧ run.code + run.length ≤ 0x110000)

instance (run : CodeRun) : Decidable run.Beyond := inferInstanceAs (Decidable (_ ∧ (_ ∨ _ ∧ _)))

theorem CodeRun.le_toNat {runs : List CodeRun} (hruns : ∀ run ∈ runs, run.Beyond)
    (h : CodeRun.char? runs n = some c) : 128 ≤ c.toNat := by
  obtain ⟨run, hfind, rfl⟩ := Option.map_eq_some_iff.1 h
  have hbounds := List.find?_some hfind
  rw [Bool.and_eq_true, decide_eq_true_eq, decide_eq_true_eq] at hbounds
  obtain ⟨hcode, hvalid⟩ := hruns run (List.mem_of_find?_eq_some hfind)
  rw [CodePage.toNat_ofNat (by rw [Nat.isValidChar]; omega)]
  omega

namespace Form

theorem beyond_ofChar? {places : List Digits} {char? : Nat → Option Char}
    (later : ∀ digits ∈ places.tail, digits.High)
    (chars : ∀ n c, char? n = some c → 128 ≤ c.toNat) : (ofChar? places char?).Beyond := by
  refine ⟨later, fun n cs h => ?_⟩
  obtain ⟨c, hc, rfl⟩ := Option.map_eq_some_iff.1 h
  exact ⟨List.cons_ne_nil _ _, fun d hd => by rw [List.mem_singleton.1 hd]; exact chars n c hc⟩

theorem beyond_single {first last : UInt8} {code : Nat}
    (h : CodeRun.Beyond ⟨0, code, last.toNat - first.toNat + 1⟩) : (single first last code).Beyond :=
  beyond_ofChar? (fun _ hdigits => absurd hdigits List.not_mem_nil) fun _ _ =>
    CodeRun.le_toNat (List.forall_mem_singleton.2 h)

end Form

theorem extendsAscii_shiftJis : ExtendsAscii shiftJisForms := by
  refine ⟨_, rfl, ?_⟩
  simp only [List.forall_mem_cons]
  refine ⟨Form.beyond_single (by decide), Form.beyond_single (by decide),
    Form.beyond_ofChar? (by decide) fun n c h => ?_, fun _ hform => absurd hform List.not_mem_nil⟩
  rcases Option.or_eq_some_iff.1 h with h | ⟨-, h⟩
  · exact CodeRun.le_toNat (by decide) h
  · exact CharRun.le_toNat h

theorem extendsAscii_eucJp : ExtendsAscii eucJpForms := by
  refine ⟨_, rfl, ?_⟩
  simp only [List.forall_mem_cons]
  exact ⟨Form.beyond_ofChar? (by decide) fun _ _ => CodeRun.le_toNat (by decide),
    Form.beyond_ofChar? (by decide) fun _ _ => CharRun.le_toNat,
    Form.beyond_ofChar? (by decide) fun _ _ => CharRun.le_toNat,
    fun _ hform => absurd hform List.not_mem_nil⟩

theorem extendsAscii_eucKr : ExtendsAscii eucKrForms := by
  refine ⟨_, rfl, List.forall_mem_singleton.2 ?_⟩
  exact Form.beyond_ofChar? (by decide) fun _ _ => CharRun.le_toNat

theorem extendsAscii_big5 : ExtendsAscii big5Forms := by
  refine ⟨_, rfl, List.forall_mem_singleton.2 ⟨by decide, fun n cs h => ?_⟩⟩
  have hchars : big5Chars? n = some cs := h
  rw [big5Chars?] at hchars
  split at hchars
  · rename_i hmarked
    cases hchars
    have hrows : ∀ row ∈ big5Marked, row.2 ≠ [] ∧ row.2.all (128 ≤ ·.toNat) := by decide
    obtain ⟨before, after, hsplit, -⟩ := List.lookup_eq_some_iff.1 hmarked
    obtain ⟨hne, hall⟩ := hrows _ (hsplit ▸ List.mem_append_right before List.mem_cons_self)
    exact ⟨hne, fun c hc => of_decide_eq_true (List.all_eq_true.1 hall c hc)⟩
  · obtain ⟨c, hc, rfl⟩ := Option.map_eq_some_iff.1 hchars
    exact ⟨List.cons_ne_nil _ _, fun d hd => by
      rw [List.mem_singleton.1 hd]; exact CharRun.le_toNat hc⟩

theorem extendsAscii_chinese : ExtendsAscii chineseForms := by
  refine ⟨_, rfl, ?_⟩
  simp only [List.forall_mem_cons]
  refine ⟨Form.beyond_single (by decide), Form.beyond_ofChar? (by decide) fun n c h => ?_,
    Form.beyond_ofChar? (by decide) fun _ _ => CodeRun.le_toNat (by decide +kernel),
    fun _ hform => absurd hform List.not_mem_nil⟩
  rcases Option.or_eq_some_iff.1 h with h | ⟨-, h⟩
  · exact CodeRun.le_toNat (by decide +kernel) h
  · exact CharRun.le_toNat h

end Builtins
