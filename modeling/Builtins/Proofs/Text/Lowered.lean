import Builtins.Proofs.Text.Lowercase

/-!
# Lower-casing twice

A text in lower case stays as it is when it is lower-cased again: no lower-case letter has one of its
own, and a sigma that has got its form is not looked at any more.

* `CaseRange.moving` — the characters that lower-casing changes, as ranges;
* `CaseRange.lowerRanges_avoid` — no lower-case letter of one range is in another;
* `Lowered` — a character that lower-casing leaves as it is, wherever it stands;
* `lowered_of_mem_lowercase` — there are no others in a text in lower case;
* `lowercase_of_lowered` — which is why nothing changes when it is lower-cased again.
-/

namespace Builtins

/-! ### The table -/

namespace CaseRange

/-- All characters that lower-casing changes: those of the table, and the two without one fixed
lower-case letter. -/
def moving : List CaseRange := ⟨0x130, 0x130, 1, 0⟩ :: ⟨0x3A3, 0x3A3, 1, 0⟩ :: lowerRanges

/-- The first lower-case letter of a range. -/
def lowest (r : CaseRange) : Nat := (r.first + r.shift).toNat

/-- The last lower-case letter of a range. -/
def highest (r : CaseRange) : Nat := (r.last + r.shift).toNat

/-- Whether no lower-case letter of `r` is in `r'`: they lie before it or behind it, or capital and small
letters take turns there. -/
def avoids (r r' : CaseRange) : Bool :=
  r.highest.blt r'.first || r'.last.blt r.lowest ||
    (r.step == 2 || r.first == r.last) && r'.step == 2 && (r.lowest - r'.first) % 2 == 1

/-- The range of the capital letters in ASCII. -/
def ascii : CaseRange := ⟨0x41, 0x5A, 1, 32⟩

theorem ascii_mem : ascii ∈ lowerRanges := List.mem_cons_self

/-- No lower-case letter of one range is in another. -/
theorem lowerRanges_avoid : (lowerRanges.all fun r => moving.all r.avoids) = true := by
  decide +kernel

/-- And all of them are characters. -/
theorem lowerRanges_valid : ∀ r ∈ lowerRanges, r.LowersValid := by
  decide +kernel

variable {r r' : CaseRange} {m n : Nat}

theorem contains_ascii : ascii.contains n = true ↔ 65 ≤ n ∧ n ≤ 90 := by
  rw [contains_iff]
  show 65 ≤ n ∧ n ≤ 90 ∧ (n - 65) % 1 = 0 ↔ _
  omega

theorem not_contains_of_avoids (h : r.avoids r' = true) (hn : r.contains n = true)
    (hm : (m : Int) = n + r.shift) : r'.contains m = false := by
  obtain ⟨hfirst, hlast, hstep⟩ := contains_iff.1 hn
  have hlow : r.lowest ≤ m := by
    show (r.first + r.shift).toNat ≤ m
    omega
  have hhigh : m ≤ r.highest := by
    show m ≤ (r.last + r.shift).toNat
    omega
  rw [Bool.eq_false_iff, Ne, contains_iff]
  rintro ⟨hfirst', hlast', hstep'⟩
  simp only [avoids, Bool.or_eq_true, Bool.and_eq_true, Nat.blt_eq, beq_iff_eq] at h
  rcases h with (hbefore | hbehind) | ⟨⟨hone, htwo⟩, hodd⟩
  · omega
  · omega
  · -- Then the letters of `r` lie an even number of places behind the first of them.
    have heven : (m - r.lowest) % 2 = 0 := by
      have hshift : r.lowest = (r.first + r.shift).toNat := rfl
      rcases hone with hturns | hsingle
      · rw [hturns] at hstep
        omega
      · omega
    rw [htwo] at hstep'
    omega

end CaseRange

/-! ### One character -/

/-- A character that lower-casing leaves as it is, wherever it stands. -/
structure Lowered (c : Char) : Prop where
  ne_sigma : c ≠ 'Σ'
  lower : lowerChar c = [c]

instance (c : Char) : Decidable (Lowered c) :=
  decidable_of_iff (c ≠ 'Σ' ∧ lowerChar c = [c]) ⟨fun h => ⟨h.1, h.2⟩, fun h => ⟨h.1, h.2⟩⟩

/-- An ASCII character that is no capital letter does not change. -/
theorem lowerChar_of_ascii {c : Char} (hlow : c.toNat < 0x80)
    (hcapital : ¬ (65 ≤ c.toNat ∧ c.toNat ≤ 90)) : lowerChar c = [c] := by
  have hself : c.toLower.toNat = c.toNat := by rw [toNat_toLower, if_neg hcapital]
  rw [lowerChar, if_pos hlow, Char.toNat_inj.1 hself]

/-- A character in no range of the table does not change. -/
theorem lowered_of_not_moving {c : Char} (h : ∀ r ∈ CaseRange.moving, r.contains c.toNat = false) :
    Lowered c := by
  have hdotted : c ≠ 'İ' := by
    rintro rfl
    exact absurd (h ⟨0x130, 0x130, 1, 0⟩ (by simp [CaseRange.moving])) (by decide)
  have hsigma : c ≠ 'Σ' := by
    rintro rfl
    exact absurd (h ⟨0x3A3, 0x3A3, 1, 0⟩ (by simp [CaseRange.moving])) (by decide)
  have htable : ∀ r ∈ CaseRange.lowerRanges, r.contains c.toNat = false := fun r hr =>
    h r (List.mem_cons_of_mem _ (List.mem_cons_of_mem _ hr))
  refine ⟨hsigma, ?_⟩
  by_cases hlow : c.toNat < 0x80
  · apply lowerChar_of_ascii hlow
    rw [← CaseRange.contains_ascii, htable _ CaseRange.ascii_mem]
    decide
  · have hnone : CaseRange.lowerRanges.find? (·.contains c.toNat) = none := by
      rw [List.find?_eq_none]
      intro r hr
      rw [htable r hr]
      decide
    rw [lowerChar, if_neg hlow, if_neg hdotted, if_neg hsigma, hnone]

/-- Nor do the forms that the table does not have. -/
theorem lowered_of_special {c : Char} (h : c ∈ ['i', '\u0307', 'σ', 'ς']) : Lowered c := by
  have all : (['i', '\u0307', 'σ', 'ς'].all fun c =>
      CaseRange.moving.all fun r => !r.contains c.toNat) = true := by
    decide +kernel
  apply lowered_of_not_moving
  intro r hr
  have hno := List.all_eq_true.1 (List.all_eq_true.1 all c h) r hr
  rwa [Bool.not_eq_true'] at hno

/-- The lower-case letters of the table do not change. -/
theorem lowered_of_shift {r : CaseRange} (hr : r ∈ CaseRange.lowerRanges) {n : Nat} {d : Char}
    (hn : r.contains n = true) (hd : (d.toNat : Int) = n + r.shift) : Lowered d :=
  lowered_of_not_moving fun r' hr' =>
    CaseRange.not_contains_of_avoids
      (List.all_eq_true.1 (List.all_eq_true.1 CaseRange.lowerRanges_avoid r hr) r' hr') hn hd

/-- What a character becomes does not change again. -/
theorem lowered_of_mem_lowerChar {c d : Char} (h : d ∈ lowerChar c) : Lowered d := by
  by_cases hself : lowerChar c = [c] ∧ c ≠ 'Σ'
  · rw [hself.1] at h
    rw [List.mem_singleton.1 h]
    exact ⟨hself.2, hself.1⟩
  by_cases hlow : c.toNat < 0x80
  · have hcapital : 65 ≤ c.toNat ∧ c.toNat ≤ 90 := by
      by_contra hcapital
      exact hself ⟨lowerChar_of_ascii hlow hcapital, by rintro rfl; exact absurd hlow (by decide)⟩
    rw [lowerChar, if_pos hlow] at h
    apply lowered_of_shift CaseRange.ascii_mem (CaseRange.contains_ascii.2 hcapital)
    rw [List.mem_singleton.1 h, toNat_toLower, if_pos hcapital]
    rfl
  · by_cases hdotted : c = 'İ'
    · rw [lowerChar, if_neg hlow, if_pos hdotted] at h
      exact lowered_of_special (List.mem_append_left ['σ', 'ς'] h)
    by_cases hsigma : c = 'Σ'
    · rw [lowerChar, if_neg hlow, if_neg hdotted, if_pos hsigma] at h
      rw [List.mem_singleton.1 h]
      exact lowered_of_special (by simp)
    · cases hfind : CaseRange.lowerRanges.find? (·.contains c.toNat) with
      | none =>
        refine absurd ⟨?_, hsigma⟩ hself
        rw [lowerChar, if_neg hlow, if_neg hdotted, if_neg hsigma, hfind]
      | some r =>
        have hr := List.mem_of_find?_eq_some hfind
        have hc := List.find?_some hfind
        rw [lowerChar, if_neg hlow, if_neg hdotted, if_neg hsigma, hfind] at h
        rw [List.mem_singleton.1 h]
        exact lowered_of_shift hr hc (CaseRange.toNat_lowered (CaseRange.lowerRanges_valid r hr) hc)

/-! ### A text -/

/-- A text of such characters does not change, whatever stands before it. -/
theorem lowerFrom_of_lowered {cs : List Char} (h : ∀ c ∈ cs, Lowered c) (before : List Char) :
    lowerFrom before cs = cs := by
  induction cs generalizing before with
  | nil => rfl
  | cons c cs ih =>
    have hc : Lowered c := h c List.mem_cons_self
    rw [lowerFrom, ih (fun d hd => h d (List.mem_cons_of_mem c hd)) (c :: before), hc.lower]
    simp [hc.ne_sigma]

theorem lowered_of_mem_lowerFrom {before cs : List Char} {d : Char} (h : d ∈ lowerFrom before cs) :
    Lowered d := by
  induction cs generalizing before with
  | nil => cases h
  | cons c cs ih =>
    rw [lowerFrom] at h
    rcases List.mem_append.1 h with hform | hrest
    · split at hform
      · rw [List.mem_singleton.1 hform]
        exact lowered_of_special (by simp)
      · exact lowered_of_mem_lowerChar hform
    · exact ih hrest

/-- There are no other characters in a text in lower case. -/
theorem lowered_of_mem_lowercase {s : String} {c : Char} (h : c ∈ (lowercase s).toList) :
    Lowered c := by
  rw [lowercase, String.toList_ofList] at h
  exact lowered_of_mem_lowerFrom h

/-- A text of such characters is in lower case. -/
theorem lowercase_of_lowered {s : String} (h : ∀ c ∈ s.toList, Lowered c) : lowercase s = s := by
  rw [lowercase, lowerFrom_of_lowered h, String.ofList_toList]

end Builtins
