import Builtins.Text.Lowercase
import Mathlib.Data.List.Basic

/-!
# Lower-casing and ASCII

The lower-case mapping is one for all of Unicode. What it does to the ASCII letters of a text, and when
letters from beyond ASCII can pass for them.

* `Wide` — a character beyond ASCII;
* `lowerChar_of_wide` — such a character becomes others of its kind, save the Kelvin sign, which becomes a
  letter, and the dotted capital I, which becomes a letter with a mark;
* `Plain` — a text that neither of the two can be a part of;
* `lowerFrom_eq_append_iff` — so that such a text at the start is there in ASCII letters;
* `mem_lowerFrom_iff` — as any other single letter is.
-/

namespace Builtins

/-- A character beyond ASCII. -/
def Wide (c : Char) : Prop := 0x80 ≤ c.toNat

instance (c : Char) : Decidable (Wide c) := inferInstanceAs (Decidable (0x80 ≤ c.toNat))

/-- Only the capital letters of ASCII move, to the small ones. -/
theorem toNat_toLower (c : Char) :
    c.toLower.toNat = if 65 ≤ c.toNat ∧ c.toNat ≤ 90 then c.toNat + 32 else c.toNat := by
  have hval : (c.val ≥ 'A'.val ∧ c.val ≤ 'Z'.val) ↔ 65 ≤ c.toNat ∧ c.toNat ≤ 90 := Iff.rfl
  show (dite (c.val ≥ 'A'.val ∧ c.val ≤ 'Z'.val) _ _ : Char).toNat = _
  by_cases h : 65 ≤ c.toNat ∧ c.toNat ≤ 90
  · have hadd : (c.val + 32).toNat = (c.toNat + 32) % 2 ^ 32 := UInt32.toNat_add c.val 32
    rw [if_pos h, dif_pos (hval.2 h)]
    show (c.val + 32).toNat = c.toNat + 32
    omega
  · rw [if_neg h, dif_neg fun hv => h (hval.1 hv)]

theorem wide_toLower {c : Char} : Wide c.toLower ↔ Wide c := by
  rw [Wide, Wide, toNat_toLower]
  split <;> omega

/-- A small letter is what itself and its capital letter become. -/
theorem toLower_eq_iff {c small capital : Char} (hcapital : 65 ≤ capital.toNat ∧ capital.toNat ≤ 90)
    (hsmall : small.toNat = capital.toNat + 32) : c.toLower = small ↔ c = small ∨ c = capital := by
  rw [← Char.toNat_inj, toNat_toLower, ← Char.toNat_inj, ← Char.toNat_inj]
  split <;> omega

namespace CaseRange

variable {r : CaseRange} {n : Nat}

theorem contains_iff :
    r.contains n = true ↔ r.first ≤ n ∧ n ≤ r.last ∧ (n - r.first) % r.step = 0 := by
  simp only [contains, Bool.and_eq_true, decide_eq_true_eq, beq_iff_eq, and_assoc]

/-- Whether the lower-case letters of a range are characters. -/
def LowersValid (r : CaseRange) : Prop :=
  0 ≤ r.first + r.shift ∧
    (r.last + r.shift < 0xD800 ∨ 0xDFFF < r.first + r.shift ∧ r.last + r.shift < 0x110000)

instance (r : CaseRange) : Decidable r.LowersValid :=
  inferInstanceAs (Decidable (_ ∧ (_ ∨ _ ∧ _)))

/-- The lower-case letter of a character in a range. -/
theorem toNat_lowered (h : r.LowersValid) (hn : r.contains n = true) :
    ((Char.ofNat (n + r.shift).toNat).toNat : Int) = n + r.shift := by
  obtain ⟨hfirst, hlast, -⟩ := contains_iff.1 hn
  obtain ⟨hpos, hvalid⟩ := h
  have hchar : (n + r.shift).toNat.isValidChar := by
    show _ < _ ∨ _ ∧ _
    omega
  have hnat : (Char.ofNat (n + r.shift).toNat).toNat = (n + r.shift).toNat := by
    rw [Char.ofNat, dif_pos hchar]
    rfl
  rw [hnat]
  omega

/-- A range of which all lower-case letters are characters beyond ASCII. -/
def LowersWide (r : CaseRange) : Prop :=
  0x80 ≤ r.first + r.shift ∧
    (r.last + r.shift < 0xD800 ∨ 0xDFFF < r.first + r.shift ∧ r.last + r.shift < 0x110000)

instance (r : CaseRange) : Decidable r.LowersWide :=
  inferInstanceAs (Decidable (0x80 ≤ r.first + r.shift ∧
    (r.last + r.shift < 0xD800 ∨ 0xDFFF < r.first + r.shift ∧ r.last + r.shift < 0x110000)))

/-- The range of the Kelvin sign. -/
def IsKelvin (r : CaseRange) : Prop := r.first = 0x212A ∧ r.last = 0x212A ∧ r.shift = -8383

instance (r : CaseRange) : Decidable r.IsKelvin :=
  inferInstanceAs (Decidable (r.first = 0x212A ∧ r.last = 0x212A ∧ r.shift = -8383))

/-- The table has the ASCII letters, the Kelvin sign, and letters that stay beyond ASCII. -/
theorem lowerRanges_lowersWide : ∀ r ∈ lowerRanges, r.last < 0x80 ∨ r.IsKelvin ∨ r.LowersWide := by
  decide +kernel

end CaseRange

/-- What the characters beyond ASCII become. -/
theorem lowerChar_of_wide {c : Char} (h : Wide c) :
    (lowerChar c ≠ [] ∧ ∀ d ∈ lowerChar c, Wide d) ∨ lowerChar c = ['k'] ∨
      lowerChar c = ['i', '\u0307'] := by
  have hascii : ¬ c.toNat < 0x80 := Nat.not_lt.2 h
  rw [lowerChar, if_neg hascii]
  split
  · exact .inr (.inr rfl)
  · split
    · exact .inl ⟨by decide, List.forall_mem_singleton.2 (by decide)⟩
    · split
      · next r hfind =>
        have hcontains := List.find?_some hfind
        obtain ⟨hfirst, hlast, -⟩ := CaseRange.contains_iff.1 hcontains
        obtain hr | ⟨hf, hl, hs⟩ | ⟨hlow, hvalid⟩ :=
          CaseRange.lowerRanges_lowersWide r (List.mem_of_find?_eq_some hfind)
        · exact absurd h (by rw [Wide]; omega)
        · have hc : c.toNat = 0x212A := by omega
          rw [hc, hs]
          exact .inr (.inl rfl)
        · refine .inl ⟨by simp, fun d hd => ?_⟩
          rw [List.mem_singleton] at hd
          have hnat := CaseRange.toNat_lowered ⟨by omega, hvalid⟩ hcontains
          rw [hd, Wide]
          omega
      · exact .inl ⟨by simp, by simpa using h⟩

theorem lowerFrom_cons_of_ascii {before rest : List Char} {c : Char} (h : ¬ Wide c) :
    lowerFrom before (c :: rest) = c.toLower :: lowerFrom (c :: before) rest := by
  have hsigma : c ≠ 'Σ' := fun he => h (by rw [he]; decide)
  have hascii : c.toNat < 0x80 := Nat.not_le.1 h
  simp [lowerFrom, lowerChar, hsigma, hascii]

/-- A character beyond ASCII leaves others of its kind, or one of two letters. -/
theorem lowerFrom_cons_of_wide {c : Char} (h : Wide c) (before rest : List Char) :
    ∃ form, lowerFrom before (c :: rest) = form ++ lowerFrom (c :: before) rest ∧
      (form ≠ [] ∧ (∀ d ∈ form, Wide d) ∨ form = ['k'] ∨ form = ['i', '\u0307']) := by
  rw [lowerFrom]
  refine ⟨_, rfl, ?_⟩
  split
  · exact .inl ⟨by decide, List.forall_mem_singleton.2 (by decide)⟩
  · exact lowerChar_of_wide h

/-- A text in ASCII that no letter from beyond is lower-cased to a part of: it has no `k`, and no `i` at its
end, where the mark of a dotted capital would follow. -/
structure Plain (t : List Char) : Prop where
  ascii : ∀ c ∈ t, ¬ Wide c
  kelvin : 'k' ∉ t
  dotted : t.getLast? ≠ some 'i'

instance (t : List Char) : Decidable (Plain t) :=
  decidable_of_iff ((t.all fun c => decide (¬ Wide c)) = true ∧ 'k' ∉ t ∧ t.getLast? ≠ some 'i')
    ⟨fun ⟨ha, hk, hd⟩ => ⟨fun c hc => of_decide_eq_true (List.all_eq_true.1 ha c hc), hk, hd⟩,
      fun h => ⟨List.all_eq_true.2 fun c hc => decide_eq_true (h.ascii c hc), h.kelvin, h.dotted⟩⟩

theorem Plain.tail {a : Char} {t : List Char} (h : Plain (a :: t)) : Plain t where
  ascii c hc := h.ascii c (List.mem_cons_of_mem a hc)
  kelvin hk := h.kelvin (List.mem_cons_of_mem a hk)
  dotted he := h.dotted (by
    rw [List.getLast?_cons, he]
    rfl)

/-- A plain text at the start is not made of letters from beyond ASCII. -/
theorem Plain.not_wide {before rest t flags : List Char} {a c : Char} (h : Plain (a :: t))
    (he : lowerFrom before (c :: rest) = a :: t ++ flags) : ¬ Wide c := by
  intro hc
  obtain ⟨form, hform, hcases⟩ := lowerFrom_cons_of_wide hc before rest
  rw [hform] at he
  rcases hcases with ⟨hne, hwide⟩ | hkelvin | hdotted
  · cases form with
    | nil => exact hne rfl
    | cons d form =>
      have hd : d = a := (List.cons.inj he).1
      exact h.ascii a List.mem_cons_self (hd ▸ hwide d List.mem_cons_self)
  · rw [hkelvin] at he
    have hk : 'k' = a := (List.cons.inj he).1
    exact h.kelvin (hk ▸ List.mem_cons_self)
  · rw [hdotted] at he
    obtain ⟨hi, hmark⟩ := List.cons.inj he
    cases t with
    | nil => exact h.dotted (by rw [← hi]; rfl)
    | cons b t =>
      have hb : '\u0307' = b := (List.cons.inj hmark).1
      exact h.ascii b (by simp) (by rw [← hb]; decide)

/-- A plain text is at the start of a lower-cased one exactly if its letters are at the start, small or
capital. -/
theorem lowerFrom_eq_append_iff {before cs t flags : List Char} (h : Plain t) :
    lowerFrom before cs = t ++ flags ↔ ∃ start rest, cs = start ++ rest ∧
      start.map Char.toLower = t ∧ lowerFrom (start.reverse ++ before) rest = flags := by
  induction t generalizing before cs with
  | nil =>
    constructor
    · intro he
      exact ⟨[], cs, rfl, rfl, he⟩
    · rintro ⟨start, rest, rfl, hstart, he⟩
      rw [List.map_eq_nil_iff.1 hstart] at he ⊢
      exact he
  | cons a t ih =>
    constructor
    · intro he
      cases cs with
      | nil => cases he
      | cons c cs =>
        rw [lowerFrom_cons_of_ascii (h.not_wide he)] at he
        obtain ⟨hc, hrest⟩ := List.cons.inj he
        obtain ⟨start, rest, rfl, hstart, hflags⟩ := (ih h.tail).1 hrest
        refine ⟨c :: start, rest, rfl, ?_, ?_⟩
        · rw [List.map_cons, hc, hstart]
        · rw [List.reverse_cons, List.append_assoc, List.singleton_append, hflags]
    · rintro ⟨start, rest, rfl, hstart, hflags⟩
      cases start with
      | nil => cases hstart
      | cons c start =>
        obtain ⟨hc, hrest⟩ := List.cons.inj hstart
        have hascii : ¬ Wide c := by
          rw [← wide_toLower, hc]
          exact h.ascii a List.mem_cons_self
        rw [List.cons_append, lowerFrom_cons_of_ascii hascii, hc, List.cons_append]
        congr 1
        rw [List.reverse_cons, List.append_assoc, List.singleton_append] at hflags
        exact (ih h.tail).2 ⟨start, rest, rfl, hrest, hflags⟩

/-- A letter that nothing from beyond ASCII becomes is in a lower-cased text exactly if it is in the text,
small or capital. -/
theorem mem_lowerFrom_iff {x : Char} (h : Plain [x]) {before cs : List Char} :
    x ∈ lowerFrom before cs ↔ ∃ c ∈ cs, c.toLower = x := by
  induction cs generalizing before with
  | nil => simp [lowerFrom]
  | cons c cs ih =>
    by_cases hc : Wide c
    · obtain ⟨form, hform, hcases⟩ := lowerFrom_cons_of_wide hc before cs
      have hx : ¬ Wide x := h.ascii x List.mem_cons_self
      have hnot : x ∉ form := by
        rcases hcases with ⟨-, hwide⟩ | rfl | rfl
        · exact fun hmem => hx (hwide x hmem)
        · exact fun hmem => h.kelvin (by rw [List.mem_singleton.1 hmem]; exact List.mem_cons_self)
        · intro hmem
          rcases List.mem_cons.1 hmem with rfl | hmark
          · exact h.dotted rfl
          · exact hx (by rw [List.mem_singleton.1 hmark]; decide)
      have hself : c.toLower ≠ x := fun he => hx (he ▸ wide_toLower.2 hc)
      rw [hform, List.mem_append, or_iff_right hnot, ih, List.exists_mem_cons_iff,
        or_iff_right hself]
    · rw [lowerFrom_cons_of_ascii hc, List.mem_cons, ih, List.exists_mem_cons_iff, eq_comm]

end Builtins
