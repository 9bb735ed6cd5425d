import Builtins.Proofs.Encoding.MultiByte
import Mathlib.Data.List.Pairwise
import Mathlib.Data.List.TakeWhile

/-!
# Forms that are read back

The bytes of a number can be told from it. Where each character has one number only, they can be told from
the character, and so the bytes of a whole text from the text. In EUC-KR this is so.

* `Digits.number?_injective` — different bytes write different numbers;
* `Unambiguous`, `Sequences.injective` — each sequence stands for one character, and no other does;
* `SpelledOut`, `korean_spelled` — the characters of a repertoire one by one;
* `unambiguous_eucKr` — no character of EUC-KR has two numbers.
-/

namespace Builtins

/-! ### Numbers -/

namespace Digits

theorem value?_lt {digits : Digits} {b : UInt8} {v : Nat} (h : digits.value? b = some v) :
    v < digits.count := by
  induction digits generalizing v with
  | nil => cases h
  | cons range rest ih =>
    obtain ⟨first, last⟩ := range
    rw [count]
    rcases value?_cons h with ⟨hfirst, hlast, rfl⟩ | ⟨w, hw, rfl⟩
    · omega
    · have := ih hw
      omega

theorem value?_injective {digits : Digits} {a b : UInt8} {v : Nat} (ha : digits.value? a = some v)
    (hb : digits.value? b = some v) : a = b := by
  induction digits generalizing v with
  | nil => cases ha
  | cons range rest ih =>
    obtain ⟨first, last⟩ := range
    rcases value?_cons ha with ⟨hfirst, hlast, rfl⟩ | ⟨w, hw, rfl⟩
    · rcases value?_cons hb with ⟨hfirst', hlast', hsame⟩ | ⟨w', -, hsame⟩
      · exact UInt8.toNat_inj.1 (by omega)
      · -- A digit of a later range is too great.
        omega
    · rcases value?_cons hb with ⟨hfirst', hlast', hsame⟩ | ⟨w', hw', hsame⟩
      · omega
      · rw [Nat.add_left_cancel hsame] at hw
        exact ih hw hw'

/-- Different bytes write different numbers. -/
theorem number?_injective {places : List Digits} {bytes bytes' : Bytes} {k k' n : Nat}
    (h : number? places bytes k = some (n, [])) (h' : number? places bytes' k' = some (n, [])) :
    k = k' ∧ bytes = bytes' := by
  induction places generalizing bytes bytes' k k' with
  | nil =>
    cases bytes with
    | nil =>
      cases bytes' with
      | nil =>
        cases h
        cases h'
        exact ⟨rfl, rfl⟩
      | cons _ _ => cases h'
    | cons _ _ => cases h
  | cons digits places ih =>
    cases bytes with
    | nil => cases h
    | cons b bytes =>
      cases bytes' with
      | nil => cases h'
      | cons b' bytes' =>
        obtain ⟨v, hv, h⟩ := Option.bind_eq_some_iff.1 h
        obtain ⟨v', hv', h'⟩ := Option.bind_eq_some_iff.1 h'
        obtain ⟨hsame, rfl⟩ := ih h h'
        -- The last digit is the remainder.
        have hlt := value?_lt hv
        have hlt' := value?_lt hv'
        have hdigit : v = v' := by
          have hmod := congrArg (· % digits.count) hsame
          simpa only [Nat.mul_add_mod_self_right, Nat.mod_eq_of_lt hlt, Nat.mod_eq_of_lt hlt'] using hmod
        subst hdigit
        have hk : k = k' := Nat.eq_of_mul_eq_mul_right (Nat.zero_lt_of_lt hlt)
          (Nat.add_right_cancel hsame)
        rw [hk, value?_injective hv hv']
        exact ⟨rfl, rfl⟩

end Digits

/-! ### Texts -/

/-- Each number of each form stands for one character, which no other number stands for. -/
structure Unambiguous (forms : List Form) : Prop where
  single : ∀ form ∈ forms, ∀ n cs, form.chars? n = some cs → ∃ c, cs = [c]
  apart : ∀ form ∈ forms, ∀ other ∈ forms, ∀ m n cs, form.chars? m = some cs →
    other.chars? n = some cs → form.places = other.places ∧ m = n

variable {forms : List Form} {sequence sequence' bytes bytes' : Bytes} {cs : List Char}

theorem Completes.exists_form (h : Completes forms [] sequence cs) :
    ∃ form ∈ forms, ∃ n, Digits.number? form.places sequence 0 = some (n, []) ∧
      form.chars? n = some cs := by
  obtain ⟨form, hform, hreading⟩ := exists_reading? h.read (by simp)
  obtain ⟨n, hnumber, hchars⟩ := Form.chars?_of_reading? hreading
  exact ⟨form, hform, n, hnumber, hchars⟩

theorem Completes.injective (hforms : Unambiguous forms) (h : Completes forms [] sequence cs)
    (h' : Completes forms [] sequence' cs) : sequence = sequence' := by
  obtain ⟨form, hform, m, hm, hchars⟩ := h.exists_form
  obtain ⟨other, hother, n, hn, hchars'⟩ := h'.exists_form
  obtain ⟨hplaces, rfl⟩ := hforms.apart form hform other hother m n cs hchars hchars'
  rw [← hplaces] at hn
  exact (Digits.number?_injective hm hn).2

theorem Completes.exists_char (hforms : Unambiguous forms) (h : Completes forms [] sequence cs) :
    ∃ c, cs = [c] := by
  obtain ⟨form, hform, n, -, hchars⟩ := h.exists_form
  exact hforms.single form hform n cs hchars

/-- The bytes of a text can be told from it. -/
theorem Sequences.injective (hforms : Unambiguous forms) (h : Sequences forms bytes cs)
    (h' : Sequences forms bytes' cs) : bytes = bytes' := by
  induction h generalizing bytes' with
  | nil =>
    generalize hcs : ([] : List Char) = cs at h'
    cases h' with
    | nil => rfl
    | cons hcompletes _ =>
      obtain ⟨c, rfl⟩ := hcompletes.exists_char hforms
      cases hcs
  | cons hcompletes _ ih =>
    obtain ⟨c, rfl⟩ := hcompletes.exists_char hforms
    generalize hcs : [c] ++ _ = cs at h'
    cases h' with
    | nil => cases hcs
    | cons hcompletes' hrest' =>
      obtain ⟨c', rfl⟩ := hcompletes'.exists_char hforms
      obtain ⟨rfl, rfl⟩ := List.cons.inj hcs
      rw [hcompletes.injective hforms hcompletes', ih hrest']

/-! ### The repertoire of EUC-KR -/

/-- The characters of each run, one by one. -/
inductive SpelledOut : List CharRun → List (List Char) → Prop
  | nil : SpelledOut [] []
  | cons {first : Nat} {chars : String} {cs : List Char} {runs : List CharRun} {css : List (List Char)}
      (h : chars = String.ofList cs) (hrest : SpelledOut runs css) :
      SpelledOut (⟨first, chars⟩ :: runs) (cs :: css)

/-- The numbers of the characters in some runs. -/
def CharRun.numbered (runs : List CharRun) : List (Nat × Char) :=
  runs.flatMap fun run => run.chars.toList.zipIdx.map fun p => (run.first + p.2, p.1)

theorem SpelledOut.map_numbered {runs : List CharRun} {css : List (List Char)} (h : SpelledOut runs css) :
    (CharRun.numbered runs).map (·.2) = css.flatten := by
  induction h with
  | nil => rfl
  | @cons first chars cs runs css h _ ih =>
    rw [CharRun.numbered, List.flatMap_cons, List.map_append, List.flatten_cons, ← ih, List.map_map,
      h, String.toList_ofList]
    exact congrArg (· ++ _) (List.zipIdx_map_fst 0 cs)

theorem CharRun.mem_numbered {runs : List CharRun} {n : Nat} {c : Char}
    (h : CharRun.char? runs n = some c) : (n, c) ∈ numbered runs := by
  obtain ⟨run, hrun, h⟩ := Option.bind_eq_some_iff.1 h
  obtain ⟨hchar, -⟩ := Option.filter_eq_some_iff.1 h
  have hmem := List.mem_of_getLast? hrun
  have hfirst : run.first ≤ n :=
    of_decide_eq_true (List.mem_takeWhile_imp (p := fun run : CharRun => decide (run.first ≤ n)) hmem)
  refine List.mem_flatMap.2 ⟨run, (List.takeWhile_sublist _).subset hmem, List.mem_map.2 ?_⟩
  refine ⟨(c, n - run.first), List.mem_zipIdx_iff_getElem?.2 hchar, ?_⟩
  rw [Nat.add_sub_cancel' hfirst]

/-- Where no character is twice, none has two numbers. -/
theorem CharRun.char?_injective {runs : List CharRun} {css : List (List Char)} (h : SpelledOut runs css)
    (hdistinct : distinctFrom 0 (css.flatten.map Char.toNat) = true) {m n : Nat} {c : Char}
    (hm : CharRun.char? runs m = some c) (hn : CharRun.char? runs n = some c) : m = n := by
  have hpairs := (pairwise_of_distinctFrom hdistinct).2
  rw [← h.map_numbered, List.map_map, List.pairwise_map] at hpairs
  have : Std.Symm fun x y : Nat × Char =>
      (Char.toNat ∘ (·.2)) x = (Char.toNat ∘ (·.2)) y → (Char.toNat ∘ (·.2)) x < 128 :=
    ⟨fun x y hxy he => he ▸ hxy he.symm⟩
  refine Decidable.byContradiction fun hne => ?_
  have hlow : c.toNat < 128 := hpairs.forall (mem_numbered hm) (mem_numbered hn)
    (fun he => hne (congrArg Prod.fst he)) rfl
  exact absurd hlow (Nat.not_lt.2 (le_toNat hm))

theorem korean_spelled : ∃ css, SpelledOut korean css ∧
    distinctFrom 0 (css.flatten.map Char.toNat) = true := by
  apply Exists.intro
  apply And.intro
  · dsimp only [korean]
    repeat (apply SpelledOut.cons; with_reducible exact rfl)
    exact SpelledOut.nil
  · decide +kernel

theorem Form.eq_singleton {places : List Digits} {char? : Nat → Option Char} {n : Nat} {cs : List Char}
    (h : (ofChar? places char?).chars? n = some cs) : ∃ c, char? n = some c ∧ cs = [c] := by
  obtain ⟨c, hc, rfl⟩ := Option.map_eq_some_iff.1 h
  exact ⟨c, hc, rfl⟩

theorem Form.toNat_of_ascii {n : Nat} {c : Char} (h : CodeRun.char? [⟨0, 0x00, 128⟩] n = some c) :
    c.toNat = n ∧ n < 128 := by
  obtain ⟨run, hfind, rfl⟩ := Option.map_eq_some_iff.1 h
  have hbounds := List.find?_some hfind
  cases List.mem_singleton.1 (List.mem_of_find?_eq_some hfind)
  rw [Bool.and_eq_true, decide_eq_true_eq, decide_eq_true_eq] at hbounds
  have hn : n < 128 := hbounds.2
  rw [Nat.sub_zero, Nat.zero_add]
  exact ⟨CodePage.toNat_ofNat (.inl (by omega)), hn⟩

/-- The forms of EUC-KR: a byte of ASCII, or a pair of bytes. -/
theorem chars?_eucKr {form : Form} {n : Nat} {cs : List Char} (hform : form ∈ eucKrForms)
    (h : form.chars? n = some cs) : ∃ c, cs = [c] ∧
      (form.places = [[(0x00, 0x7F)]] ∧ c.toNat < 128 ∧ c.toNat = n ∨
        form.places = [[(0x81, 0xFE)], [(0x41, 0xFE)]] ∧ 128 ≤ c.toNat ∧
          CharRun.char? korean n = some c) := by
  rcases List.mem_cons.1 hform with rfl | hform
  · obtain ⟨c, hc, rfl⟩ := Form.eq_singleton h
    obtain ⟨hn, hlow⟩ := Form.toNat_of_ascii hc
    exact ⟨c, rfl, .inl ⟨rfl, hn ▸ hlow, hn⟩⟩
  · cases List.mem_singleton.1 hform
    obtain ⟨c, hc, rfl⟩ := Form.eq_singleton h
    exact ⟨c, rfl, .inr ⟨rfl, CharRun.le_toNat hc, hc⟩⟩

/-- No character of EUC-KR has two numbers. -/
theorem unambiguous_eucKr : Unambiguous eucKrForms := by
  obtain ⟨css, hspelled, hdistinct⟩ := korean_spelled
  constructor
  case single =>
    intro form hform n cs h
    obtain ⟨c, hcs, -⟩ := chars?_eucKr hform h
    exact ⟨c, hcs⟩
  case apart =>
    intro form hform other hother m n cs hm hn
    obtain ⟨c, rfl, hc⟩ := chars?_eucKr hform hm
    obtain ⟨d, hd, hc'⟩ := chars?_eucKr hother hn
    cases hd
    rcases hc with ⟨hplaces, hlow, hm⟩ | ⟨hplaces, hhigh, hm⟩
    · rcases hc' with ⟨hplaces', -, hn⟩ | ⟨-, hhigh, -⟩
      · exact ⟨hplaces.trans hplaces'.symm, hm.symm.trans hn⟩
      · exact absurd hlow (Nat.not_lt.2 hhigh)
    · rcases hc' with ⟨-, hlow, -⟩ | ⟨hplaces', -, hn⟩
      · exact absurd hlow (Nat.not_lt.2 hhigh)
      · exact ⟨hplaces.trans hplaces'.symm, CharRun.char?_injective hspelled hdistinct hm hn⟩

end Builtins
