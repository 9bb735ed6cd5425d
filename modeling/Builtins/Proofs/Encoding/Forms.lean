import Builtins.Encoding.MultiByte
import Builtins.Proofs.Encoding.CodePage

/-!
# Text in forms

An encoding that is a list of forms reads one sequence of bytes after another. Where ASCII is a form of its
own and the others lead beyond it, the bytes of a line end are in no other sequence.

* `Completes`, `Sequences` — a sequence of bytes that completes characters, and bytes that are such sequences;
* `formDecoder_eq_some_iff` — exactly these are decoded;
* `Digits.value?_cons` — the ranges that a digit may be in;
* `Form.Beyond` — a form of characters beyond ASCII; `ExtendsAscii.ascii_or_beyond` — the two kinds of sequences.
-/

namespace Builtins

variable {forms : List Form} {pending sequence bytes rest : Bytes} {cs : List Char}

/-! ### Sequences -/

/-- Bytes that complete characters after some that only begin one. -/
inductive Completes (forms : List Form) : Bytes → Bytes → List Char → Prop
  | last {pending : Bytes} {b : UInt8} {cs : List Char}
      (h : readForms forms (pending ++ [b]) = .whole cs) : Completes forms pending [b] cs
  | more {pending sequence : Bytes} {b : UInt8} {cs : List Char}
      (h : readForms forms (pending ++ [b]) = .begun)
      (hrest : Completes forms (pending ++ [b]) sequence cs) : Completes forms pending (b :: sequence) cs

/-- Bytes that are one sequence after another. -/
inductive Sequences (forms : List Form) : Bytes → List Char → Prop
  | nil : Sequences forms [] []
  | cons {sequence rest : Bytes} {cs cs' : List Char} (h : Completes forms [] sequence cs)
      (hrest : Sequences forms rest cs') : Sequences forms (sequence ++ rest) (cs ++ cs')

theorem Completes.ne_nil (h : Completes forms pending sequence cs) : sequence ≠ [] := by
  cases h with
  | last _ => exact List.cons_ne_nil _ _
  | more _ _ => exact List.cons_ne_nil _ _

theorem Completes.read (h : Completes forms pending sequence cs) :
    readForms forms (pending ++ sequence) = .whole cs := by
  induction h with
  | last h => exact h
  | more _ _ ih => rwa [List.append_assoc, List.singleton_append] at ih

theorem formDecoder_step (pending : Bytes) (b : UInt8) :
    (formDecoder forms).step pending b =
      match readForms forms (pending ++ [b]) with
      | .begun => some (pending ++ [b], [])
      | .whole cs => some ([], cs)
      | .invalid => none := rfl

theorem chars?_of_completes (h : Completes forms pending sequence cs) (rest : Bytes) :
    (formDecoder forms).chars? pending (sequence ++ rest) =
      ((formDecoder forms).chars? [] rest).map (cs ++ ·) := by
  induction h with
  | last h => rw [List.singleton_append, ByteDecoder.chars?, formDecoder_step, h]
  | @more pending sequence b cs h _ ih =>
    rw [List.cons_append, ByteDecoder.chars?, formDecoder_step, h]
    show ((formDecoder forms).chars? (pending ++ [b]) (sequence ++ rest)).map ([] ++ ·) = _
    rw [ih, Option.map_map]
    rfl

/-- What is decoded ends between two characters, or completes one first. -/
theorem completes_of_chars? (h : (formDecoder forms).chars? pending bytes = some cs) :
    (pending = [] ∧ bytes = [] ∧ cs = []) ∨ ∃ sequence rest cs₁ cs₂, bytes = sequence ++ rest ∧
      cs = cs₁ ++ cs₂ ∧ Completes forms pending sequence cs₁ ∧ Sequences forms rest cs₂ := by
  induction bytes generalizing pending cs with
  | nil =>
    left
    rw [ByteDecoder.chars?] at h
    split at h
    · rename_i hempty
      cases h
      exact ⟨List.isEmpty_iff.1 hempty, rfl, rfl⟩
    · cases h
  | cons b bytes ih =>
    right
    rw [ByteDecoder.chars?, formDecoder_step] at h
    cases hread : readForms forms (pending ++ [b]) with
    | begun =>
      rw [hread] at h
      obtain ⟨cs', hrest, rfl⟩ := Option.map_eq_some_iff.1 h
      rcases ih hrest with ⟨hnil, -, -⟩ | ⟨sequence, rest, cs₁, cs₂, rfl, rfl, hcompletes, hsequences⟩
      · exact absurd hnil (List.append_ne_nil_of_right_ne_nil _ (List.cons_ne_nil _ _))
      · exact ⟨b :: sequence, rest, cs₁, cs₂, rfl, rfl, .more hread hcompletes, hsequences⟩
    | whole cs₁ =>
      rw [hread] at h
      obtain ⟨cs₂, hrest, rfl⟩ := Option.map_eq_some_iff.1 h
      refine ⟨[b], bytes, cs₁, cs₂, rfl, rfl, .last hread, ?_⟩
      rcases ih hrest with ⟨-, rfl, rfl⟩ | ⟨sequence, rest, cs₁, cs₂, rfl, rfl, hcompletes, hsequences⟩
      · exact .nil
      · exact .cons hcompletes hsequences
    | invalid =>
      rw [hread] at h
      cases h

theorem formDecoder_chars?_iff :
    (formDecoder forms).chars? [] bytes = some cs ↔ Sequences forms bytes cs := by
  constructor
  · intro h
    rcases completes_of_chars? h with ⟨-, rfl, rfl⟩ | ⟨sequence, rest, cs₁, cs₂, rfl, rfl, hcompletes, hsequences⟩
    · exact .nil
    · exact .cons hcompletes hsequences
  · intro h
    induction h with
    | nil => rfl
    | cons h _ ih => rw [chars?_of_completes h, ih, Option.map_some]

/-- Exactly the bytes that are sequences of an encoding are decoded. -/
theorem formDecoder_eq_some_iff {s : String} :
    (formDecoder forms).decode? bytes = some s ↔ Sequences forms bytes s.toList := by
  rw [← formDecoder_chars?_iff, ByteDecoder.decode?, Option.map_eq_some_iff]
  constructor
  · rintro ⟨cs, hcs, rfl⟩
    rwa [String.toList_ofList]
  · intro h
    exact ⟨_, h, String.ofList_toList⟩

/-! ### ASCII and what is beyond -/

theorem Digits.number?_concat {places : List Digits} {b : UInt8} {n : Nat} {out : Nat × List Digits}
    (h : Digits.number? places (bytes ++ [b]) n = some out) :
    ∃ digits ∈ places.drop bytes.length, ∃ v, digits.value? b = some v := by
  induction bytes generalizing places n with
  | nil =>
    cases places with
    | nil => cases h
    | cons digits places =>
      obtain ⟨v, hv, -⟩ := Option.bind_eq_some_iff.1 h
      exact ⟨digits, List.mem_cons_self, v, hv⟩
  | cons a bytes ih =>
    cases places with
    | nil => cases h
    | cons digits places =>
      obtain ⟨v, -, h⟩ := Option.bind_eq_some_iff.1 h
      exact ih h

theorem Digits.within_iff {first last b : UInt8} :
    (first ≤ b && b ≤ last) = true ↔ first.toNat ≤ b.toNat ∧ b.toNat ≤ last.toNat := by
  rw [Bool.and_eq_true, decide_eq_true_eq, decide_eq_true_eq, UInt8.le_iff_toNat_le, UInt8.le_iff_toNat_le]

/-- A digit is counted within the first range, or after all of it. -/
theorem Digits.value?_cons {first last b : UInt8} {rest : Digits} {v : Nat}
    (h : Digits.value? ((first, last) :: rest) b = some v) :
    (first.toNat ≤ b.toNat ∧ b.toNat ≤ last.toNat ∧ v = b.toNat - first.toNat) ∨
      ∃ w, Digits.value? rest b = some w ∧ v = last.toNat - first.toNat + 1 + w := by
  rw [Digits.value?] at h
  split at h
  · rename_i hbounds
    obtain ⟨hfirst, hlast⟩ := Digits.within_iff.1 hbounds
    exact .inl ⟨hfirst, hlast, (Option.some.inj h).symm⟩
  · obtain ⟨w, hw, hv⟩ := Option.map_eq_some_iff.1 h
    exact .inr ⟨w, hw, hv.symm⟩

theorem Digits.range_of_value? {digits : Digits} {b : UInt8} {v : Nat} (h : digits.value? b = some v) :
    ∃ range ∈ digits, range.1 ≤ b := by
  induction digits generalizing v with
  | nil => cases h
  | cons range digits ih =>
    obtain ⟨first, last⟩ := range
    rcases Digits.value?_cons h with ⟨hfirst, -, -⟩ | ⟨w, hw, -⟩
    · exact ⟨_, List.mem_cons_self, UInt8.le_iff_toNat_le.2 hfirst⟩
    · obtain ⟨range, hrange, hb⟩ := ih hw
      exact ⟨range, List.mem_cons_of_mem _ hrange, hb⟩

/-- The first form that bytes are of is one of the forms. -/
theorem exists_reading? {r : Reading} (h : readForms forms bytes = r) (hr : r ≠ .invalid) :
    ∃ form ∈ forms, form.reading? bytes = some r := by
  rw [readForms] at h
  cases hfind : forms.findSome? (·.reading? bytes) with
  | none =>
    rw [hfind] at h
    exact absurd h.symm hr
  | some r' =>
    rw [hfind] at h
    cases h
    exact List.exists_of_findSome?_eq_some hfind

theorem Form.number?_of_reading? {form : Form} {r : Reading} (h : form.reading? bytes = some r) :
    ∃ out, Digits.number? form.places bytes 0 = some out := by
  rw [Form.reading?] at h
  split at h
  · cases h
  · rename_i hnumber
    exact ⟨_, hnumber⟩
  · rename_i hnumber
    exact ⟨_, hnumber⟩

theorem Form.chars?_of_reading? {form : Form} (h : form.reading? bytes = some (.whole cs)) :
    ∃ n, Digits.number? form.places bytes 0 = some (n, []) ∧ form.chars? n = some cs := by
  rw [Form.reading?] at h
  split at h
  · cases h
  · rename_i n hnumber
    refine ⟨n, hnumber, ?_⟩
    cases hchars : form.chars? n with
    | none =>
      rw [hchars] at h
      cases h
    | some cs' =>
      rw [hchars] at h
      cases h
      rfl
  · cases h

/-- A place where none of the bytes before the ASCII digits may stand. -/
def Digits.High (digits : Digits) : Prop := ∀ range ∈ digits, (0x30 : UInt8) ≤ range.1

-- Over all pairs of bytes the instance for finite types would be tried first.
instance : DecidablePred Digits.High := fun digits => List.decidableBAll _ digits

/-- A form of characters beyond ASCII. Only its first byte may be one that stands before the digits. -/
structure Form.Beyond (form : Form) : Prop where
  later : ∀ digits ∈ form.places.tail, digits.High
  chars : ∀ n cs, form.chars? n = some cs → cs ≠ [] ∧ ∀ c ∈ cs, 128 ≤ c.toNat

theorem CodeRun.char?_singleton {run : CodeRun} {n : Nat} (hfirst : run.first ≤ n)
    (hlast : n < run.first + run.length) :
    CodeRun.char? [run] n = some (Char.ofNat (run.code + (n - run.first))) := by
  have hrun : (run.first ≤ n && n < run.first + run.length) = true := by simp [hfirst, hlast]
  rw [CodeRun.char?, List.find?_cons, hrun]
  rfl

theorem Form.reading?_ascii {b : UInt8} (hb : b.toNat < 128) :
    Form.ascii.reading? [b] = some (.whole [Char.ofNat b.toNat]) := by
  have hbounds : (0x00 ≤ b && b ≤ 0x7F) = true :=
    Digits.within_iff.2 ⟨Nat.zero_le _, Nat.le_of_lt_succ hb⟩
  have hnumber : Digits.number? Form.ascii.places [b] 0 = some (b.toNat, []) := by
    show (Digits.value? [(0x00, 0x7F)] b).bind _ = _
    rw [Digits.value?, if_pos hbounds]
    show some (0 * 128 + b.toNat, _) = _
    rw [Nat.zero_mul, Nat.zero_add]
  have hchars : Form.ascii.chars? b.toNat = some [Char.ofNat b.toNat] := by
    show (CodeRun.char? [⟨0, 0x00, 128⟩] b.toNat).map ([·]) = _
    rw [CodeRun.char?_singleton (Nat.zero_le _) (by simpa using hb), Nat.sub_zero, Nat.zero_add]
    rfl
  rw [Form.reading?, hnumber]
  show some ((Form.ascii.chars? b.toNat).elim Reading.invalid Reading.whole) = _
  rw [hchars]
  rfl

theorem Form.reading?_ascii_of_not (hne : bytes ≠ []) (h : ∀ b : UInt8, b.toNat < 128 → bytes ≠ [b]) :
    Form.ascii.reading? bytes = none := by
  have hnumber : Digits.number? Form.ascii.places bytes 0 = none := by
    match bytes, hne with
    | [b], _ =>
      have hhigh : ¬ (0x00 ≤ b && b ≤ 0x7F) = true := fun hbounds =>
        h b (Nat.lt_succ_of_le (Digits.within_iff.1 hbounds).2) rfl
      show (Digits.value? [(0x00, 0x7F)] b).bind _ = _
      rw [Digits.value?, if_neg hhigh]
      rfl
    | a :: b :: rest, _ =>
      show (Digits.value? [(0x00, 0x7F)] a).bind _ = _
      cases Digits.value? [(0x00, 0x7F)] a <;> rfl
  rw [Form.reading?, hnumber]

/-- An encoding that reads ASCII byte by byte, and all else beyond it. -/
def ExtendsAscii (forms : List Form) : Prop :=
  ∃ others, forms = Form.ascii :: others ∧ ∀ form ∈ others, form.Beyond

theorem concat_ne_singleton (h : pending ≠ []) (a b : UInt8) : pending ++ [b] ≠ [a] := fun he => by
  have hlength := congrArg List.length he
  rw [List.length_append, List.length_singleton, List.length_singleton] at hlength
  exact h (List.length_eq_zero_iff.1 (Nat.succ.inj hlength))

namespace ExtendsAscii

variable (h : ExtendsAscii forms)
include h

theorem read_ascii {b : UInt8} (hb : b.toNat < 128) :
    readForms forms [b] = .whole [Char.ofNat b.toNat] := by
  obtain ⟨others, rfl, -⟩ := h
  rw [readForms, List.findSome?_cons, Form.reading?_ascii hb]
  rfl

/-- A sequence that is not a byte of ASCII is of one of the other forms. -/
theorem exists_beyond {r : Reading} (hne : bytes ≠ []) (hbytes : ∀ b : UInt8, b.toNat < 128 → bytes ≠ [b])
    (hread : readForms forms bytes = r) (hr : r ≠ .invalid) :
    ∃ form : Form, form.Beyond ∧ form.reading? bytes = some r := by
  obtain ⟨others, rfl, hothers⟩ := h
  obtain ⟨form, hform, hreading⟩ := exists_reading? hread hr
  rcases List.mem_cons.1 hform with rfl | hform
  · rw [Form.reading?_ascii_of_not hne hbytes] at hreading
    cases hreading
  · exact ⟨form, hothers form hform, hreading⟩

/-- No byte before the digits goes on with anything. -/
theorem read_low {b : UInt8} (hpending : pending ≠ []) (hb : b < 0x30) :
    readForms forms (pending ++ [b]) = .invalid := by
  refine Decidable.byContradiction fun hr => ?_
  obtain ⟨form, hform, hreading⟩ := h.exists_beyond (List.append_ne_nil_of_right_ne_nil _
    (List.cons_ne_nil _ _)) (fun a _ => concat_ne_singleton hpending a b) rfl hr
  obtain ⟨out, hnumber⟩ := Form.number?_of_reading? hreading
  obtain ⟨digits, hdigits, v, hvalue⟩ := Digits.number?_concat hnumber
  obtain ⟨range, hrange, hle⟩ := Digits.range_of_value? hvalue
  have htail : digits ∈ form.places.tail := by
    match pending, hpending with
    | _ :: pending, _ =>
      rw [List.length_cons, ← List.drop_tail] at hdigits
      exact List.mem_of_mem_drop hdigits
  exact absurd (UInt8.lt_of_lt_of_le hb (UInt8.le_trans (hform.later digits htail range hrange) hle))
    (UInt8.lt_irrefl _)

/-- What completes something that has been begun holds no line end, and completes characters beyond ASCII. -/
theorem beyond_of_completes (hcompletes : Completes forms pending sequence cs) (hpending : pending ≠ []) :
    (∀ b ∈ sequence, 0x30 ≤ b) ∧ cs ≠ [] ∧ ∀ c ∈ cs, 128 ≤ c.toNat := by
  induction hcompletes with
  | @last pending b cs hread =>
    have hb : ¬ b < 0x30 := fun hlow => by
      rw [h.read_low hpending hlow] at hread
      cases hread
    obtain ⟨form, hform, hreading⟩ := h.exists_beyond (List.append_ne_nil_of_right_ne_nil _
      (List.cons_ne_nil _ _)) (fun a _ => concat_ne_singleton hpending a b) hread (by simp)
    obtain ⟨n, -, hchars⟩ := Form.chars?_of_reading? hreading
    exact ⟨fun a ha => by rw [List.mem_singleton.1 ha]; exact UInt8.not_lt.1 hb, hform.chars n cs hchars⟩
  | @more pending sequence b cs hread _ ih =>
    have hb : ¬ b < 0x30 := fun hlow => by
      rw [h.read_low hpending hlow] at hread
      cases hread
    obtain ⟨hsequence, hcs⟩ := ih (List.append_ne_nil_of_right_ne_nil _ (List.cons_ne_nil _ _))
    exact ⟨List.forall_mem_cons.2 ⟨UInt8.not_lt.1 hb, hsequence⟩, hcs⟩

/-- A sequence is a byte of ASCII, or holds no line end and leads beyond ASCII. -/
theorem ascii_or_beyond (hcompletes : Completes forms [] sequence cs) :
    (∃ b : UInt8, b.toNat < 128 ∧ sequence = [b] ∧ cs = [Char.ofNat b.toNat]) ∨
      (∀ b ∈ sequence, 0x30 ≤ b) ∧ cs ≠ [] ∧ ∀ c ∈ cs, 128 ≤ c.toNat := by
  cases hcompletes with
  | @last _ b _ hread =>
    rw [List.nil_append] at hread
    by_cases hb : b.toNat < 128
    · rw [h.read_ascii hb] at hread
      cases hread
      exact .inl ⟨b, hb, rfl, rfl⟩
    · right
      have hhigh : ∀ a : UInt8, a.toNat < 128 → [b] ≠ [a] := fun a ha he => by
        cases he
        exact hb ha
      obtain ⟨form, hform, hreading⟩ := h.exists_beyond (List.cons_ne_nil _ _) hhigh hread (by simp)
      obtain ⟨n, -, hchars⟩ := Form.chars?_of_reading? hreading
      refine ⟨fun a ha => ?_, hform.chars n cs hchars⟩
      rw [List.mem_singleton.1 ha, UInt8.le_iff_toNat_le]
      exact Nat.le_trans (by decide) (Nat.le_of_not_lt hb)
  | @more _ sequence b _ hread hrest =>
    right
    rw [List.nil_append] at hread hrest
    have hb : 128 ≤ b.toNat := Nat.le_of_not_lt fun hlow => by
      rw [h.read_ascii hlow] at hread
      cases hread
    obtain ⟨hsequence, hcs⟩ := h.beyond_of_completes hrest (List.cons_ne_nil _ _)
    refine ⟨List.forall_mem_cons.2 ⟨?_, hsequence⟩, hcs⟩
    rw [UInt8.le_iff_toNat_le]
    exact Nat.le_trans (by decide) hb

end ExtendsAscii

end Builtins
