import Builtins.Proofs.Text.LineEnd
import Builtins.Proofs.Text.Utf8
import Builtins.Proofs.Xml.Reading

/-!
# Line ends of texts

A carriage return before a line feed, and one of its own, stand for a line feed.

* `charEnd`, `byteEnd` — the line ends of texts and of their bytes; `squeeze_bytesOf` — they go together;
* `Unifies` — texts of which the second is the first with some line ends unified;
* `Unifies.append_eq_iff` — a part that is changed is never changed back;
* `Unifies.squeeze` — with all line ends unified.
-/

namespace Builtins

/-- The line ends of texts. -/
def charEnd : LineEnd Char := ⟨'\r', '\n', '\n', by decide, .inr rfl⟩

/-- The line ends of bytes. -/
def byteEnd : LineEnd UInt8 := ⟨0x0D, 0x0A, 0x0A, by decide, .inr rfl⟩

/-- A byte past the control characters of a line end. -/
theorem free_of_toNat {b : UInt8} (h : 13 < b.toNat) : byteEnd.Free b := by
  constructor
  · rintro rfl
    exact absurd h (by decide)
  · rintro rfl
    exact absurd h (by decide)

/-- A line feed stays one, as all else does but a carriage return. -/
theorem one_of_ne {c : Char} (h : c ≠ '\r') : charEnd.one c = c := by
  rw [LineEnd.one]
  split
  · rename_i hmark
    exact (hmark.resolve_left h).symm
  · rfl

theorem unifyLineEnds_eq_squeeze (cs : List Char) : unifyLineEnds cs = charEnd.squeeze cs := by
  induction cs using LineEnd.squeeze_induction (e := charEnd) with
  | nil => rfl
  | pair rest ih =>
    rw [LineEnd.squeeze_pair, ← ih]
    exact unifyLineEnds.eq_2 rest
  | single c rest hc ih =>
    rw [LineEnd.squeeze_cons hc, ← ih]
    by_cases hreturn : c = '\r'
    · subst hreturn
      exact unifyLineEnds.eq_3 rest fun rest' he => hc rfl (by rw [he]; rfl)
    · rw [one_of_ne hreturn]
      exact unifyLineEnds.eq_4 c rest (fun _ he => absurd he hreturn) hreturn

theorem unifyLineEnds_unifyLineEnds (cs : List Char) :
    unifyLineEnds (unifyLineEnds cs) = unifyLineEnds cs :=
  unifyLineEnds_of_not_mem (cr_not_mem_unifyLineEnds cs)

/-- A byte of ASCII is that of its character only. -/
theorem eq_of_mem_encode {c d : Char} (hd : d.toNat < 128)
    (h : UInt8.ofNat d.toNat ∈ String.utf8EncodeChar c) : c = d := by
  have hbyte : (UInt8.ofNat d.toNat).toNat = d.toNat := Nat.mod_eq_of_lt (by omega)
  have hnat := toNat_of_mem_encode h (by omega)
  rw [← Char.toNat_inj, ← hnat, hbyte]

/-- A text starts with a character of ASCII if its bytes start with that of the character. -/
theorem head?_of_head?_bytesOf {cs : List Char} {d : Char} (hd : d.toNat < 128)
    (h : (bytesOf cs).head? = some (UInt8.ofNat d.toNat)) : cs.head? = some d := by
  cases cs with
  | nil => cases h
  | cons c cs =>
    rw [bytesOf_cons, List.head?_append_of_ne_nil _ String.utf8EncodeChar_ne_nil] at h
    exact congrArg some (eq_of_mem_encode hd (List.mem_of_head? h))

/-- A character that is no part of a line end has no byte of one. -/
theorem free_of_mem_encode {c : Char} (hreturn : c ≠ '\r') (hfeed : c ≠ '\n') :
    ∀ b ∈ String.utf8EncodeChar c, byteEnd.Free b := by
  intro b hb
  constructor
  · rintro rfl
    exact hreturn (@eq_of_mem_encode c '\r' (by decide) hb)
  · rintro rfl
    exact hfeed (@eq_of_mem_encode c '\n' (by decide) hb)

/-- The bytes of a text with its line ends unified. -/
theorem squeeze_bytesOf (cs : List Char) :
    byteEnd.squeeze (bytesOf cs) = bytesOf (charEnd.squeeze cs) := by
  have hreturn : ∀ cs, bytesOf ('\r' :: cs) = 0x0D :: bytesOf cs := fun cs => bytesOf_ascii (by decide) cs
  have hfeed : ∀ cs, bytesOf ('\n' :: cs) = 0x0A :: bytesOf cs := fun cs => bytesOf_ascii (by decide) cs
  induction cs using LineEnd.squeeze_induction (e := charEnd) with
  | nil => rfl
  | pair rest ih =>
    rw [LineEnd.squeeze_pair]
    show byteEnd.squeeze (bytesOf ('\r' :: '\n' :: rest)) = bytesOf ('\n' :: charEnd.squeeze rest)
    rw [hreturn, hfeed, hfeed, ← ih]
    exact LineEnd.squeeze_pair
  | single c rest hc ih =>
    rw [LineEnd.squeeze_cons hc]
    by_cases hc' : c = '\r'
    · subst hc'
      have hnext : (bytesOf rest).head? ≠ some 0x0A := fun hhead =>
        hc rfl (@head?_of_head?_bytesOf rest '\n' (by decide) hhead)
      rw [hreturn, LineEnd.squeeze_cons fun _ => hnext, ih]
      exact (hfeed _).symm
    · rw [one_of_ne hc']
      by_cases hfeed' : c = '\n'
      · subst hfeed'
        rw [hfeed, LineEnd.squeeze_cons fun he => absurd he (by decide), ih]
        exact (hfeed _).symm
      · rw [bytesOf_cons, LineEnd.squeeze_append_free (free_of_mem_encode hc' hfeed'), ih, bytesOf_cons]

/-! ### Texts that differ in line ends -/

/-- The second text is the first one with some of its line ends unified. -/
inductive Unifies : List Char → List Char → Prop
  | nil : Unifies [] []
  | keep (c : Char) {cs ds : List Char} : Unifies cs ds → Unifies (c :: cs) (c :: ds)
  | single {cs ds : List Char} : Unifies cs ds → Unifies ('\r' :: cs) ('\n' :: ds)
  | pair {cs ds : List Char} : Unifies cs ds → Unifies ('\r' :: '\n' :: cs) ('\n' :: ds)

namespace Unifies

variable {cs ds xs ys : List Char}

theorem refl : ∀ cs, Unifies cs cs
  | [] => nil
  | c :: cs => keep c (refl cs)

theorem append (h : Unifies cs ds) (hx : Unifies xs ys) : Unifies (cs ++ xs) (ds ++ ys) := by
  induction h with
  | nil => exact hx
  | keep c _ ih => exact keep c ih
  | single _ ih => exact single ih
  | pair _ ih => exact pair ih

/-- Where one of two parts is changed the whole is: the first change is never undone. -/
theorem append_eq_iff (h : Unifies cs ds) : ds ++ ys = cs ++ xs ↔ ds = cs ∧ ys = xs := by
  induction h with
  | nil => simp
  | keep c _ ih => rw [List.cons_append, List.cons_append, List.cons_inj_right, List.cons_inj_right, ih]
  | single _ _ => simp
  | pair _ _ => simp

/-- What is changed is white space, and stays white space. -/
theorem forall_isBlank (h : Unifies cs ds) :
    (∀ c ∈ ds, isBlank c = true) ↔ ∀ c ∈ cs, isBlank c = true := by
  have hreturn : isBlank '\r' = true := by decide
  have hfeed : isBlank '\n' = true := by decide
  induction h with
  | nil => rfl
  | keep c _ ih => simp only [List.forall_mem_cons, ih]
  | single _ ih => simp only [List.forall_mem_cons, ih, hreturn, hfeed]
  | pair _ ih => simp only [List.forall_mem_cons, ih, hreturn, hfeed, true_and]

theorem eq_nil (h : Unifies cs ds) : ds = [] ↔ cs = [] := by
  cases h with
  | nil => rfl
  | _ => simp

/-- Unifying all line ends changes a text exactly if there is a carriage return. -/
theorem squeeze (cs : List Char) :
    Unifies cs (charEnd.squeeze cs) ∧ (charEnd.squeeze cs = cs ↔ '\r' ∉ cs) := by
  induction cs using LineEnd.squeeze_induction (e := charEnd) with
  | nil => exact ⟨nil, by simp [LineEnd.squeeze]⟩
  | pair rest ih =>
    rw [LineEnd.squeeze_pair]
    exact ⟨pair ih.1, by simp [charEnd]⟩
  | single c rest hc ih =>
    rw [LineEnd.squeeze_cons hc]
    by_cases hreturn : c = '\r'
    · subst hreturn
      exact ⟨single ih.1, by simp [charEnd, LineEnd.one]⟩
    · rw [one_of_ne hreturn, List.cons_inj_right, List.mem_cons, not_or, ih.2]
      exact ⟨keep c ih.1, (and_iff_right (Ne.symm hreturn)).symm⟩

end Unifies

end Builtins
