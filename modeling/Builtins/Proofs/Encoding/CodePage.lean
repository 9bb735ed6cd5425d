import Builtins.Proofs.Encoding.Widening
import Builtins.Proofs.Text.Utf8

/-!
# Text in a code page

No two bytes of a code page stand for the same character, so a text in it can be put into UTF-8 byte by
byte, and a text whose characters are all in the page can be put into the page.

* `distinctFrom` — a table in which nothing is twice; `CodePage.distinct_upper`, `CodePage.entry_upper` — what
  holds of every table of a page;
* `CodePage.char?_injective` — a character is found at one byte only;
* `CodePage.byte?`, `CodePage.encode?` — from characters to bytes, `CodePage.encode?_eq_some_iff` — exactly
  where they come from;
* `Widening.ofChars` — each byte as the bytes of a character, `CodePage.widening` — of its own character;
* `CodePage.transcodes` — text in a code page, widened, is the text in UTF-8.
-/

namespace Builtins

/-! ### Tables in which nothing is twice -/

/-- Whether nothing beyond ASCII is there twice. The numbers before are bits of a number. -/
def distinctFrom (seen : Nat) : List Nat → Bool
  | [] => true
  | n :: rest =>
    bif seen.testBit n then n.blt 128 && distinctFrom seen rest
    else distinctFrom (seen ||| 1 <<< n) rest

/-- Nothing beyond ASCII is among the numbers before, or there twice. -/
theorem pairwise_of_distinctFrom {ns : List Nat} : ∀ {seen : Nat}, distinctFrom seen ns = true →
    (∀ n ∈ ns, seen.testBit n = true → n < 128) ∧ ns.Pairwise fun m n => m = n → m < 128 := by
  induction ns with
  | nil =>
    intro seen _
    exact ⟨fun _ hn => absurd hn List.not_mem_nil, .nil⟩
  | cons m rest ih =>
    intro seen h
    rw [distinctFrom] at h
    cases hm : seen.testBit m with
    | true =>
      rw [hm, cond_true, Bool.and_eq_true] at h
      have hlow : m < 128 := Nat.le_of_ble_eq_true h.1
      obtain ⟨hrest, hpairs⟩ := ih h.2
      refine ⟨fun n hn hseen => ?_, .cons (fun n _ _ => hlow) hpairs⟩
      rcases List.mem_cons.1 hn with rfl | hn
      · exact hlow
      · exact hrest n hn hseen
    | false =>
      rw [hm, cond_false] at h
      obtain ⟨hrest, hpairs⟩ := ih h
      have hbit : ∀ n, (seen ||| 1 <<< m).testBit n = (seen.testBit n || decide (m = n)) := by
        intro n
        rw [Nat.testBit_or, Nat.one_shiftLeft, Nat.testBit_two_pow]
      refine ⟨fun n hn hseen => ?_, .cons (fun n hn he => ?_) hpairs⟩
      · rcases List.mem_cons.1 hn with rfl | hn
        · rw [hm] at hseen
          cases hseen
        · exact hrest n hn (by rw [hbit, hseen, Bool.true_or])
      · subst he
        exact hrest m hn (by rw [hbit, decide_eq_true rfl, Bool.or_true])

namespace CodePage

/-! ### The tables -/

variable {p : CodePage} {a b : UInt8} {c : Char}

theorem length_upper (p : CodePage) : p.upper.length = 128 := by
  cases p with
  | _ => decide +kernel

/-- An entry is none or a character that is neither in ASCII nor from 0x10000 on. -/
theorem entry_upper (p : CodePage) :
    ∀ n ∈ p.upper, n = 0 ∨ 128 ≤ n ∧ n < 0x10000 ∧ n.isValidChar := by
  cases p with
  | _ => decide +kernel

/-- No character is in a table twice. -/
theorem distinct_upper (p : CodePage) : p.upper.Pairwise fun m n => m = n → m = 0 := by
  have hdistinct : distinctFrom 0 p.upper = true := by
    cases p with
    | _ => decide +kernel
  refine (pairwise_of_distinctFrom hdistinct).2.imp_of_mem fun hm _ hlow he => ?_
  rcases p.entry_upper _ hm with hzero | hentry
  · exact hzero
  · exact absurd (hlow he) (Nat.not_lt.2 hentry.1)

/-! ### One character -/

theorem toNat_ofNat {n : Nat} (h : n.isValidChar) : (Char.ofNat n).toNat = n := by
  rw [Char.ofNat, dif_pos h]
  rfl

theorem lt_ascii {b : UInt8} : b < 0x80 ↔ b.toNat < 128 := by
  rw [UInt8.lt_iff_toNat_lt]
  rfl

/-- ASCII stands for itself. -/
theorem char?_ascii (hb : b.toNat < 128) : p.char? b = some (Char.ofNat b.toNat) := by
  rw [char?, if_pos (lt_ascii.2 hb)]

/-- Another byte stands for the character in the table, unless there is none. -/
theorem char?_high (hb : 128 ≤ b.toNat) :
    p.char? b = some c ↔ p.upper[b.toNat - 128]? = some c.toNat ∧ c.toNat ≠ 0 := by
  have hhigh : ¬ b < 0x80 := fun hlt => by
    have := lt_ascii.1 hlt
    omega
  rw [char?, if_neg hhigh]
  cases hentry : p.upper[b.toNat - 128]? with
  | none => simp
  | some n =>
    cases n with
    | zero =>
      simp only [reduceCtorEq, Option.some.injEq, false_iff, not_and]
      exact fun hzero hne => hne hzero.symm
    | succ n =>
      have hvalid : (n + 1).isValidChar := by
        rcases p.entry_upper _ (List.mem_of_getElem? hentry) with hzero | hentry
        · cases hzero
        · exact hentry.2.2
      simp only [Option.some.injEq]
      constructor
      · rintro rfl
        rw [toNat_ofNat hvalid]
        exact ⟨rfl, Nat.succ_ne_zero n⟩
      · rintro ⟨hn, -⟩
        rw [hn, Char.ofNat_toNat]

/-- Bytes that are not ASCII stand for characters that are not ASCII either. -/
theorem toNat_of_char? (hb : 128 ≤ b.toNat) (h : p.char? b = some c) :
    128 ≤ c.toNat ∧ c.toNat < 0x10000 := by
  obtain ⟨hentry, hne⟩ := (char?_high hb).1 h
  rcases p.entry_upper _ (List.mem_of_getElem? hentry) with hzero | hentry
  · exact absurd hzero hne
  · exact ⟨hentry.1, hentry.2.1⟩

theorem toNat_of_char?_ascii (hb : b.toNat < 128) (h : p.char? b = some c) : c.toNat = b.toNat := by
  rw [char?_ascii hb] at h
  cases h
  exact toNat_ofNat (.inl (by omega))

/-- No two bytes stand for the same character. -/
theorem char?_injective (ha : p.char? a = some c) (hb : p.char? b = some c) : a = b := by
  refine UInt8.toNat_inj.1 ?_
  by_cases ha' : a.toNat < 128
  · have hac := toNat_of_char?_ascii ha' ha
    by_cases hb' : b.toNat < 128
    · rw [← hac, toNat_of_char?_ascii hb' hb]
    · have := (toNat_of_char? (by omega) hb).1
      omega
  · have hac := (toNat_of_char? (by omega) ha).1
    by_cases hb' : b.toNat < 128
    · have := toNat_of_char?_ascii hb' hb
      omega
    · -- Two entries of the table are the same, so that they are one entry.
      obtain ⟨haentry, hne⟩ := (char?_high (Nat.le_of_not_lt ha')).1 ha
      obtain ⟨hbentry, -⟩ := (char?_high (Nat.le_of_not_lt hb')).1 hb
      obtain ⟨hi, hia⟩ := List.getElem?_eq_some_iff.1 haentry
      obtain ⟨hj, hjb⟩ := List.getElem?_eq_some_iff.1 hbentry
      have hpairs := List.pairwise_iff_getElem.1 p.distinct_upper
      rcases Nat.lt_trichotomy (a.toNat - 128) (b.toNat - 128) with hlt | heq | hgt
      · exact absurd (hpairs _ _ hi hj hlt (hia.trans hjb.symm)) (hia ▸ hne)
      · omega
      · exact absurd (hpairs _ _ hj hi hgt (hjb.trans hia.symm)) (hjb ▸ hne)

/-- The byte that stands for a character, if there is one. -/
def byte? (page : CodePage) (c : Char) : Option UInt8 :=
  if c.toNat < 0x80 then some (UInt8.ofNat c.toNat)
  else (page.upper.idxOf? c.toNat).map fun i => UInt8.ofNat (0x80 + i)

/-- The byte of a character stands for it. -/
theorem char?_of_byte? (h : p.byte? c = some b) : p.char? b = some c := by
  rw [byte?] at h
  split at h
  · rename_i hc
    cases h
    have hb : (UInt8.ofNat c.toNat).toNat = c.toNat := Nat.mod_eq_of_lt (by omega)
    rw [char?_ascii (by omega), hb, Char.ofNat_toNat]
  · rename_i hc
    obtain ⟨i, hi, rfl⟩ := Option.map_eq_some_iff.1 h
    obtain ⟨hlt, hentry, -⟩ := List.idxOf?_eq_some_iff.1 hi
    have hlength := p.length_upper
    have hb : (UInt8.ofNat (0x80 + i)).toNat = 128 + i := Nat.mod_eq_of_lt (by omega)
    refine (char?_high (by omega)).2 ⟨?_, by omega⟩
    rw [hb, Nat.add_sub_cancel_left, List.getElem?_eq_getElem hlt, hentry]

/-- A character is found at its byte exactly. -/
theorem byte?_eq_some_iff : p.byte? c = some b ↔ p.char? b = some c := by
  refine ⟨char?_of_byte?, fun h => ?_⟩
  have hfound : ∃ x, p.byte? c = some x := by
    rw [byte?]
    split
    · exact ⟨_, rfl⟩
    · rename_i hc
      have hb : 128 ≤ b.toNat := by
        by_cases hb : b.toNat < 128
        · rw [toNat_of_char?_ascii hb h] at hc
          omega
        · omega
      have hmem := List.mem_of_getElem? ((char?_high hb).1 h).1
      cases hi : p.upper.idxOf? c.toNat with
      | none => exact absurd hmem (List.idxOf?_eq_none_iff.1 hi)
      | some i => exact ⟨_, rfl⟩
  obtain ⟨x, hx⟩ := hfound
  rw [hx, char?_injective (char?_of_byte? hx) h]

/-! ### Whole texts -/

/-- Element by element, a list is found again by what undoes each element. -/
theorem mapM_of_inverse {α β : Type} {f : α → Option β} {g : β → Option α}
    (h : ∀ {x y}, f x = some y → g y = some x) {xs : List α} : ∀ {ys : List β},
      xs.mapM f = some ys → ys.mapM g = some xs := by
  induction xs with
  | nil =>
    intro ys hxs
    cases hxs
    rfl
  | cons x xs ih =>
    intro ys hxs
    rw [List.mapM_cons] at hxs
    obtain ⟨y, hy, hxs⟩ := Option.bind_eq_some_iff.1 hxs
    obtain ⟨rest, hrest, hxs⟩ := Option.bind_eq_some_iff.1 hxs
    cases hxs
    rw [List.mapM_cons, h hy, ih hrest]
    rfl

/-- The bytes of a text, if all of its characters are in the page. -/
def encode? (page : CodePage) (s : String) : Option Bytes := s.toList.mapM page.byte?

/-- The bytes of a text are those that stand for it. -/
theorem encode?_eq_some_iff {s : String} {bytes : Bytes} :
    p.encode? s = some bytes ↔ (Encoding.page p).decode? bytes = some s := by
  constructor
  · intro h
    rw [Encoding.decode?, mapM_of_inverse byte?_eq_some_iff.1 h, Option.map_some,
      String.ofList_toList]
  · intro h
    obtain ⟨cs, hcs, rfl⟩ := Option.map_eq_some_iff.1 h
    rw [encode?, String.toList_ofList]
    exact mapM_of_inverse byte?_eq_some_iff.2 hcs

/-- The character that a byte stands for, or else one that no byte stands for. -/
def charOf (page : CodePage) (b : UInt8) : Char :=
  (page.char? b).getD (Char.ofNat (0x100000 + b.toNat))

theorem charOf_eq (h : p.char? b = some c) : p.charOf b = c := by
  rw [charOf, h]
  rfl

theorem toNat_charOf_of_none (h : p.char? b = none) : (p.charOf b).toNat = 0x100000 + b.toNat := by
  have hb := b.toNat_lt
  rw [charOf, h]
  exact toNat_ofNat (.inr ⟨by omega, by omega⟩)

theorem charOf_ascii (p : CodePage) (b : UInt8) (hb : b.toNat < 128) :
    p.charOf b = Char.ofNat b.toNat := charOf_eq (char?_ascii hb)

theorem toNat_charOf (p : CodePage) (b : UInt8) (hb : 128 ≤ b.toNat) : 128 ≤ (p.charOf b).toNat := by
  cases h : p.char? b with
  | none =>
    rw [toNat_charOf_of_none h]
    omega
  | some c =>
    rw [charOf_eq h]
    exact (toNat_of_char? hb h).1

theorem toNat_lt_of_char? (h : p.char? b = some c) : c.toNat < 0x10000 := by
  by_cases hb : b.toNat < 128
  · rw [toNat_of_char?_ascii hb h]
    omega
  · exact (toNat_of_char? (Nat.le_of_not_lt hb) h).2

theorem charOf_injective (p : CodePage) (a b : UInt8) (h : p.charOf a = p.charOf b) : a = b := by
  have hnat : (p.charOf a).toNat = (p.charOf b).toNat := by rw [h]
  cases ha : p.char? a with
  | none =>
    rw [toNat_charOf_of_none ha] at hnat
    cases hb : p.char? b with
    | none =>
      rw [toNat_charOf_of_none hb] at hnat
      exact UInt8.toNat_inj.1 (by omega)
    | some c =>
      rw [charOf_eq hb] at hnat
      have := toNat_lt_of_char? hb
      omega
  | some c =>
    cases hb : p.char? b with
    | none =>
      rw [toNat_charOf_of_none hb, charOf_eq ha] at hnat
      have := toNat_lt_of_char? ha
      omega
    | some d =>
      rw [charOf_eq ha, charOf_eq hb] at h
      exact char?_injective ha (h ▸ hb)

end CodePage

/-! ### Bytes as characters -/

theorem bytesOf_map (f : UInt8 → Char) (bytes : Bytes) :
    bytesOf (bytes.map f) = bytes.flatMap fun b => String.utf8EncodeChar (f b) :=
  List.flatMap_map f _ bytes

namespace Widening

variable {f : UInt8 → Char}

theorem encode_eq_singleton {b : UInt8} (hb : b.toNat < 128) (h : f b = Char.ofNat b.toNat) :
    String.utf8EncodeChar (f b) = [b] := by
  have hc : (f b).toNat = b.toNat := by
    rw [h]
    exact CodePage.toNat_ofNat (.inl (by omega))
  rw [encode_ascii (by omega), hc, UInt8.ofNat_toNat]

theorem encode_high {c : Char} (hc : 128 ≤ c.toNat) :
    String.utf8EncodeChar c ≠ [] ∧ ∀ x ∈ String.utf8EncodeChar c, 128 ≤ x.toNat := by
  refine ⟨fun hnil => ?_, fun x hx => ?_⟩
  · have hempty : bytesOf [c] = [] := by rw [bytesOf, List.flatMap_singleton, hnil]
    cases bytesOf_eq_nil.1 hempty
  · by_cases hlt : x.toNat < 128
    · have := toNat_of_mem_encode hx hlt
      omega
    · omega

theorem eq_of_flatMap_encode (hinj : ∀ a b, f a = f b → a = b) {xs ys : Bytes}
    (h : (xs.flatMap fun b => String.utf8EncodeChar (f b)) =
      ys.flatMap fun b => String.utf8EncodeChar (f b)) : xs = ys := by
  rw [← bytesOf_map, ← bytesOf_map] at h
  exact (List.map_inj_right hinj).1 (bytesOf_injective h)

/-- Each byte as the bytes of a character. Different bytes need different characters. -/
def ofChars (f : UInt8 → Char) (ascii : ∀ b, b.toNat < 128 → f b = Char.ofNat b.toNat)
    (high : ∀ b, 128 ≤ b.toNat → 128 ≤ (f b).toNat) (hinj : ∀ a b, f a = f b → a = b) : Widening where
  byte b := String.utf8EncodeChar (f b)
  ascii b hb := encode_eq_singleton hb (ascii b hb)
  high b hb := encode_high (high b hb)
  injective _ _ h := eq_of_flatMap_encode hinj h

end Widening

namespace CodePage

variable {p : CodePage} {bytes : Bytes}

/-- Each byte of a page as the bytes of its character. -/
def widening (p : CodePage) : Widening :=
  .ofChars p.charOf p.charOf_ascii p.toNat_charOf p.charOf_injective

theorem widen_eq (p : CodePage) (bytes : Bytes) :
    p.widening.widen bytes = bytesOf (bytes.map p.charOf) := (bytesOf_map p.charOf bytes).symm

/-- What all stands for something is decoded byte by byte. -/
theorem decode?_of_isSome (h : ∀ b ∈ bytes, (p.char? b).isSome) :
    (Encoding.page p).decode? bytes = some (String.ofList (bytes.map p.charOf)) := by
  have hchars : bytes.mapM p.char? = some (bytes.map p.charOf) := by
    induction bytes with
    | nil => rfl
    | cons b bytes ih =>
      obtain ⟨hb, hbytes⟩ := List.forall_mem_cons.1 h
      obtain ⟨c, hc⟩ := Option.isSome_iff_exists.1 hb
      rw [List.mapM_cons, hc, ih hbytes, List.map_cons, charOf_eq hc]
      rfl
  rw [Encoding.decode?, hchars, Option.map_some]

/-- Text in a code page, widened, is the text in UTF-8. -/
theorem transcodes (p : CodePage) :
    Transcodes p.widening (.page p) fun b => (p.char? b).isSome := by
  refine ⟨fun bytes h => ?_, fun bytes h hnone => ?_⟩
  · rw [decode?_of_isSome h, widen_eq, decode?_bytesOf]
  · rw [decode?_of_isSome h] at hnone
    cases hnone

/-- What is decoded all stands for something. -/
theorem isSome_of_decode? {s : String} (h : (Encoding.page p).decode? bytes = some s) :
    ∀ b ∈ bytes, (p.char? b).isSome := by
  obtain ⟨cs, hcs, -⟩ := Option.map_eq_some_iff.1 h
  clear h
  induction bytes generalizing cs with
  | nil => exact fun _ hb => absurd hb List.not_mem_nil
  | cons b bytes ih =>
    rw [List.mapM_cons] at hcs
    obtain ⟨c, hc, hcs⟩ := Option.bind_eq_some_iff.1 hcs
    obtain ⟨rest, hrest, -⟩ := Option.bind_eq_some_iff.1 hcs
    exact List.forall_mem_cons.2 ⟨by rw [hc]; rfl, ih rest hrest⟩

theorem widen_of_decode? {s : String} (h : (Encoding.page p).decode? bytes = some s) :
    p.widening.widen bytes = utf8 s := by
  have hdecode := p.transcodes.decode bytes (isSome_of_decode? h)
  rw [h] at hdecode
  exact (utf8_of_utf8Text? hdecode).symm

end CodePage

end Builtins
