import Builtins.Binary.Decode
import Builtins.Proofs.Binary.Chunks
import Builtins.Proofs.Text.Blank
import Mathlib.Data.List.Forall2
import Mathlib.Data.List.Induction

/-!
# Reading embedded content back

Text that was made of binary content gives the content back, however it was cut into lines.

* `filter_intercalate` — base64 on lines is base64 with white space in it;
* `Reads` — pieces between commas that give literals when they are trimmed;
* `reads_splitLiterals` — literals on lines are such pieces, with the line ends in front of some;
* `decode?_encode` — decoding undoes encoding, whatever the options.
-/

namespace Builtins

/-! ### Base64 -/

theorem filter_base64 (bytes : Bytes) :
    (base64 bytes).filter (fun c => !isBlank c) = base64 bytes :=
  List.filter_eq_self.2 fun _ hc => by simp [isBlank_of_mem_base64 hc]

/-- White space between pieces is all that joining them adds. -/
theorem filter_intercalate {blank : List Char} (h : ∀ c ∈ blank, isBlank c = true)
    (pieces : List (List Char)) :
    (blank.intercalate pieces).filter (fun c => !isBlank c) =
      pieces.flatten.filter fun c => !isBlank c := by
  have hblank : blank.filter (fun c => !isBlank c) = [] :=
    List.filter_eq_nil_iff.2 fun c hc => by simp [h c hc]
  induction pieces with
  | nil => rfl
  | cons piece rest ih =>
    cases rest with
    | nil => simp
    | cons next rest =>
      rw [List.intercalate_cons_cons, List.filter_append, List.filter_append, hblank,
        List.append_nil, ih, ← List.filter_append]
      rfl

/-- Base64 is read back, on one line or on several. -/
theorem decode?_base64 (bytes : Bytes) : decode? .base64 (trimBlank (String.ofList (base64 bytes))) =
    some bytes := by
  rw [decode?, trimBlank, String.toList_ofList, String.toList_ofList, filter_trimBlankList,
    filter_base64, base64Bytes?_base64]

theorem decode?_splitBase64 {eol : String} (h : Blank eol) (bytes : Bytes) :
    decode? .base64 (splitBase64 eol (base64 bytes)) = some bytes := by
  rw [decode?, splitBase64_eq, trimBlank, String.toList_ofList, filter_trimBlankList,
    toList_intercalate_base64Lines, filter_intercalate h, flatten_chunks, filter_base64,
    base64Bytes?_base64]

/-! ### Literals -/

/-- Whether a character is neither white space nor a comma. -/
def Solid (c : Char) : Prop := isBlank c = false ∧ c ≠ ','

instance (c : Char) : Decidable (Solid c) := inferInstanceAs (Decidable (_ ∧ _))

theorem solid_of_isDigit {c : Char} (h : c.isDigit = true) : Solid c := by
  simp only [Char.isDigit, Bool.and_eq_true, decide_eq_true_eq] at h
  have hlow : 48 ≤ c.toNat := h.1
  have hhigh : c.toNat ≤ 57 := h.2
  constructor
  · simp only [isBlank, Bool.or_eq_false_iff, Bool.and_eq_false_iff, decide_eq_false_iff_not,
      beq_eq_false_iff_ne]
    omega
  · intro he
    rw [he] at hlow
    exact absurd hlow (by decide)

/-- There is neither white space nor a comma in a literal. -/
theorem solid_of_mem_literalChars {form : LiteralForm} {b : UInt8} {c : Char}
    (h : c ∈ literalChars form b) : Solid c := by
  have hdigits : ∀ n, c ∈ Nat.toDigits 10 n → Solid c := fun n hc =>
    solid_of_isDigit (Nat.isDigit_of_mem_toDigits (b := 10) (by decide) (by decide) hc)
  cases form with
  | hexadecimal =>
    rcases List.mem_append.1 h with hcast | hhex
    · have all : castStart.all (fun c => decide (Solid c)) = true := by decide
      exact of_decide_eq_true (List.all_eq_true.1 all c hcast)
    · have all : ∀ m < 256, (hexDigits m).all (fun c => decide (Solid c)) = true := by
        decide +kernel
      exact of_decide_eq_true (List.all_eq_true.1 (all b.toNat b.toNat_lt) c hhex)
  | unsigned => exact hdigits _ h
  | signed =>
    rw [literalChars] at h
    split at h
    · exact hdigits _ h
    · rcases List.mem_cons.1 h with rfl | hrest
      · decide
      · exact hdigits _ hrest

theorem literalChars_ne_nil (form : LiteralForm) (b : UInt8) : literalChars form b ≠ [] := by
  intro h
  have hread := literalByte?_literalChars form b
  rw [h] at hread
  cases form <;> cases hread

/-- Pieces between commas that give the literals of some bytes when they are trimmed. -/
def Reads (form : LiteralForm) : List (List Char) → Bytes → Prop :=
  List.Forall₂ fun piece b => ',' ∉ piece ∧ trimBlankList piece = literalChars form b

/-- White space in front of a literal is a piece of it. -/
theorem reads_append {form : LiteralForm} {pieces : List (List Char)} {bytes : Bytes}
    (h : Reads form pieces bytes) {blank : List Char} (hblank : ∀ c ∈ blank, isBlank c = true)
    (b : UInt8) : Reads form (pieces ++ [blank ++ literalChars form b]) (bytes ++ [b]) := by
  refine List.rel_append h (.cons ⟨?_, ?_⟩ .nil)
  · intro hcomma
    rcases List.mem_append.1 hcomma with hfront | hliteral
    · exact absurd (hblank ',' hfront) (by decide)
    · exact (solid_of_mem_literalChars hliteral).2 rfl
  · exact trimBlankList_append hblank fun c hc => (solid_of_mem_literalChars hc).1

/-- There is something between the commas. -/
theorem Reads.ne_nil {form : LiteralForm} {pieces : List (List Char)} {bytes : Bytes}
    (h : Reads form pieces bytes) (hbytes : bytes ≠ []) : [','].intercalate pieces ≠ [] := by
  cases h with
  | nil => exact absurd rfl hbytes
  | @cons piece b pieces bytes hpiece hrest =>
    have hne : piece ≠ [] := by
      intro he
      rw [he] at hpiece
      exact literalChars_ne_nil form b hpiece.2.symm
    cases pieces with
    | nil => simpa using hne
    | cons next pieces => simp [List.intercalate_cons_cons, hne]

/-- Pieces are found again at the commas and read when they are trimmed. -/
theorem literalBytes?_of_reads {form : LiteralForm} {pieces : List (List Char)} {bytes : Bytes}
    (h : Reads form pieces bytes) :
    literalBytes? form ([','].intercalate pieces) = some bytes := by
  by_cases hbytes : bytes = []
  · subst hbytes
    cases h
    rfl
  · have hpieces : pieces ≠ [] := by
      intro he
      subst he
      cases h
      exact hbytes rfl
    have hcomma : ∀ piece ∈ pieces, ',' ∉ piece := by
      intro piece hmem
      obtain ⟨i, hi, rfl⟩ := List.mem_iff_getElem.1 hmem
      exact (h.get hi (h.length_eq ▸ hi)).1
    rw [literalBytes?, if_neg (by simpa using h.ne_nil hbytes), List.splitOn_intercalate _ hcomma hpieces]
    clear hcomma hpieces hbytes
    induction h with
    | nil => rfl
    | cons hpiece _ ih => rw [List.mapM_cons, hpiece.2, literalByte?_literalChars, ih]; rfl

/-- Literals on one line are read back. -/
theorem decode?_joinLiterals (form : LiteralForm) (bytes : Bytes) :
    decode? (.literals form) (joinLiterals (bytes.map (literal form))) = some bytes := by
  have hpieces : (bytes.map (literal form)).map String.toList = bytes.map (literalChars form) := by
    rw [List.map_map]
    simp [Function.comp_def, literal]
  have hreads : Reads form (bytes.map (literalChars form)) bytes := by
    refine List.forall₂_map_left_iff.2 (List.forall₂_same.2 fun b _ => ⟨?_, ?_⟩)
    · exact fun hcomma => (solid_of_mem_literalChars hcomma).2 rfl
    · exact @trimBlankList_append [] _ (by simp) fun c hc => (solid_of_mem_literalChars hc).1
  rw [decode?, joinLiterals, String.toList_intercalate, hpieces]
  exact literalBytes?_of_reads hreads

/-- One more piece comes after a comma. -/
theorem intercalate_concat {sep : List Char} {pieces : List (List Char)} (h : pieces ≠ [])
    (piece : List Char) :
    sep.intercalate (pieces ++ [piece]) = sep.intercalate pieces ++ sep ++ piece := by
  induction pieces with
  | nil => exact absurd rfl h
  | cons first rest ih =>
    cases rest with
    | nil => simp [List.intercalate_cons_cons]
    | cons next rest =>
      have hrest := ih (List.cons_ne_nil _ _)
      rw [List.cons_append] at hrest
      rw [List.cons_append, List.cons_append, List.intercalate_cons_cons, hrest,
        List.intercalate_cons_cons]
      simp

/-- A literal is added after a comma, if it is not the first, and after the end of a line. -/
theorem text_add (eol : String) (s : LiteralLines) (l : String) :
    (s.add eol l).text =
      s.text ++ (if s.text.isEmpty then "" else ",") ++ (if s.due then eol else "") ++ l := by
  rw [LiteralLines.add]
  show (if _ then LiteralLines.mk _ _ _ else LiteralLines.mk _ _ _).text = _
  rw [apply_ite LiteralLines.text]
  exact ite_self _

/-- The text of literals on lines is made of pieces that give the literals. -/
theorem reads_splitLiterals {eol : String} (h : Blank eol) (form : LiteralForm) (bytes : Bytes) :
    ∃ pieces, (splitLiterals eol (bytes.map (literal form))).toList = [','].intercalate pieces ∧
      Reads form pieces bytes := by
  induction bytes using List.reverseRecOn with
  | nil => exact ⟨[], rfl, .nil⟩
  | append_singleton bytes b ih =>
    obtain ⟨pieces, htext, hreads⟩ := ih
    rw [splitLiterals] at htext ⊢
    rw [List.map_append, List.foldl_append]
    generalize (bytes.map (literal form)).foldl (LiteralLines.add eol) .start = s at htext
    show ∃ pieces, (s.add eol (literal form b)).text.toList = _ ∧ _
    have hline : ∀ c ∈ (if s.due then eol else "").toList, isBlank c = true := by
      split
      · exact h
      · simp
    refine ⟨_, ?_, reads_append hreads hline b⟩
    rw [text_add, String.toList_append, String.toList_append, String.toList_append, htext,
      literal, String.toList_ofList]
    by_cases hbytes : bytes = []
    · subst hbytes
      cases hreads
      have hempty : s.text = "" := String.toList_inj.1 htext
      simp [hempty]
    · have hpieces : pieces ≠ [] := by
        intro he
        subst he
        cases hreads
        exact hbytes rfl
      have htext' : ¬ s.text.isEmpty = true := by
        rw [String.isEmpty_iff, ← String.toList_inj, htext]
        exact hreads.ne_nil hbytes
      rw [if_neg htext', intercalate_concat hpieces]
      simp

/-- Literals on several lines are read back. -/
theorem decode?_splitLiterals {eol : String} (h : Blank eol) (form : LiteralForm) (bytes : Bytes) :
    decode? (.literals form) (splitLiterals eol (bytes.map (literal form))) = some bytes := by
  obtain ⟨pieces, htext, hreads⟩ := reads_splitLiterals h form bytes
  rw [decode?, htext]
  exact literalBytes?_of_reads hreads

/-! ### Every option -/

/-- What the options make of binary content is read back as it was written. -/
theorem decode?_encode_bytes {eol : String} (h : Blank eol) (data : Bytes) (options : EncodeOptions) :
    decode? options.form (encode data options eol) =
      some (if options.compressed then deflate data else data) := by
  obtain ⟨form, split, compressed⟩ := options
  generalize hbytes : (if compressed then deflate data else data) = bytes
  cases form with
  | base64 =>
    cases split with
    | true => simpa [encode, hbytes] using decode?_splitBase64 h bytes
    | false => simpa [encode, hbytes] using decode?_base64 bytes
  | literals form =>
    cases split with
    | true => simpa [encode, hbytes] using decode?_splitLiterals h form bytes
    | false => simpa [encode, hbytes] using decode?_joinLiterals form bytes

/-- Decoding undoes encoding, whatever the options, when the end of a line is white space and
inflating undoes the compression. -/
theorem decode?_encode (inflate : Bytes → Option Bytes) (data : Bytes) (options : EncodeOptions)
    (eol : String) (heol : Blank eol)
    (hinflate : options.compressed = true → inflate (deflate data) = some data) :
    ((decode? options.form (encode data options eol)).bind fun bytes =>
      if options.compressed then inflate bytes else some bytes) = some data := by
  rw [decode?_encode_bytes heol, Option.bind_some]
  by_cases hc : options.compressed = true
  · rw [if_pos hc, if_pos hc]
    exact hinflate hc
  · rw [if_neg hc, if_neg hc]

/-! ### A stream that is read back -/

/-- The number that bits give, the first the most significant. -/
def ofBits (bits : List Bool) : Nat := bits.foldl (fun n b => 2 * n + b.toNat) 0

/-- The literals of a block in the fixed code, up to its end. Nothing else is read. -/
def fixedLiterals? : Nat → List Bool → Option Bytes
  | 0, _ => none
  | fuel + 1, bits =>
    if bits.take 7 = List.replicate 7 false then some []
    else
      let short := ofBits (bits.take 8)
      if 48 ≤ short ∧ short < 192 then
        (fixedLiterals? fuel (bits.drop 8)).map (UInt8.ofNat (short - 48) :: ·)
      else if 200 ≤ short then
        (fixedLiterals? fuel (bits.drop 9)).map (UInt8.ofNat (ofBits (bits.take 9) - 256) :: ·)
      else none

/-- Inflates a stream of a single block of literals in the fixed code, and checks its sum. -/
def inflateLiterals? (stream : Bytes) : Option Bytes :=
  match (stream.drop 2).flatMap fun b => bitsLsb 8 b.toNat with
  | true :: true :: false :: bits =>
    (fixedLiterals? bits.length bits).filter fun data =>
      stream.take 2 = streamHeader ∧ stream.drop (stream.length - 4) = bigEndian32 (adler32 data)
  | _ => none

/-- A byte is compressed, written in base64 on lines, read and inflated again. -/
theorem decode?_encode_byte :
    ((decode? .base64 (encode [7] ⟨.base64, true, true⟩ "\n")).bind inflateLiterals?) = some [7] :=
  decode?_encode inflateLiterals? [7] ⟨.base64, true, true⟩ "\n" (by decide)
    fun _ => by decide +kernel

end Builtins
