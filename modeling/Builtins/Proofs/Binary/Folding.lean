import Builtins.Proofs.Binary.Chunks
import Builtins.Proofs.Text.Blank

/-!
# Base64 on lines

Base64 on several lines is base64 on one line, cut into pieces of equal length with the end of a line
between them. What a line ends with makes no difference, not even if it is white space or looks like
base64.

* `head?_intercalate`, `getLast?_intercalate` — joined pieces begin and end as they do side by side;
* `Folds` — how a text is laid out on lines;
* `folds_base64`, `folds_encode` — the layout of base64, and of encoded content.
-/

namespace Builtins

universe u

variable {α : Type u} {sep : List α} {pieces : List (List α)}

/-! ### The ends of joined pieces -/

/-- Joined pieces begin as they do without a separator. -/
theorem head?_intercalate (h : [] ∉ pieces) :
    (sep.intercalate pieces).head? = pieces.flatten.head? := by
  cases pieces with
  | nil => rfl
  | cons piece rest =>
    cases rest with
    | nil => rw [List.intercalate_singleton, List.flatten_singleton]
    | cons next rest =>
      cases piece with
      | nil => exact absurd List.mem_cons_self h
      | cons a piece => rw [List.intercalate_cons_cons, List.flatten_cons]; rfl

/-- Joined pieces end as they do without a separator. -/
theorem getLast?_intercalate (h : [] ∉ pieces) :
    (sep.intercalate pieces).getLast? = pieces.flatten.getLast? := by
  induction pieces with
  | nil => rfl
  | cons piece rest ih =>
    have hrest : [] ∉ rest := fun hmem => h (List.mem_cons_of_mem piece hmem)
    cases rest with
    | nil => rw [List.intercalate_singleton, List.flatten_singleton]
    | cons next rest =>
      have hnext : next ≠ [] := fun he => hrest (he ▸ List.mem_cons_self)
      have hne : (next :: rest).flatten ≠ [] := by simp [hnext]
      -- The last of the other pieces decides.
      obtain ⟨a, hlast⟩ : ∃ a, (next :: rest).flatten.getLast? = some a :=
        ⟨_, List.getLast?_eq_some_getLast hne⟩
      rw [List.intercalate_cons_cons, List.getLast?_append, ih hrest, hlast, Option.some_or,
        List.flatten_cons, List.getLast?_append, hlast, Option.some_or]

/-! ### The layout -/

/-- How the text `plain` is laid out on `lines` as `split`. -/
structure Folds (eol plain split : String) (lines : List String) : Prop where
  /-- The characters are cut into the lines. -/
  characters : Cut lineLength plain.toList (lines.map String.toList)
  /-- They can be cut in no other way. -/
  only : ∀ pieces, Cut lineLength plain.toList pieces → pieces = lines.map String.toList
  /-- The bytes are cut where the characters are, so every piece of them is UTF-8 and none is lost. -/
  bytes : (chunks lineLength (utf8 plain)).map utf8Text? = lines.map some
  /-- Nothing but the ends of lines stands between the lines. -/
  joined : split = eol.intercalate lines
  /-- There is nothing to trim, whatever a line ends with. -/
  untrimmed : trimBlank (eol.intercalate lines) = eol.intercalate lines
  empty : split = "" ↔ plain = ""

/-- Whatever a line ends with, the lines begin and end with base64. -/
theorem trimBlank_base64Lines (eol : String) (bytes : Bytes) :
    trimBlank (eol.intercalate (base64Lines bytes)) = eol.intercalate (base64Lines bytes) := by
  rw [trimBlank, ← String.toList_inj, String.toList_ofList, toList_intercalate_base64Lines]
  apply trimBlankList_of_ends
  · intro c hc
    rw [head?_intercalate nil_not_mem_chunks, flatten_chunks] at hc
    exact isBlank_of_mem_base64 (List.mem_of_mem_head? hc)
  · intro c hc
    rw [getLast?_intercalate nil_not_mem_chunks, flatten_chunks] at hc
    exact isBlank_of_mem_base64 (List.mem_of_getLast? hc)

theorem intercalate_base64Lines_eq_empty {eol : String} {bytes : Bytes} :
    eol.intercalate (base64Lines bytes) = "" ↔ String.ofList (base64 bytes) = "" := by
  rw [← String.toList_inj, ← String.toList_inj, toList_intercalate_base64Lines]
  show _ = [] ↔ _ = []
  rw [← List.head?_eq_none_iff, head?_intercalate nil_not_mem_chunks, flatten_chunks,
    List.head?_eq_none_iff, String.toList_ofList]

/-- Base64 is laid out on its lines. -/
theorem folds_base64 (eol : String) (bytes : Bytes) :
    Folds eol (String.ofList (base64 bytes)) (splitBase64 eol (base64 bytes)) (base64Lines bytes) := by
  have hjoined : splitBase64 eol (base64 bytes) = eol.intercalate (base64Lines bytes) :=
    (splitBase64_eq eol bytes).trans (trimBlank_base64Lines eol bytes)
  refine ⟨?_, ?_, ?_, hjoined, trimBlank_base64Lines eol bytes, ?_⟩
  · rw [toList_base64Lines, String.toList_ofList]
    exact cut_chunks (by decide) _
  · intro pieces hpieces
    rw [String.toList_ofList] at hpieces
    rw [toList_base64Lines]
    exact hpieces.eq_chunks
  · exact utf8Text?_chunks lineLength fun _ => ascii_of_mem_base64
  · rw [hjoined]
    exact intercalate_base64Lines_eq_empty

/-- Trimming loses nothing of base64 on one line. -/
theorem trimBlank_base64 (bytes : Bytes) :
    trimBlank (String.ofList (base64 bytes)) = String.ofList (base64 bytes) := by
  rw [trimBlank, String.toList_ofList, trimBlankList_of_ends]
  · intro c hc
    exact isBlank_of_mem_base64 (List.mem_of_mem_head? hc)
  · intro c hc
    exact isBlank_of_mem_base64 (List.mem_of_getLast? hc)

/-- Encoded content on several lines is that on one line, cut into lines. -/
theorem folds_encode (eol : String) (data : Bytes) (compressed : Bool) :
    ∃ lines, Folds eol (encode data ⟨.base64, false, compressed⟩ eol)
      (encode data ⟨.base64, true, compressed⟩ eol) lines := by
  generalize hbytes : (if compressed then deflate data else data) = bytes
  refine ⟨base64Lines bytes, ?_⟩
  have hplain : encode data ⟨.base64, false, compressed⟩ eol = String.ofList (base64 bytes) := by
    rw [← trimBlank_base64, ← hbytes]
    rfl
  have hsplit : encode data ⟨.base64, true, compressed⟩ eol = splitBase64 eol (base64 bytes) := by
    rw [← hbytes]
    rfl
  rw [hplain, hsplit]
  exact folds_base64 eol bytes

/-- One byte more than a line holds goes to a line of its own, and a blank before it is not lost. -/
example : encode (List.replicate 61 255) ⟨.base64, true, false⟩ " " =
    encode (List.replicate 60 255) ⟨.base64, false, false⟩ " " ++ " /w==" := by
  decide +kernel

end Builtins
