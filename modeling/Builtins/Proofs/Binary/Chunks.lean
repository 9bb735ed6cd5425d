import Builtins.Binary.Encode
import Builtins.Proofs.Text.Utf8

/-!
# Cutting into pieces

A list is cut from the left into pieces of equal length, of which only the last may be shorter. In
ASCII it makes no difference whether the characters of a text are cut or its bytes.

* `Cut` — the pieces of a list; `cut_chunks`, `Cut.eq_chunks` — there is one way to cut it;
* `chunks_map` — what is done to every element can be done before or after the cut;
* `utf8Text?_chunks` — so every piece of the bytes of an ASCII text is UTF-8, and none is lost
  (`filterMap_chunks`);
* `of_mem_base64` — what is true of the alphabet and of the padding is true in base64;
* `base64Lines` — the pieces of its characters, `splitBase64_eq` — on which it is written.
-/

namespace Builtins

universe u v

variable {α : Type u} {β : Type v} {n : Nat} {l : List α} {pieces : List (List α)}

/-! ### Pieces of a list -/

/-- Consecutive pieces of a list: all but the last have the given length, and the last has an
element and at most that length. -/
structure Cut (n : Nat) (l : List α) (pieces : List (List α)) : Prop where
  flatten : pieces.flatten = l
  full : ∀ piece ∈ pieces.dropLast, piece.length = n
  last : ∀ piece ∈ pieces.getLast?, 1 ≤ piece.length ∧ piece.length ≤ n

namespace Cut

theorem nil : Cut n ([] : List α) [] := ⟨rfl, by simp, by simp⟩

/-- A list that is not longer than a piece is the last one. -/
theorem single (hpos : 0 < l.length) (hle : l.length ≤ n) : Cut n l [l] := by
  refine ⟨List.flatten_singleton, by simp, ?_⟩
  intro piece hpiece
  obtain rfl : l = piece := by simpa using hpiece
  exact ⟨hpos, hle⟩

/-- A full piece in front of others. -/
theorem cons {piece : List α} (hpiece : piece.length = n) (h : Cut n l pieces)
    (hne : pieces ≠ []) : Cut n (piece ++ l) (piece :: pieces) := by
  refine ⟨by rw [List.flatten_cons, h.flatten], ?_, ?_⟩
  · intro p hp
    rw [List.dropLast_cons_of_ne_nil hne] at hp
    rcases List.mem_cons.1 hp with rfl | hp
    · exact hpiece
    · exact h.full p hp
  · intro p hp
    apply h.last p
    rwa [List.getLast?_cons_of_ne_nil hne] at hp

/-- The first piece is full if there are others, and these are the pieces of what follows it. -/
theorem tail {piece : List α} (h : Cut n l (piece :: pieces)) (hne : pieces ≠ []) :
    piece.length = n ∧ Cut n pieces.flatten pieces := by
  have hfull := h.full
  rw [List.dropLast_cons_of_ne_nil hne] at hfull
  refine ⟨hfull piece List.mem_cons_self, rfl, ?_, ?_⟩
  · intro p hp
    exact hfull p (List.mem_cons_of_mem piece hp)
  · intro p hp
    apply h.last p
    rwa [List.getLast?_cons_of_ne_nil hne]

/-- Pieces have room for an element. -/
theorem pos (h : Cut n l pieces) (hne : pieces ≠ []) : 0 < n := by
  obtain ⟨hpos, hle⟩ := h.last (pieces.getLast hne) (List.getLast?_eq_some_getLast hne)
  omega

end Cut

/-- Only a list without elements has no pieces. -/
theorem chunks_eq_nil : chunks n l = [] ↔ l = [] := by
  constructor
  · intro h
    rw [← flatten_chunks n l, h]
    rfl
  · intro h
    rw [h, chunks]

theorem nil_not_mem_chunks : [] ∉ chunks n l := by
  fun_induction chunks n l with
  | case1 => simp
  | case2 a rest ih => simp [ih]

/-- A list is cut into its pieces. -/
theorem cut_chunks (hn : 0 < n) (l : List α) : Cut n l (chunks n l) := by
  fun_induction chunks n l with
  | case1 => exact .nil
  | case2 a rest ih =>
    by_cases hlong : n - 1 < rest.length
    · have hfirst : (a :: rest.take (n - 1)).length = n := by
        rw [List.length_cons, List.length_take]
        omega
      have hne : chunks n (rest.drop (n - 1)) ≠ [] := by
        rw [Ne, chunks_eq_nil, List.drop_eq_nil_iff]
        omega
      have hcut := Cut.cons hfirst ih hne
      rwa [List.cons_append, List.take_append_drop] at hcut
    · have hshort : rest.length ≤ n - 1 := Nat.le_of_not_lt hlong
      rw [List.take_of_length_le hshort, List.drop_eq_nil_of_le hshort, chunks]
      apply Cut.single
      · exact Nat.succ_pos _
      · rw [List.length_cons]
        omega

/-- A list is cut in no other way. -/
theorem Cut.eq_chunks (h : Cut n l pieces) : pieces = chunks n l := by
  induction pieces generalizing l with
  | nil => rw [← h.flatten, List.flatten_nil, chunks]
  | cons piece rest ih =>
    by_cases hrest : rest = []
    · subst hrest
      obtain ⟨hpos, hle⟩ := h.last piece rfl
      obtain ⟨a, tail, rfl⟩ := List.exists_cons_of_length_pos hpos
      have htail : tail.length ≤ n - 1 := Nat.le_sub_one_of_lt hle
      rw [← h.flatten, List.flatten_singleton, chunks, List.take_of_length_le htail,
        List.drop_eq_nil_of_le htail, chunks]
    · obtain ⟨hpiece, hcut⟩ := h.tail hrest
      obtain ⟨a, tail, rfl⟩ := List.exists_cons_of_length_pos (hpiece ▸ hcut.pos hrest)
      have htail : n - 1 = tail.length := by
        rw [← hpiece, List.length_cons, Nat.add_sub_cancel]
      rw [← h.flatten, List.flatten_cons, List.cons_append, chunks, htail, List.take_left,
        List.drop_left, ← ih hcut]

/-- What is done to every element can be done before or after the cut. -/
theorem chunks_map (n : Nat) (f : α → β) (l : List α) :
    chunks n (l.map f) = (chunks n l).map (List.map f) := by
  fun_induction chunks n l with
  | case1 => rw [List.map_nil, List.map_nil, chunks]
  | case2 a rest ih =>
    rw [List.map_cons, chunks, List.map_cons, List.map_cons, List.map_take, ← List.map_drop, ih]

theorem mem_of_mem_chunks {piece : List α} {a : α} (h : piece ∈ chunks n l) (ha : a ∈ piece) :
    a ∈ l := by
  rw [← flatten_chunks n l]
  exact List.mem_flatten_of_mem h ha

/-! ### Pieces of a text -/

/-- The bytes of ASCII characters are their numbers. -/
theorem bytesOf_of_ascii {cs : List Char} (h : ∀ c ∈ cs, c.toNat < 128) :
    bytesOf cs = cs.map fun c => UInt8.ofNat c.toNat := by
  induction cs with
  | nil => rfl
  | cons c cs ih =>
    rw [bytesOf_ascii (h c List.mem_cons_self), ih fun d hd => h d (List.mem_cons_of_mem c hd),
      List.map_cons]

/-- The pieces of the bytes are the bytes of the pieces. -/
theorem chunks_bytesOf (n : Nat) {cs : List Char} (h : ∀ c ∈ cs, c.toNat < 128) :
    chunks n (bytesOf cs) = (chunks n cs).map bytesOf := by
  rw [bytesOf_of_ascii h, chunks_map]
  apply List.map_congr_left
  intro piece hpiece
  exact (bytesOf_of_ascii fun c hc => h c (mem_of_mem_chunks hpiece hc)).symm

/-- Every piece of the bytes is UTF-8: that of the piece of the text. -/
theorem utf8Text?_chunks (n : Nat) {cs : List Char} (h : ∀ c ∈ cs, c.toNat < 128) :
    (chunks n (utf8 (String.ofList cs))).map utf8Text? =
      ((chunks n cs).map String.ofList).map some := by
  have hread : utf8Text? ∘ bytesOf = some ∘ String.ofList := by
    funext piece
    show utf8Text? (bytesOf piece) = some (String.ofList piece)
    rw [← utf8_ofList, utf8Text?_utf8]
  rw [utf8_ofList, chunks_bytesOf n h, List.map_map, hread, List.map_map]

/-- So none of the pieces is lost. -/
theorem filterMap_chunks (n : Nat) {cs : List Char} (h : ∀ c ∈ cs, c.toNat < 128) :
    (chunks n (utf8 (String.ofList cs))).filterMap utf8Text? = (chunks n cs).map String.ofList := by
  have hread := congrArg (List.filterMap id) (utf8Text?_chunks n h)
  rwa [List.filterMap_map, List.filterMap_map, Function.id_comp, Function.id_comp,
    List.filterMap_some] at hread

/-! ### Base64 -/

/-- What is true of the alphabet and of the padding is true of every character of base64. -/
theorem of_mem_base64 {P : Char → Prop} (hchar : ∀ m < 64, P (base64Char m)) (hpad : P '=')
    {bytes : Bytes} {c : Char} (h : c ∈ base64 bytes) : P c := by
  have hdigits : ∀ size m, ∀ c ∈ base64Digits size m, P c := by
    intro size
    induction size with
    | zero =>
      intro m c hc
      cases hc
    | succ size ih =>
      intro m c hc
      rw [base64Digits] at hc
      rcases List.mem_append.1 hc with hfront | hlast
      · exact ih (m / 64) c hfront
      · rw [List.mem_singleton.1 hlast]
        exact hchar (m % 64) (Nat.mod_lt m (by decide))
  fun_induction base64 bytes with
  | case1 a b d rest ih =>
    rcases List.mem_append.1 h with hfront | hrest
    · exact hdigits _ _ c hfront
    · exact ih hrest
  | case2 a b =>
    rcases List.mem_append.1 h with hfront | hrest
    · exact hdigits _ _ c hfront
    · rwa [List.mem_singleton.1 hrest]
  | case3 a =>
    rcases List.mem_append.1 h with hfront | hrest
    · exact hdigits _ _ c hfront
    · rwa [(by simpa using hrest : c = '=')]
  | case4 => cases h

/-- There is no white space in base64. -/
theorem isBlank_of_mem_base64 {bytes : Bytes} {c : Char} (h : c ∈ base64 bytes) :
    isBlank c = false :=
  of_mem_base64 (P := fun c => isBlank c = false) (by decide +kernel) (by decide) h

theorem ascii_of_mem_base64 {bytes : Bytes} {c : Char} (h : c ∈ base64 bytes) : c.toNat < 128 :=
  of_mem_base64 (P := fun c => c.toNat < 128) (by decide +kernel) (by decide) h

/-- The lines of base64: the pieces of its characters. -/
def base64Lines (bytes : Bytes) : List String := (chunks lineLength (base64 bytes)).map String.ofList

theorem toList_base64Lines (bytes : Bytes) :
    (base64Lines bytes).map String.toList = chunks lineLength (base64 bytes) := by
  rw [base64Lines, List.map_map]
  simp [Function.comp_def]

theorem toList_intercalate_base64Lines (eol : String) (bytes : Bytes) :
    (eol.intercalate (base64Lines bytes)).toList =
      eol.toList.intercalate (chunks lineLength (base64 bytes)) := by
  rw [String.toList_intercalate, toList_base64Lines]

/-- Base64 on lines is written on these lines. -/
theorem splitBase64_eq (eol : String) (bytes : Bytes) :
    splitBase64 eol (base64 bytes) = trimBlank (eol.intercalate (base64Lines bytes)) := by
  rw [splitBase64, base64Lines, filterMap_chunks lineLength fun _ => ascii_of_mem_base64]

end Builtins
