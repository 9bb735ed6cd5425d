import Builtins.Text.Blank
import Mathlib.Data.List.TakeWhile

/-!
# White space and trimming

What trimming takes away, and what it leaves.

* `Blank` — a text of white space only; `trimBlank_isEmpty` — of which trimming leaves nothing;
* `filter_trimBlankList` — trimming loses white space only;
* `trimBlankList_of_ends` — nothing is lost of a text that has none at its ends;
* `trimBlankList_append` — white space in front of a text without any is all that is lost;
* `trimBlankList_surround` — white space around a text makes no difference.
-/

namespace Builtins

/-- Whether a text is white space. -/
def Blank (s : String) : Prop := ∀ c ∈ s.toList, isBlank c = true

instance (s : String) : Decidable (Blank s) :=
  List.decidableBAll (fun c => isBlank c = true) s.toList

theorem blank_empty : Blank "" := by simp [Blank]

theorem blank_append {s t : String} : Blank (s ++ t) ↔ Blank s ∧ Blank t := by
  simp only [Blank, String.toList_append, List.mem_append]
  constructor
  · intro h
    exact ⟨fun c hc => h c (.inl hc), fun c hc => h c (.inr hc)⟩
  · intro h c hc
    rcases hc with hc | hc
    · exact h.1 c hc
    · exact h.2 c hc

/-- Trimming leaves nothing of white space, and something of all else. -/
theorem trimBlankList_eq_nil {cs : List Char} :
    trimBlankList cs = [] ↔ ∀ c ∈ cs, isBlank c = true := by
  rw [trimBlankList, List.reverse_eq_nil_iff, List.dropWhile_eq_nil_iff]
  constructor
  · intro h
    by_contra hne
    -- Otherwise the first character that is kept is no white space.
    have hdrop : cs.dropWhile isBlank ≠ [] := fun he => hne (List.dropWhile_eq_nil_iff.1 he)
    have hhead := List.head_dropWhile_not isBlank hdrop
    rw [h _ (List.mem_reverse.2 (List.head_mem hdrop))] at hhead
    cases hhead
  · intro h c hc
    exact h c ((List.dropWhile_sublist _).mem (List.mem_reverse.1 hc))

theorem trimBlank_isEmpty {s : String} : (trimBlank s).isEmpty = true ↔ Blank s := by
  rw [String.isEmpty_iff, trimBlank, ← String.toList_inj, String.toList_ofList]
  exact trimBlankList_eq_nil

theorem filter_dropWhile (cs : List Char) :
    (cs.dropWhile isBlank).filter (fun c => !isBlank c) = cs.filter fun c => !isBlank c := by
  induction cs with
  | nil => rfl
  | cons c cs ih =>
    by_cases hc : isBlank c = true
    · rw [List.dropWhile_cons_of_pos hc, List.filter_cons_of_neg (by simp [hc]), ih]
    · rw [List.dropWhile_cons_of_neg hc]

/-- Trimming loses white space only. -/
theorem filter_trimBlankList (cs : List Char) :
    (trimBlankList cs).filter (fun c => !isBlank c) = cs.filter fun c => !isBlank c := by
  rw [trimBlankList, List.filter_reverse, filter_dropWhile, List.filter_reverse, List.reverse_reverse,
    filter_dropWhile]

/-- Nothing is lost in front of a text that begins with something else. -/
theorem dropWhile_of_head {cs : List Char} (h : ∀ c ∈ cs.head?, isBlank c = false) :
    cs.dropWhile isBlank = cs := by
  cases cs with
  | nil => rfl
  | cons c cs => rw [List.dropWhile_cons_of_neg (by simp [h c rfl])]

/-- Nothing is lost of a text that neither begins nor ends with white space. -/
theorem trimBlankList_of_ends {cs : List Char} (hhead : ∀ c ∈ cs.head?, isBlank c = false)
    (hlast : ∀ c ∈ cs.getLast?, isBlank c = false) : trimBlankList cs = cs := by
  rw [trimBlankList, dropWhile_of_head hhead, dropWhile_of_head, List.reverse_reverse]
  rwa [List.head?_reverse]

/-- Nothing is lost of a text without white space. -/
theorem dropWhile_of_solid {cs : List Char} (h : ∀ c ∈ cs, isBlank c = false) :
    cs.dropWhile isBlank = cs :=
  dropWhile_of_head fun c hc => h c (List.mem_of_mem_head? hc)

/-- White space in front of a text without any is all that is lost. -/
theorem trimBlankList_append {blank cs : List Char} (hblank : ∀ c ∈ blank, isBlank c = true)
    (hcs : ∀ c ∈ cs, isBlank c = false) : trimBlankList (blank ++ cs) = cs := by
  rw [trimBlankList, List.dropWhile_append_of_pos hblank, dropWhile_of_solid hcs,
    dropWhile_of_solid fun c hc => hcs c (List.mem_reverse.1 hc), List.reverse_reverse]

/-- White space around a text makes no difference. -/
theorem trimBlankList_surround {before after : List Char} (cs : List Char)
    (hbefore : ∀ c ∈ before, isBlank c = true) (hafter : ∀ c ∈ after, isBlank c = true) :
    trimBlankList (before ++ cs ++ after) = trimBlankList cs := by
  rw [trimBlankList, List.append_assoc, List.dropWhile_append_of_pos hbefore, List.dropWhile_append]
  split
  · next hempty =>
    have hcs : cs.dropWhile isBlank = [] := List.isEmpty_iff.1 hempty
    have hnil : after.dropWhile isBlank = [] := List.dropWhile_eq_nil_iff.2 hafter
    rw [trimBlankList, hcs, hnil]
  · have hreverse : ∀ c ∈ after.reverse, isBlank c = true := fun c hc =>
      hafter c (List.mem_reverse.1 hc)
    rw [trimBlankList, List.reverse_append, List.dropWhile_append_of_pos hreverse]

end Builtins
