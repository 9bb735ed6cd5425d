import Builtins.Encoding.Utf16

/-!
# Surrogates

Units from two ranges stand for a character only in pairs. A list of units with such a unit out of a
pair stands for no text, nor does an odd number of bytes.

* `IsHigh`, `IsLow` — the ranges, `HasUnpaired` — a unit of them that belongs to no pair;
* `paired_of_chars` — in what stands for characters, these units are in pairs;
* `utf16Text?_odd`, `utf16Text?_unpaired` — what stands for no text.
-/

namespace Builtins

/-- The first unit of a pair. -/
def IsHigh (u : Nat) : Prop := 0xD800 ≤ u ∧ u < 0xDC00

/-- The second unit of a pair. -/
def IsLow (u : Nat) : Prop := 0xDC00 ≤ u ∧ u < 0xE000

/-- Some first unit is not followed by a second one, or some second unit does not follow a first
one. -/
inductive HasUnpaired : List Nat → Prop where
  | high {u : Nat} (before after : List Nat) (hu : IsHigh u) (hnext : ∀ v ∈ after.head?, ¬ IsLow v) :
    HasUnpaired (before ++ u :: after)
  | low {u : Nat} (before after : List Nat) (hu : IsLow u)
    (hprevious : ∀ v ∈ before.getLast?, ¬ IsHigh v) : HasUnpaired (before ++ u :: after)

/-- A unit between others is no surrogate, or the one beside it makes it a pair. -/
structure Paired (before : List Nat) (u : Nat) (after : List Nat) : Prop where
  high : IsHigh u → ∃ v, after.head? = some v ∧ IsLow v
  low : IsLow u → ∃ v, before.getLast? = some v ∧ IsHigh v

theorem Paired.cons {before after : List Nat} {u : Nat} (x : Nat) (h : Paired before u after) :
    Paired (x :: before) u after := by
  refine ⟨h.high, fun hu => ?_⟩
  obtain ⟨v, hv, hhigh⟩ := h.low hu
  refine ⟨v, ?_, hhigh⟩
  rw [List.getLast?_cons, hv]
  rfl

/-- In what stands for characters, each surrogate is in a pair. -/
theorem paired_of_chars {units : List Nat} {cs : List Char} (h : charsOfUnits16? units = some cs)
    {before after : List Nat} {u : Nat} (hunits : units = before ++ u :: after) :
    Paired before u after := by
  fun_induction charsOfUnits16? units generalizing cs before with
  | case1 => simp at hunits
  | case2 unit rest hplain ih =>
    obtain ⟨cs', hrest, -⟩ := Option.map_eq_some_iff.1 h
    rw [Bool.or_eq_true, decide_eq_true_eq, decide_eq_true_eq] at hplain
    cases before with
    | nil =>
      cases hunits
      refine ⟨fun hu => ?_, fun hu => ?_⟩
      · have := hu.1
        have := hu.2
        omega
      · have := hu.1
        have := hu.2
        omega
    | cons x before =>
      cases hunits
      exact (ih hrest rfl).cons _
  | case3 unit hplain hfirst low rest hsecond ih =>
    obtain ⟨cs', hrest, -⟩ := Option.map_eq_some_iff.1 h
    rw [Bool.or_eq_true, decide_eq_true_eq, decide_eq_true_eq] at hplain
    rw [Bool.and_eq_true, decide_eq_true_eq, decide_eq_true_eq] at hsecond
    have hunit : IsHigh unit := ⟨by omega, hfirst⟩
    -- The unit may be the first or the second of this pair, or come after it.
    match before with
    | [] =>
      cases hunits
      refine ⟨fun _ => ⟨low, rfl, hsecond⟩, fun hu => ?_⟩
      have := hu.1
      omega
    | [_] =>
      cases hunits
      refine ⟨fun hu => ?_, fun _ => ⟨unit, rfl, hunit⟩⟩
      have := hu.2
      omega
    | x :: y :: before =>
      cases hunits
      exact ((ih hrest rfl).cons low).cons unit
  | _ => cases h

/-- A surrogate that belongs to no pair stands for no character. -/
theorem charsOfUnits16?_unpaired {units : List Nat} (h : HasUnpaired units) :
    charsOfUnits16? units = none := by
  refine Option.eq_none_iff_forall_ne_some.2 fun cs hcs => ?_
  cases h with
  | high before after hu hnext =>
    obtain ⟨v, hv, hlow⟩ := (paired_of_chars hcs rfl).high hu
    exact hnext v hv hlow
  | low before after hu hprevious =>
    obtain ⟨v, hv, hhigh⟩ := (paired_of_chars hcs rfl).low hu
    exact hprevious v hv hhigh

theorem units16?_odd (bigEndian : Bool) {bytes : Bytes} (h : bytes.length % 2 = 1) :
    units16? bigEndian bytes = none := by
  fun_induction units16? bigEndian bytes with
  | case1 => simp at h
  | case2 => rfl
  | case3 a b rest unit ih =>
    rw [List.length_cons, List.length_cons] at h
    rw [ih (by omega), Option.map_none]

/-- An odd number of bytes stands for no text. -/
theorem utf16Text?_odd (bigEndian : Bool) {bytes : Bytes} (h : bytes.length % 2 = 1) :
    utf16Text? bigEndian bytes = none := by
  rw [utf16Text?, units16?_odd bigEndian h, Option.bind_none, Option.map_none]

/-- Units with a surrogate that belongs to no pair stand for no text. -/
theorem utf16Text?_unpaired (bigEndian : Bool) {units : List Nat} (hlt : ∀ u ∈ units, u < 65536)
    (h : HasUnpaired units) : utf16Text? bigEndian (units.flatMap (bytesOfUnit bigEndian)) = none := by
  rw [utf16Text?, units16?_flatMap bigEndian hlt, Option.bind_some, charsOfUnits16?_unpaired h,
    Option.map_none]

end Builtins
