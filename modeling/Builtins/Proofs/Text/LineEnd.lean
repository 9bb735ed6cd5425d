import Mathlib.Data.List.Basic

/-!
# Marks that end a line

Two marks end a line together, in this order, and each of them does so alone. All of this is the same as one
mark. The rule is stated for any kind of marks, as it holds for characters and for bytes, and for what a
scanner has read with the latest first.

* `LineEnd` — the two marks, and the one that stands for them;
* `LineEnd.squeeze` — a list with every line end as that one; `LineEnd.squeeze_reverse` — from either end;
* `prefix_squeeze`, `drop_squeeze`, `dropWhile_squeeze`, `all_squeeze` — what is seen past it;
* `LineEnd.foldl_squeeze` — a scanner that comes to the same point with each line end;
* `LineEnd.map_squeeze` — marks that are replaced by others.
-/

namespace Builtins

/-- Two marks that end a line, together or alone, and the mark that stands for each of these. -/
structure LineEnd (α : Type) where
  first : α
  second : α
  line : α
  distinct : first ≠ second
  among : line = first ∨ line = second

namespace LineEnd

variable {α β : Type} (e : LineEnd α)

/-- No part of a line end. -/
def Free (x : α) : Prop := x ≠ e.first ∧ x ≠ e.second

/-- The marks in the order in which they are met from the other end. -/
def flip : LineEnd α := ⟨e.second, e.first, e.line, e.distinct.symm, e.among.symm⟩

theorem free_flip {e : LineEnd α} {x : α} : e.flip.Free x ↔ e.Free x := And.comm

theorem not_free_line {e : LineEnd α} : ¬ e.Free e.line := fun h => e.among.elim h.1 h.2

variable [DecidableEq α] [DecidableEq β]

instance (x : α) : Decidable (e.Free x) := inferInstanceAs (Decidable (x ≠ e.first ∧ x ≠ e.second))

theorem free_of_all {e : LineEnd α} {xs : List α} (h : (xs.all fun x => decide (e.Free x)) = true) :
    ∀ x ∈ xs, e.Free x := fun x hx => of_decide_eq_true (List.all_eq_true.1 h x hx)

/-- What stands for a mark that ends a line alone. -/
def one (x : α) : α := if x = e.first ∨ x = e.second then e.line else x

/-- A list with every line end as one mark. -/
def squeeze : List α → List α
  | [] => []
  | x :: rest =>
    if x = e.first ∧ rest.head? = some e.second then squeeze rest else e.one x :: squeeze rest

variable {e} {x : α} {xs ys rest : List α}

theorem one_of_free (h : e.Free x) : e.one x = x := if_neg (not_or.2 h)

theorem one_first : e.one e.first = e.line := if_pos (.inl rfl)

theorem one_second : e.one e.second = e.line := if_pos (.inr rfl)

theorem one_flip (x : α) : e.flip.one x = e.one x := if_congr or_comm rfl rfl

/-- What stands for a mark is no part of a line end exactly if the mark is none. -/
theorem one_eq_iff {a : α} (ha : e.Free a) : e.one x = a ↔ x = a := by
  rw [one]
  split
  · rename_i hmark
    constructor
    · intro he
      exact absurd (he ▸ ha) not_free_line
    · rintro rfl
      exact absurd hmark (not_or.2 ha)
  · rfl

theorem squeeze_pair : e.squeeze (e.first :: e.second :: rest) = e.line :: e.squeeze rest := by
  have hsecond : ¬ (e.second = e.first ∧ rest.head? = some e.second) := fun h => e.distinct h.1.symm
  rw [squeeze, if_pos ⟨rfl, rfl⟩, squeeze, if_neg hsecond, one_second]

theorem squeeze_cons (h : x = e.first → rest.head? ≠ some e.second) :
    e.squeeze (x :: rest) = e.one x :: e.squeeze rest := by
  rw [squeeze, if_neg fun hpair => h hpair.1 hpair.2]

theorem squeeze_cons_free (h : e.Free x) : e.squeeze (x :: rest) = x :: e.squeeze rest := by
  rw [squeeze_cons fun he => absurd he h.1, one_of_free h]

/-- A list is read line end by line end: a pair, or one mark that does not begin a pair. -/
theorem squeeze_induction {motive : List α → Prop} (nil : motive [])
    (pair : ∀ rest, motive rest → motive (e.first :: e.second :: rest))
    (single : ∀ x rest, (x = e.first → rest.head? ≠ some e.second) → motive rest → motive (x :: rest)) :
    ∀ xs, motive xs
  | [] => nil
  | x :: rest => by
    by_cases hpair : x = e.first ∧ rest.head? = some e.second
    · obtain ⟨rfl, hrest⟩ := hpair
      match rest, hrest with
      | _ :: rest, rfl => exact pair rest (squeeze_induction nil pair single rest)
    · exact single x rest (fun hx hrest => hpair ⟨hx, hrest⟩) (squeeze_induction nil pair single rest)

theorem head?_squeeze (xs : List α) : (e.squeeze xs).head? = xs.head?.map e.one := by
  induction xs using squeeze_induction (e := e) with
  | nil => rfl
  | pair rest ih => rw [squeeze_pair, List.head?_cons, List.head?_cons, Option.map_some, one_first]
  | single x rest h ih => rw [squeeze_cons h, List.head?_cons, List.head?_cons, Option.map_some]

theorem head?_squeeze_eq {a : α} (ha : e.Free a) :
    (e.squeeze xs).head? = some a ↔ xs.head? = some a := by
  rw [head?_squeeze]
  cases xs.head? with
  | none => rfl
  | some x => rw [Option.map_some, Option.some.injEq, Option.some.injEq, one_eq_iff ha]

theorem isEmpty_squeeze (xs : List α) : (e.squeeze xs).isEmpty = xs.isEmpty := by
  have hhead := head?_squeeze (e := e) xs
  cases xs with
  | nil => rfl
  | cons x rest =>
    cases hxs : e.squeeze (x :: rest) with
    | nil =>
      rw [hxs] at hhead
      cases hhead
    | cons y ys => rfl

theorem length_squeeze_le (xs : List α) : (e.squeeze xs).length ≤ xs.length := by
  induction xs using squeeze_induction (e := e) with
  | nil => exact Nat.le_refl _
  | pair rest ih =>
    rw [squeeze_pair, List.length_cons, List.length_cons, List.length_cons]
    omega
  | single x rest hx ih =>
    rw [squeeze_cons hx, List.length_cons, List.length_cons]
    omega

theorem squeeze_append_free (h : ∀ x ∈ xs, e.Free x) (ys : List α) :
    e.squeeze (xs ++ ys) = xs ++ e.squeeze ys := by
  induction xs with
  | nil => rfl
  | cons x xs ih =>
    obtain ⟨hx, hxs⟩ := List.forall_mem_cons.1 h
    rw [List.cons_append, squeeze_cons_free hx, ih hxs, List.cons_append]

theorem squeeze_of_free (h : ∀ x ∈ xs, e.Free x) : e.squeeze xs = xs := by
  have happend := squeeze_append_free h []
  rwa [List.append_nil, squeeze, List.append_nil] at happend

/-- A list that has no part of a line end after all has none before. -/
theorem free_of_squeeze (h : ∀ x ∈ e.squeeze xs, e.Free x) : ∀ x ∈ xs, e.Free x := by
  induction xs using squeeze_induction (e := e) with
  | nil => simp
  | pair rest ih =>
    rw [squeeze_pair] at h
    exact absurd (h _ List.mem_cons_self) not_free_line
  | single x rest hx ih =>
    rw [squeeze_cons hx] at h
    obtain ⟨hone, hrest⟩ := List.forall_mem_cons.1 h
    have hsame : x = e.one x := (one_eq_iff hone).1 rfl
    exact List.forall_mem_cons.2 ⟨hsame.symm ▸ hone, ih hrest⟩

/-- A list without a part of a line end is seen past all line ends. -/
theorem squeeze_eq_iff (h : ∀ x ∈ ys, e.Free x) : e.squeeze xs = ys ↔ xs = ys := by
  constructor
  · rintro rfl
    exact (squeeze_of_free (free_of_squeeze h)).symm
  · rintro rfl
    exact squeeze_of_free h

/-! ### Parts of a list -/

/-- What a list starts with is seen past its line ends. -/
theorem prefix_squeeze {start : List α} (h : ∀ x ∈ start, e.Free x) :
    start <+: e.squeeze xs ↔ start <+: xs := by
  induction xs using squeeze_induction (e := e) generalizing start with
  | nil => rfl
  | pair rest ih =>
    cases start with
    | nil => simp
    | cons a start =>
      obtain ⟨ha, -⟩ := List.forall_mem_cons.1 h
      rw [squeeze_pair, List.cons_prefix_cons, List.cons_prefix_cons]
      constructor
      · rintro ⟨rfl, -⟩
        exact absurd ha not_free_line
      · rintro ⟨rfl, -⟩
        exact absurd rfl ha.1
  | single x rest hx ih =>
    cases start with
    | nil => simp
    | cons a start =>
      obtain ⟨ha, hstart⟩ := List.forall_mem_cons.1 h
      rw [squeeze_cons hx, List.cons_prefix_cons, List.cons_prefix_cons, ih hstart, eq_comm,
        one_eq_iff ha, eq_comm]

theorem take_squeeze {start : List α} (h : ∀ x ∈ start, e.Free x) :
    (e.squeeze xs).take start.length = start ↔ xs.take start.length = start := by
  rw [eq_comm, ← List.prefix_iff_eq_take, prefix_squeeze h, List.prefix_iff_eq_take, eq_comm]

/-- What follows some marks that are no part of a line end. -/
theorem drop_squeeze {n : Nat} (h : ∀ x ∈ xs.take n, e.Free x) :
    (e.squeeze xs).drop n = e.squeeze (xs.drop n) := by
  have hxs : e.squeeze xs = xs.take n ++ e.squeeze (xs.drop n) := by
    rw [← squeeze_append_free h, List.take_append_drop]
  rcases Nat.le_total n xs.length with hn | hn
  · rw [hxs, List.drop_append_of_le_length (by rw [List.length_take]; omega),
      List.drop_of_length_le (by rw [List.length_take]; omega), List.nil_append]
  · rw [hxs, List.drop_of_length_le hn, squeeze, List.append_nil,
      List.drop_of_length_le (by rw [List.length_take]; omega)]

theorem tail_squeeze {a : α} (ha : e.Free a) (h : xs.head? = some a) :
    (e.squeeze xs).tail = e.squeeze xs.tail := by
  obtain ⟨rest, rfl⟩ := List.head?_eq_some_iff.1 h
  rw [squeeze_cons_free ha, List.tail_cons, List.tail_cons]

section Tests

variable {p : α → Bool} (hp : p e.first = p e.second)

include hp

/-- A test that does not tell the marks apart does not tell line ends apart. -/
theorem test_one (x : α) : p (e.one x) = p x := by
  have hline : p e.line = p e.first := by
    rcases e.among with h | h
    · rw [h]
    · rw [h, hp]
  rw [one]
  split
  · rename_i hmark
    rcases hmark with rfl | rfl
    · exact hline
    · rw [hline, hp]
  · rfl

theorem all_squeeze (xs : List α) : (e.squeeze xs).all p = xs.all p := by
  induction xs using squeeze_induction (e := e) with
  | nil => rfl
  | pair rest ih =>
    rw [squeeze_pair, List.all_cons, List.all_cons, List.all_cons, ih, ← one_first, test_one hp, ← hp,
      ← Bool.and_assoc, Bool.and_self]
  | single x rest hx ih => rw [squeeze_cons hx, List.all_cons, List.all_cons, ih, test_one hp]

theorem dropWhile_squeeze (xs : List α) : (e.squeeze xs).dropWhile p = e.squeeze (xs.dropWhile p) := by
  induction xs using squeeze_induction (e := e) with
  | nil => rfl
  | pair rest ih =>
    have hline : p e.line = p e.first := by rw [← one_first, test_one hp]
    rw [squeeze_pair, List.dropWhile_cons, List.dropWhile_cons, List.dropWhile_cons, hline, ← hp]
    split
    · exact ih
    · exact squeeze_pair.symm
  | single x rest hx ih =>
    rw [squeeze_cons hx, List.dropWhile_cons, List.dropWhile_cons, test_one hp]
    split
    · exact ih
    · exact (squeeze_cons hx).symm

/-- What comes before the first line end is not changed. -/
theorem takeWhile_squeeze (hfirst : p e.first = false) (xs : List α) :
    (e.squeeze xs).takeWhile p = xs.takeWhile p := by
  induction xs using squeeze_induction (e := e) with
  | nil => rfl
  | pair rest ih =>
    have hline : p e.line = false := by rw [← one_first, test_one hp, hfirst]
    rw [squeeze_pair, List.takeWhile_cons, List.takeWhile_cons, hline, hfirst]
    rfl
  | single x rest hx ih =>
    rw [squeeze_cons hx, List.takeWhile_cons, List.takeWhile_cons, test_one hp]
    split
    · rename_i htest
      have hfree : e.Free x := by
        constructor
        · rintro rfl
          rw [hfirst] at htest
          cases htest
        · rintro rfl
          rw [← hp, hfirst] at htest
          cases htest
      rw [ih, one_of_free hfree]
    · rfl

end Tests

/-! ### The other end -/

/-- One more mark at the end of a list. -/
theorem squeeze_concat (xs : List α) (x : α) : e.squeeze (xs ++ [x]) =
    if x = e.second ∧ xs.getLast? = some e.first then e.squeeze xs else e.squeeze xs ++ [e.one x] := by
  have hone : ∀ y, e.squeeze [y] = [e.one y] := fun y => squeeze_cons fun _ he => by cases he
  induction xs using squeeze_induction (e := e) with
  | nil =>
    rw [if_neg fun h => by cases h.2]
    exact hone x
  | pair rest ih =>
    have hlast : (e.first :: e.second :: rest).getLast? = some e.first ↔
        rest.getLast? = some e.first := by
      cases rest with
      | nil => simpa using e.distinct.symm
      | cons y rest => simp [List.getLast?_cons_cons]
    rw [List.cons_append, List.cons_append, squeeze_pair, squeeze_pair, ih]
    simp only [hlast]
    split <;> rfl
  | single y rest hy ih =>
    cases rest with
    | nil =>
      show e.squeeze [y, x] = _
      rw [hone]
      split
      · rename_i hpair
        obtain ⟨rfl, hy⟩ := hpair
        cases hy
        rw [squeeze_pair, squeeze, one_first]
      · rename_i hpair
        have hy : y = e.first → [x].head? ≠ some e.second := fun he hx =>
          hpair ⟨Option.some.inj hx, congrArg some he⟩
        rw [squeeze_cons hy, hone]
        rfl
    | cons z rest =>
      have hcons : e.squeeze (y :: (z :: rest ++ [x])) = e.one y :: e.squeeze (z :: rest ++ [x]) :=
        squeeze_cons hy
      rw [List.getLast?_cons_cons, squeeze_cons hy, List.cons_append, hcons, ih]
      split <;> rfl

/-- Line ends are met from either end of a list. -/
theorem squeeze_reverse (xs : List α) : e.squeeze xs.reverse = (e.flip.squeeze xs).reverse := by
  induction xs with
  | nil => rfl
  | cons x xs ih =>
    have hcons : e.flip.squeeze (x :: xs) = if x = e.second ∧ xs.head? = some e.first then
        e.flip.squeeze xs else e.flip.one x :: e.flip.squeeze xs := rfl
    rw [List.reverse_cons, squeeze_concat, List.getLast?_reverse, ih, hcons, one_flip]
    split
    · rfl
    · rw [List.reverse_cons]

theorem reverse_squeeze (xs : List α) : (e.squeeze xs).reverse = e.flip.squeeze xs.reverse :=
  (squeeze_reverse (e := e.flip) xs).symm

theorem getLast?_squeeze_eq {a : α} (ha : e.Free a) :
    (e.squeeze xs).getLast? = some a ↔ xs.getLast? = some a := by
  rw [← List.head?_reverse, reverse_squeeze, head?_squeeze_eq (free_flip.2 ha), List.head?_reverse]

/-! ### Scanners -/

/-- A scanner that comes to the same point with each line end does so with a whole list. It holds what it
has read last if that may be half of a pair. -/
theorem foldl_squeeze {σ : Type} {step : σ → α → σ} {f : σ → σ} {Sound Holds : σ → Prop}
    (hsound : ∀ s x, Sound s → Sound (step s x))
    (hstep : ∀ s x, Sound s → ¬ (x = e.second ∧ Holds s) → step (f s) (e.one x) = f (step s x))
    (hpair : ∀ s, Sound s → f (step (step s e.first) e.second) = f (step s e.first))
    (hholds : ∀ s x, Sound s → x ≠ e.first → ¬ Holds (step s x)) (xs : List α) :
    ∀ s, Sound s → (Holds s → xs.head? ≠ some e.second) →
      (e.squeeze xs).foldl step (f s) = f (xs.foldl step s) := by
  induction xs using squeeze_induction (e := e) with
  | nil => exact fun s _ _ => rfl
  | pair rest ih =>
    intro s hs _
    -- The second mark of a pair adds nothing to the first, so that one mark may stand for both.
    have hfirst := hstep s e.first hs fun h => e.distinct h.1
    rw [one_first] at hfirst
    have hs' := hsound _ e.second (hsound s e.first hs)
    have hdone := hholds (step s e.first) e.second (hsound s e.first hs) e.distinct.symm
    rw [squeeze_pair, List.foldl_cons, List.foldl_cons, List.foldl_cons, hfirst, ← hpair s hs]
    exact ih _ hs' fun h => absurd h hdone
  | single x rest hx ih =>
    intro s hs hnext
    have hnot : ¬ (x = e.second ∧ Holds s) := fun h => hnext h.2 (by rw [h.1]; rfl)
    rw [squeeze_cons hx, List.foldl_cons, List.foldl_cons, hstep s x hs hnot]
    refine ih _ (hsound s x hs) fun h => ?_
    by_cases hfirst : x = e.first
    · exact hx hfirst
    · exact absurd h (hholds s x hs hfirst)

/-! ### Other marks -/

/-- Line ends are the same after each mark is replaced, if what replaces a mark is half of a line end exactly
where the mark is. -/
theorem map_squeeze {e' : LineEnd β} {g : α → β} (hline : g e.line = e'.line)
    (hmarks : ∀ x, (g x = e'.first ↔ x = e.first) ∧ (g x = e'.second ↔ x = e.second)) (xs : List α) :
    (e.squeeze xs).map g = e'.squeeze (xs.map g) := by
  have hfirst : g e.first = e'.first := (hmarks e.first).1.2 rfl
  have hsecond : g e.second = e'.second := (hmarks e.second).2.2 rfl
  have hone : ∀ x, g (e.one x) = e'.one (g x) := by
    intro x
    simp only [one, hmarks]
    split
    · exact hline
    · rfl
  induction xs using squeeze_induction (e := e) with
  | nil => rfl
  | pair rest ih =>
    rw [squeeze_pair, List.map_cons, List.map_cons, List.map_cons, hfirst, hsecond, squeeze_pair, ih, hline]
  | single x rest hx ih =>
    have hnext : g x = e'.first → (rest.map g).head? ≠ some e'.second := by
      intro hg hhead
      rw [List.head?_map, Option.map_eq_some_iff] at hhead
      obtain ⟨y, hy, hgy⟩ := hhead
      exact hx ((hmarks x).1.1 hg) (hy.trans (congrArg some ((hmarks y).2.1 hgy)))
    rw [squeeze_cons hx, List.map_cons, List.map_cons, squeeze_cons hnext, ih, hone]

/-- What changes other marks only, and into other marks, leaves line ends as they are. -/
theorem map_squeeze_of_free {g : α → α} (hfirst : g e.first = e.first) (hsecond : g e.second = e.second)
    (hfree : ∀ x, e.Free x → e.Free (g x)) (xs : List α) :
    (e.squeeze xs).map g = e.squeeze (xs.map g) := by
  refine map_squeeze ?_ (fun y => ?_) xs
  · rcases e.among with h | h
    · rw [h, hfirst]
    · rw [h, hsecond]
  · by_cases hy : e.Free y
    · exact ⟨iff_of_false (hfree y hy).1 hy.1, iff_of_false (hfree y hy).2 hy.2⟩
    · by_cases hyfirst : y = e.first
      · rw [hyfirst, hfirst]
        exact ⟨Iff.rfl, Iff.rfl⟩
      · have hysecond : y = e.second := by_contra fun hne => hy ⟨hyfirst, hne⟩
        rw [hysecond, hsecond]
        exact ⟨Iff.rfl, Iff.rfl⟩

end LineEnd

end Builtins
