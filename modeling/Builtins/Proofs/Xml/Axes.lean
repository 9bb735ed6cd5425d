import Builtins.Xml.Document

/-!
# Axes of a document

The nodes below a node are a run of positions that follows it.  They are the nodes that a chain of
parents leads up from, whatever depths an outline has.

* `under` — the positions below a node, with `children`, `textContent` and `elementsByTag` read off
  them;
* `parent?_eq_some_iff` — the parent is the last node before on a lesser level;
* `Encloses` — one node above another, by any number of steps from child to parent;
* `mem_under` — what is below a node is what it encloses;
* `mem_elementsByTag` — what a tag query finds, by what a node encloses;
* `under_infix` — what is below an enclosed node stands together.
-/

namespace Builtins

/-! ### Runs of positions -/

theorem mem_takeWhile_range' {p : Nat → Bool} {j : Nat} (n : Nat) : ∀ s,
    j ∈ (List.range' s n).takeWhile p ↔ s ≤ j ∧ j < s + n ∧ ∀ k, s ≤ k → k ≤ j → p k = true := by
  induction n with
  | zero =>
    intro s
    rw [List.range'_zero, List.takeWhile_nil]
    refine ⟨fun h => absurd h List.not_mem_nil, fun ⟨hle, hlt, _⟩ => ?_⟩
    omega
  | succ n ih =>
    intro s
    rw [List.range'_succ]
    cases hs : p s with
    | false =>
      rw [List.takeWhile_cons_of_neg (by simp [hs])]
      refine ⟨fun h => absurd h List.not_mem_nil, fun ⟨hle, _, hall⟩ => ?_⟩
      rw [hall s (Nat.le_refl s) hle] at hs
      cases hs
    | true =>
      rw [List.takeWhile_cons_of_pos hs, List.mem_cons, ih]
      constructor
      · rintro (rfl | ⟨hle, hlt, hall⟩)
        · refine ⟨Nat.le_refl _, by omega, fun k hk hk' => ?_⟩
          rwa [Nat.le_antisymm hk' hk]
        · refine ⟨by omega, by omega, fun k hk hk' => ?_⟩
          rcases Nat.eq_or_lt_of_le hk with rfl | hk
          · exact hs
          · exact hall k hk hk'
      · rintro ⟨hle, hlt, hall⟩
        rcases Nat.eq_or_lt_of_le hle with rfl | hle
        · exact .inl rfl
        · exact .inr ⟨hle, by omega, fun k hk hk' => hall k (by omega) hk'⟩

/-- The first positions of a run are a run. -/
theorem takeWhile_range' (p : Nat → Bool) (n : Nat) : ∀ s,
    (List.range' s n).takeWhile p = List.range' s ((List.range' s n).takeWhile p).length := by
  induction n with
  | zero => intro s; rfl
  | succ n ih =>
    intro s
    rw [List.range'_succ]
    cases hs : p s with
    | false =>
      rw [List.takeWhile_cons_of_neg (by simp [hs])]
      rfl
    | true =>
      rw [List.takeWhile_cons_of_pos hs, List.length_cons, List.range'_succ, ← ih]

theorem range'_infix {s s' n n' : Nat} (hs : s' ≤ s) (hn : s + n ≤ s' + n') :
    List.range' s n <:+: List.range' s' n' := by
  obtain ⟨a, rfl⟩ := Nat.exists_eq_add_of_le hs
  obtain ⟨b, hb⟩ := Nat.exists_eq_add_of_le hn
  have hlength : n' = a + n + b := by omega
  subst hlength
  refine ⟨List.range' s' a, List.range' (s' + (a + n)) b, ?_⟩
  rw [List.range'_append_1, List.range'_append_1]

/-- The last position of a run with a property. -/
theorem find?_reverse_range {p : Nat → Bool} {q : Nat} (n : Nat) :
    (List.range n).reverse.find? p = some q ↔
      q < n ∧ p q = true ∧ ∀ k, q < k → k < n → p k = false := by
  induction n with
  | zero => simp
  | succ n ih =>
    rw [List.range_succ, List.reverse_append, List.reverse_singleton, List.singleton_append]
    cases hn : p n with
    | true =>
      rw [List.find?_cons_of_pos hn, Option.some_inj]
      constructor
      · rintro rfl
        exact ⟨Nat.lt_succ_self _, hn, fun k hk hk' => by omega⟩
      · rintro ⟨hlt, -, hlast⟩
        rcases Nat.eq_or_lt_of_le (Nat.le_of_lt_succ hlt) with rfl | hlt
        · rfl
        · rw [hlast n hlt (Nat.lt_succ_self n)] at hn
          cases hn
    | false =>
      rw [List.find?_cons_of_neg (by simp [hn]), ih]
      constructor
      · rintro ⟨hlt, hq, hlast⟩
        refine ⟨by omega, hq, fun k hk hk' => ?_⟩
        rcases Nat.eq_or_lt_of_le (Nat.le_of_lt_succ hk') with rfl | hk'
        · exact hn
        · exact hlast k hk hk'
      · rintro ⟨hlt, hq, hlast⟩
        rcases Nat.eq_or_lt_of_le (Nat.le_of_lt_succ hlt) with rfl | hlt
        · rw [hq] at hn
          cases hn
        · exact ⟨hlt, hq, fun k hk hk' => hlast k hk (by omega)⟩

theorem Content.matchesTag_iff {c : Content} {tag : String} : c.matchesTag tag = true ↔
    c.kind = .element ∧ (tag = "*" ∨ c.name? = some tag) := by
  cases c with
  | document => simp [matchesTag, kind]
  | text s => simp [matchesTag, kind]
  | element name attributes => simp [matchesTag, kind, name?]

namespace Document

variable {d : Document} {i j k p : Nat}

/-! ### Positions below a node -/

theorem entry_of_mem_positioned {e : Entry} (h : (e, i) ∈ d.positioned) : d.entry i = e := by
  have hget : d.entries.toList[i]? = some e := List.mem_zipIdx_iff_getElem?.1 h
  rw [Array.getElem?_toList] at hget
  rw [entry, Array.getD_eq_getD_getElem?, hget]
  rfl

/-- The nodes with their positions, by the positions. -/
theorem positioned_eq (d : Document) :
    d.positioned = (List.range d.entries.size).map fun j => (d.entry j, j) := by
  have hpositions : d.positioned.map (·.2) = List.range d.entries.size := by
    rw [positioned, List.zipIdx_map_snd, Array.length_toList, List.range_eq_range']
  rw [← hpositions, List.map_map]
  refine (List.map_id _).symm.trans (List.map_congr_left fun x hx => ?_)
  have hentry : d.entry x.2 = x.1 := entry_of_mem_positioned hx
  rw [Function.comp, hentry, id]

/-- The positions of the nodes below a node. -/
def under (d : Document) (i : Nat) : List Nat := (d.below i).map (·.2)

/-- Whether a node is on a lesser level than another. -/
def above (d : Document) (i j : Nat) : Bool := (d.entry i).depth < (d.entry j).depth

theorem above_iff : d.above i j = true ↔ (d.entry i).depth < (d.entry j).depth := decide_eq_true_iff

theorem drop_positioned (n : Nat) : d.positioned.drop n =
    (List.range' n (d.entries.size - n)).map fun j => (d.entry j, j) := by
  rw [positioned_eq, ← List.map_drop, List.range_eq_range', List.drop_range', Nat.zero_add,
    Nat.mul_one]

theorem below_eq_takeWhile : d.below i =
    ((List.range' (i + 1) (d.entries.size - (i + 1))).takeWhile (d.above i)).map
      fun j => (d.entry j, j) := by
  rw [below, drop_positioned, List.takeWhile_map]
  rfl

theorem under_eq_takeWhile : d.under i =
    (List.range' (i + 1) (d.entries.size - (i + 1))).takeWhile (d.above i) := by
  rw [under, below_eq_takeWhile, List.map_map]
  exact List.map_id _

theorem below_eq : d.below i = (d.under i).map fun j => (d.entry j, j) := by
  rw [under_eq_takeWhile, below_eq_takeWhile]

/-- The positions below a node follow it without a gap. -/
theorem under_eq_range' : d.under i = List.range' (i + 1) (d.under i).length := by
  rw [under_eq_takeWhile]
  exact takeWhile_range' _ _ _

theorem mem_under_iff_le : j ∈ d.under i ↔ i < j ∧ j ≤ i + (d.under i).length := by
  have hmem : j ∈ d.under i ↔ j ∈ List.range' (i + 1) (d.under i).length := by
    rw [← under_eq_range']
  rw [hmem, List.mem_range'_1]
  omega

theorem mem_under_iff : j ∈ d.under i ↔
    i < j ∧ j < d.entries.size ∧ ∀ k, i < k → k ≤ j → (d.entry i).depth < (d.entry k).depth := by
  rw [under_eq_takeWhile, mem_takeWhile_range']
  constructor
  · rintro ⟨hle, hlt, hall⟩
    exact ⟨hle, by omega, fun k hk hk' => above_iff.1 (hall k hk hk')⟩
  · rintro ⟨hlt, hsize, hall⟩
    exact ⟨hlt, by omega, fun k hk hk' => above_iff.2 (hall k hk hk')⟩

theorem children_eq : d.children i =
    (d.under i).filter fun j => (d.entry j).depth == (d.entry i).depth + 1 := by
  rw [children, below_eq, List.filter_map, List.map_map]
  exact List.map_id _

theorem elementsByTag_eq (tag : String) : d.elementsByTag i tag =
    (d.under i).filter fun j => (d.entry j).content.matchesTag tag := by
  rw [elementsByTag, below_eq, List.filter_map, List.map_map]
  exact List.map_id _

theorem textContent_eq : d.textContent i =
    String.join ((i :: d.under i).map fun j => (d.entry j).content.ownText) := by
  rw [textContent, below_eq, List.map_map, List.map_cons, String.join_cons]
  rfl

/-! ### Parents -/

theorem entry_of_size_le (h : d.entries.size ≤ i) : d.entry i = default := by
  rw [entry, Array.getD_eq_getD_getElem?, Array.getElem?_eq_none h]
  rfl

theorem parent?_eq (h : i ≤ d.entries.size) :
    d.parent? i = (List.range i).reverse.find? fun k => d.above k i := by
  rw [parent?, positioned_eq, ← List.map_take, List.take_range, Nat.min_eq_left h, ← List.map_reverse,
    List.find?_map, Option.map_map]
  exact congrFun Option.map_id _

/-- The parent of a node is the last one before it on a lesser level. -/
theorem parent?_eq_some_iff : d.parent? i = some p ↔
    p < i ∧ i < d.entries.size ∧ (d.entry p).depth < (d.entry i).depth ∧
      ∀ k, p < k → k < i → (d.entry i).depth ≤ (d.entry k).depth := by
  rcases Nat.lt_or_ge i d.entries.size with hi | hi
  · rw [parent?_eq (Nat.le_of_lt hi), find?_reverse_range, above_iff]
    constructor
    · rintro ⟨hp, hdepth, hlast⟩
      refine ⟨hp, hi, hdepth, fun k hk hk' => Nat.not_lt.1 fun hlt => ?_⟩
      exact Bool.noConfusion ((above_iff.2 hlt).symm.trans (hlast k hk hk'))
    · rintro ⟨hp, -, hdepth, hlast⟩
      refine ⟨hp, hdepth, fun k hk hk' => Bool.eq_false_iff.2 fun hab => ?_⟩
      have hle := hlast k hk hk'
      have hlt := above_iff.1 hab
      omega
  · have hdepth : (d.entry i).depth = 0 := by
      rw [entry_of_size_le hi]
      rfl
    have hnone : d.parent? i = none := by
      rw [parent?, hdepth]
      simp
    rw [hnone]
    constructor
    · intro h
      cases h
    · rintro ⟨-, hlt, -⟩
      omega

/-! ### Nodes above and below each other -/

/-- A node above another: its parent, or the parent of its parent, and so on. -/
def Encloses (d : Document) : Nat → Nat → Prop := Relation.TransGen fun p i => d.parent? i = some p

/-- A node encloses the deeper ones that follow it without a break. -/
theorem encloses_iff : d.Encloses i j ↔
    i < j ∧ j < d.entries.size ∧ ∀ k, i < k → k ≤ j → (d.entry i).depth < (d.entry k).depth := by
  constructor
  · intro h
    induction h with
    | single hparent =>
      obtain ⟨hlt, hsize, hdepth, hlast⟩ := parent?_eq_some_iff.1 hparent
      refine ⟨hlt, hsize, fun k hk hk' => ?_⟩
      rcases Nat.eq_or_lt_of_le hk' with rfl | hk'
      · exact hdepth
      · exact Nat.lt_of_lt_of_le hdepth (hlast k hk hk')
    | @tail b c _ hparent ih =>
      obtain ⟨hlt, -, hall⟩ := ih
      obtain ⟨hlt', hsize, hdepth, hlast⟩ := parent?_eq_some_iff.1 hparent
      have hb := hall b hlt (Nat.le_refl b)
      refine ⟨Nat.lt_trans hlt hlt', hsize, fun k hk hk' => ?_⟩
      rcases Nat.lt_or_ge b k with hbk | hkb
      · rcases Nat.eq_or_lt_of_le hk' with rfl | hk'
        · exact Nat.lt_trans hb hdepth
        · have hle := hlast k hbk hk'
          omega
      · exact hall k hk hkb
  · -- The parent of the lower node is the upper one or is enclosed by it.
    induction j using Nat.strongRecOn with
    | ind j ih =>
      rintro ⟨hlt, hsize, hall⟩
      obtain ⟨q, hq⟩ : ∃ q, d.parent? j = some q := by
        rw [parent?_eq (Nat.le_of_lt hsize)]
        refine Option.isSome_iff_exists.1 (List.find?_isSome.2 ⟨i, ?_, ?_⟩)
        · exact List.mem_reverse.2 (List.mem_range.2 hlt)
        · exact above_iff.2 (hall j hlt (Nat.le_refl j))
      obtain ⟨hqj, -, hdepth, hlast⟩ := parent?_eq_some_iff.1 hq
      have hdepth' := hall j hlt (Nat.le_refl j)
      rcases Nat.lt_trichotomy q i with hqi | rfl | hiq
      · have hle := hlast i hqi hlt
        omega
      · exact .single hq
      · exact .tail (ih q hqj ⟨hiq, by omega, fun k hk hk' => hall k hk (by omega)⟩) hq

/-- What is below a node is what it encloses. -/
theorem mem_under : j ∈ d.under i ↔ d.Encloses i j := mem_under_iff.trans encloses_iff.symm

/-- A tag query finds the elements below a node that have the name, or all of them for the star. -/
theorem mem_elementsByTag {tag : String} : j ∈ d.elementsByTag i tag ↔
    d.Encloses i j ∧ (d.entry j).content.kind = .element ∧
      (tag = "*" ∨ (d.entry j).content.name? = some tag) := by
  rw [elementsByTag_eq, List.mem_filter, mem_under, Content.matchesTag_iff]

theorem under_pairwise (d : Document) (i : Nat) : (d.under i).Pairwise (· < ·) := by
  rw [under_eq_range']
  exact List.pairwise_lt_range'

theorem lt_of_encloses (h : d.Encloses i j) : i < j := (encloses_iff.1 h).1

/-- An enclosed node and what is below it stand together below the outer one. -/
theorem under_infix (h : d.Encloses i j) : j :: d.under j <:+: d.under i := by
  have hlast : j + (d.under j).length ∈ d.under i := by
    rcases Nat.eq_zero_or_pos (d.under j).length with hzero | hpos
    · rw [hzero]
      exact mem_under.2 h
    · have hbelow : j + (d.under j).length ∈ d.under j := mem_under_iff_le.2 ⟨by omega, by omega⟩
      exact mem_under.2 (h.trans (mem_under.1 hbelow))
  have hle := (mem_under_iff_le.1 hlast).2
  have hij := lt_of_encloses h
  rw [under_eq_range' (i := i), under_eq_range' (i := j), ← List.range'_succ]
  exact range'_infix hij (by omega)

/-- A child comes after its parent and within the document. -/
theorem lt_of_mem_children (h : j ∈ d.children i) : i < j ∧ j < d.entries.size := by
  rw [children_eq] at h
  obtain ⟨hlt, hsize, -⟩ := mem_under_iff.1 (List.mem_filter.1 h).1
  exact ⟨hlt, hsize⟩

end Document

end Builtins
