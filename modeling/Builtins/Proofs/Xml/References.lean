import Builtins.Proofs.Xml.Printing

/-!
# Texts as pieces

A text in which every reference is closed is made of pieces: characters that start no reference, and
references by their names. What such a text stands for is said piece by piece.

* `Piece` — a character or a reference; `sources` — the text of some pieces, `values` — what they are
  read as when an unknown reference stays as it is written;
* `length_values_le` — every known reference makes a text shorter; `values_eq_sources` — so a text
  stays as it is written only if it has none;
* `unescapeFrom_sources` — a value is replaced as a whole or not at all;
* `Unclosed` — a reference that is not closed; `exists_pieces` — every other text is made of pieces.
-/

namespace Builtins

/-- A piece of a text: a character that starts no reference, or a reference by its name. -/
inductive Piece where
  | plain (c : Char) (hc : c ≠ '&')
  | reference (name : List Char) (hsemicolon : ';' ∉ name) (hampersand : '&' ∉ name)

namespace Piece

/-- A piece as it is written. -/
def source : Piece → List Char
  | plain c _ => [c]
  | reference name _ _ => '&' :: (name ++ [';'])

/-- What a piece is read as: a reference to nothing known stays as it is written. -/
def value : Piece → List Char
  | plain c _ => [c]
  | reference name _ _ =>
    match resolveReference? name with
    | some c => [c]
    | none => '&' :: (name ++ [';'])

/-- Whether a piece is a reference to a character. -/
def isKnown : Piece → Bool
  | plain _ _ => false
  | reference name _ _ => (resolveReference? name).isSome

/-- Whether a piece is a reference to nothing known. -/
def isUnknown : Piece → Bool
  | plain _ _ => false
  | reference name _ _ => (resolveReference? name).isNone

variable {p : Piece}

theorem value_of_isKnown (h : p.isKnown = true) : p.value.length < p.source.length := by
  cases p with
  | plain c _ => cases h
  | reference name _ _ =>
    obtain ⟨c, hc⟩ := Option.isSome_iff_exists.1 h
    simp [value, source, hc]

theorem value_of_not_isKnown (h : p.isKnown = false) : p.value = p.source := by
  cases p with
  | plain c _ => rfl
  | reference name _ _ =>
    have hnone : resolveReference? name = none := by simpa [isKnown] using h
    simp [value, source, hnone]

end Piece

/-- The text of some pieces. -/
def sources (ps : List Piece) : List Char := ps.flatMap Piece.source

/-- What the text of some pieces is read as. -/
def values (ps : List Piece) : List Char := ps.flatMap Piece.value

theorem sources_cons (p : Piece) (ps : List Piece) : sources (p :: ps) = p.source ++ sources ps := by
  rw [sources, List.flatMap_cons, sources]

theorem values_cons (p : Piece) (ps : List Piece) : values (p :: ps) = p.value ++ values ps := by
  rw [values, List.flatMap_cons, values]

/-! ### What references do to a text -/

/-- Every known reference makes the text shorter. -/
theorem length_values_le (ps : List Piece) :
    (values ps).length + ps.countP Piece.isKnown ≤ (sources ps).length := by
  induction ps with
  | nil => exact Nat.le_refl _
  | cons p ps ih =>
    rw [sources_cons, values_cons, List.length_append, List.length_append, List.countP_cons]
    cases hp : p.isKnown with
    | true =>
      have hlt := Piece.value_of_isKnown hp
      simp only [if_true]
      omega
    | false =>
      rw [Piece.value_of_not_isKnown hp]
      simp only [Bool.false_eq_true, if_false]
      omega

/-- Nothing is changed if and only if there is nothing known. -/
theorem values_eq_sources {ps : List Piece} :
    values ps = sources ps ↔ ps.any Piece.isKnown = false := by
  constructor
  · intro h
    have hle := length_values_le ps
    have hzero : ps.countP Piece.isKnown = 0 := by
      rw [h] at hle
      omega
    simpa using List.countP_eq_zero.1 hzero
  · intro h
    induction ps with
    | nil => rfl
    | cons p ps ih =>
      rw [List.any_cons, Bool.or_eq_false_iff] at h
      rw [sources_cons, values_cons, Piece.value_of_not_isKnown h.1, ih h.2]

/-- In a value all references are replaced, or none is. -/
theorem unescapeFrom_sources (ps : List Piece) :
    unescapeFrom none (sources ps) =
      if ps.any Piece.isUnknown then none else some (values ps) := by
  induction ps with
  | nil => rfl
  | cons p ps ih =>
    rw [sources_cons, values_cons, List.any_cons]
    cases p with
    | plain c hc =>
      show unescapeFrom none (c :: sources ps) = _
      rw [unescapeFrom, if_neg hc, ih]
      cases hany : ps.any Piece.isUnknown with
      | true => rfl
      | false => rfl
    | reference name hsemicolon hampersand =>
      have hsource : (Piece.reference name hsemicolon hampersand).source ++ sources ps =
          '&' :: (name ++ ';' :: sources ps) := by simp [Piece.source]
      rw [hsource, unescapeFrom, if_pos rfl, unescapeFrom_name [] hsemicolon hampersand,
        List.append_nil, unescapeFrom, if_pos rfl, List.reverse_reverse, ih]
      cases hname : resolveReference? name with
      | none => simp [Piece.isUnknown, hname]
      | some c =>
        cases hany : ps.any Piece.isUnknown with
        | true => simp [Piece.isUnknown, hname]
        | false => simp [Piece.isUnknown, Piece.value, hname]

/-! ### Texts that are not made of pieces -/

/-- A text with a reference that is not closed before the next one starts, or before the text ends. -/
def Unclosed (cs : List Char) : Prop :=
  ∃ (ps : List Piece) (name rest : List Char), cs = sources ps ++ '&' :: (name ++ rest) ∧
    ';' ∉ name ∧ '&' ∉ name ∧ (rest = [] ∨ ∃ rest', rest = '&' :: rest')

/-- A piece in front changes nothing. -/
theorem pieces_append {cs : List Char} (h : (∃ ps, cs = sources ps) ∨ Unclosed cs) (p : Piece) :
    (∃ ps, p.source ++ cs = sources ps) ∨ Unclosed (p.source ++ cs) := by
  rcases h with ⟨ps, rfl⟩ | ⟨ps, name, rest, rfl, hname⟩
  · exact .inl ⟨p :: ps, (sources_cons p ps).symm⟩
  · exact .inr ⟨p :: ps, name, rest, by rw [sources_cons, List.append_assoc], hname⟩

/-- Every text is made of pieces up to the first reference that is not closed, whether it is read from
its start or from within the name of a reference. -/
theorem exists_pieces_from (cs : List Char) :
    ((∃ ps, cs = sources ps) ∨ Unclosed cs) ∧
      ∀ name, ';' ∉ name → '&' ∉ name →
        (∃ ps, '&' :: (name ++ cs) = sources ps) ∨ Unclosed ('&' :: (name ++ cs)) := by
  induction cs with
  | nil =>
    refine ⟨.inl ⟨[], rfl⟩, fun name hsemicolon hampersand => ?_⟩
    exact .inr ⟨[], name, [], rfl, hsemicolon, hampersand, .inl rfl⟩
  | cons c cs ih =>
    obtain ⟨hcs, hname⟩ := ih
    constructor
    · by_cases hc : c = '&'
      · subst hc
        exact hname [] (by simp) (by simp)
      · exact pieces_append hcs (.plain c hc)
    · intro name hsemicolon hampersand
      by_cases hend : c = ';'
      · subst hend
        simpa [Piece.source] using pieces_append hcs (.reference name hsemicolon hampersand)
      · by_cases hstart : c = '&'
        · subst hstart
          exact .inr ⟨[], name, '&' :: cs, rfl, hsemicolon, hampersand, .inr ⟨cs, rfl⟩⟩
        · have hnext := hname (name ++ [c]) (by simp [hsemicolon, Ne.symm hend])
            (by simp [hampersand, Ne.symm hstart])
          simpa using hnext

theorem exists_pieces (cs : List Char) : (∃ ps, cs = sources ps) ∨ Unclosed cs :=
  (exists_pieces_from cs).1

end Builtins
