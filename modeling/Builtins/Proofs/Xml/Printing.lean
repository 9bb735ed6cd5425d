import Builtins.Proofs.Xml.Forest
import Builtins.Xml.Reference

/-!
# Printing forests

How a forest is written as text.  Characters that mean something else in their place are written as
references, and an element without anything in it may be written in two forms.

* `IsName`, `IsTag`, `Forest.Canonical` — the forests that can be printed;
* `escape` — a text with some characters as references; `valueEscapes`, `textEscapes` — which ones;
* `Printed` — a forest and a way to print it;
* `unescape?_escape` — a value is found again behind its references.
-/

namespace Builtins

/-! ### What can be printed -/

/-- The characters that a printed name does not have. -/
def nameStops : List Char := [' ', '\t', '\r', '\n', '<', '>', '/', '=', '&', '\'', '"', '!', '?']

/-- Whether a text can be printed as the name of an element or the key of an attribute. -/
structure IsName (s : String) : Prop where
  nonempty : s ≠ ""
  plain : ∀ c ∈ nameStops, c ∉ s.toList

instance (s : String) : Decidable (IsName s) :=
  haveI := List.decidableBAll (fun c => c ∉ s.toList) nameStops
  decidable_of_iff (s ≠ "" ∧ ∀ c ∈ nameStops, c ∉ s.toList)
    ⟨fun h => ⟨h.1, h.2⟩, fun h => ⟨h.nonempty, h.plain⟩⟩

/-- Whether these can be printed as the name and the attributes of an element. -/
structure IsTag (name : String) (attributes : List Attribute) : Prop where
  name : IsName name
  keys : ∀ a ∈ attributes, IsName a.key
  distinct : (attributes.map (·.key)).Nodup

namespace Forest

/-- Whether the first node is a text. -/
def startsWithText : Forest → Bool
  | text _ _ => true
  | _ => false

/-- Whether a forest can be printed and told from all others: its tags can be, and its texts are not
empty and no neighbours. -/
def Canonical : Forest → Prop
  | nil => True
  | text s rest => s ≠ "" ∧ rest.startsWithText = false ∧ rest.Canonical
  | element name attributes below rest =>
    IsTag name attributes ∧ below.Canonical ∧ rest.Canonical

end Forest

/-! ### References -/

/-- Characters with the names of their references. -/
abbrev Escapes := List (Char × List Char)

/-- A text with some characters as references. -/
def escape (names : Escapes) (cs : List Char) : List Char :=
  cs.flatMap fun c =>
    match names.lookup c with
    | some name => '&' :: (name ++ [';'])
    | none => [c]

/-- What is written as a reference everywhere. -/
def markupEscapes : Escapes := [('&', ['a', 'm', 'p']), ('<', ['l', 't']), ('>', ['g', 't'])]

/-- What is written as a reference in values. -/
def valueEscapes : Escapes :=
  markupEscapes ++ [('"', ['q', 'u', 'o', 't']), ('\'', ['a', 'p', 'o', 's'])]

/-- What is written as a reference in texts: a carriage return would be read as a line end. -/
def textEscapes : Escapes := markupEscapes ++ [('\r', ['#', '1', '3'])]

/-- A name that is read as a reference to a character. -/
structure Refers (name : List Char) (c : Char) : Prop where
  resolved : resolveReference? name = some c
  semicolon : ';' ∉ name
  ampersand : '&' ∉ name
  angle : '<' ∉ name

/-- References that are read as they are meant. -/
def Escapes.Sound (names : Escapes) : Prop := ∀ p ∈ names, Refers p.2 p.1

theorem refers_markup : Escapes.Sound markupEscapes := by
  intro p hp
  simp only [markupEscapes, List.mem_cons, List.not_mem_nil, or_false] at hp
  rcases hp with rfl | rfl | rfl
  · exact ⟨rfl, by decide, by decide, by decide⟩
  · exact ⟨rfl, by decide, by decide, by decide⟩
  · exact ⟨rfl, by decide, by decide, by decide⟩

theorem refers_value : Escapes.Sound valueEscapes := by
  intro p hp
  rcases List.mem_append.1 hp with hmarkup | hquote
  · exact refers_markup p hmarkup
  · simp only [List.mem_cons, List.not_mem_nil, or_false] at hquote
    rcases hquote with rfl | rfl
    · exact ⟨rfl, by decide, by decide, by decide⟩
    · exact ⟨rfl, by decide, by decide, by decide⟩

theorem refers_text : Escapes.Sound textEscapes := by
  intro p hp
  rcases List.mem_append.1 hp with hmarkup | hreturn
  · exact refers_markup p hmarkup
  · rw [List.mem_singleton] at hreturn
    subst hreturn
    exact ⟨rfl, by decide, by decide, by decide⟩

variable {names : Escapes} {name : List Char} {c : Char} {cs : List Char}

theorem escape_cons (c : Char) (cs : List Char) :
    escape names (c :: cs) = escape names [c] ++ escape names cs := by
  simp [escape]

/-- A character is written as a reference, or as it is. -/
theorem escape_singleton (h : names.Sound) (c : Char) :
    (∃ name, Refers name c ∧ escape names [c] = '&' :: (name ++ [';'])) ∨
      (names.lookup c = none ∧ escape names [c] = [c]) := by
  cases hc : names.lookup c with
  | none => exact .inr ⟨rfl, by simp [escape, hc]⟩
  | some name =>
    obtain ⟨before, after, hsplit, -⟩ := List.lookup_eq_some_iff.1 hc
    have hmem : (c, name) ∈ names := by simp [hsplit]
    exact .inl ⟨name, h _ hmem, by simp [escape, hc]⟩

/-- A character that has a reference, and is in none, is not in the escaped text. -/
theorem not_mem_escape {x : Char} (hx : (names.lookup x).isSome = true)
    (hplain : x ∉ '&' :: ';' :: names.flatMap (·.2)) : x ∉ escape names cs := by
  intro hmem
  obtain ⟨c, -, hc⟩ := List.mem_flatMap.1 hmem
  cases hlookup : names.lookup c with
  | none =>
    rw [hlookup, List.mem_singleton] at hc
    rw [hc, hlookup] at hx
    cases hx
  | some name =>
    obtain ⟨before, after, hsplit, -⟩ := List.lookup_eq_some_iff.1 hlookup
    rw [hlookup] at hc
    refine hplain ?_
    simp only [hsplit, List.mem_cons, List.mem_append, List.mem_flatMap, List.not_mem_nil,
      or_false] at hc ⊢
    rcases hc with hamp | hname | hsemicolon
    · exact .inl hamp
    · exact .inr (.inr ⟨(c, name), by simp, hname⟩)
    · exact .inr (.inl hsemicolon)

/-! ### References in values -/

/-- A reference is read up to its semicolon. -/
theorem unescapeFrom_name {rest : List Char} : ∀ run : List Char, ';' ∉ name → '&' ∉ name →
    unescapeFrom (some run) (name ++ ';' :: rest) =
      unescapeFrom (some (name.reverse ++ run)) (';' :: rest) := by
  induction name with
  | nil =>
    intro run _ _
    rfl
  | cons c name ih =>
    intro run hsemicolon hampersand
    have hc : c ≠ ';' := fun he => hsemicolon (by rw [he]; exact List.mem_cons_self)
    have hc' : c ≠ '&' := fun he => hampersand (by rw [he]; exact List.mem_cons_self)
    rw [List.cons_append, unescapeFrom, if_neg hc, if_neg hc',
      ih (c :: run) (fun h => hsemicolon (List.mem_cons_of_mem _ h))
        fun h => hampersand (List.mem_cons_of_mem _ h)]
    simp

theorem unescapeFrom_reference {rest : List Char} (h : Refers name c) :
    unescapeFrom none ('&' :: (name ++ ';' :: rest)) = (unescapeFrom none rest).map (c :: ·) := by
  rw [unescapeFrom, if_pos rfl, unescapeFrom_name [] h.semicolon h.ampersand, List.append_nil,
    unescapeFrom, if_pos rfl, List.reverse_reverse, h.resolved]

/-- A text is found again behind its references. -/
theorem unescapeFrom_escape (h : names.Sound) (hamp : names.lookup '&' ≠ none) (cs : List Char) :
    unescapeFrom none (escape names cs) = some cs := by
  induction cs with
  | nil => rfl
  | cons c cs ih =>
    rw [escape_cons]
    rcases escape_singleton h c with ⟨name, hname, hc⟩ | ⟨hnone, hc⟩
    · rw [hc, List.cons_append, List.append_assoc, List.singleton_append,
        unescapeFrom_reference hname, ih, Option.map_some]
    · have hc' : c ≠ '&' := fun he => hamp (by rw [← he]; exact hnone)
      rw [hc, List.singleton_append, unescapeFrom, if_neg hc', ih, Option.map_some]

theorem unescape?_escape (s : String) :
    unescape? (String.ofList (escape valueEscapes s.toList)) = some s := by
  rw [unescape?, String.toList_ofList, unescapeFrom_escape refers_value (by decide),
    Option.map_some, String.ofList_toList]

/-! ### Forests -/

/-- An attribute, with the space in front of it. -/
def printAttribute (a : Attribute) : List Char :=
  ' ' :: (a.key.toList ++ '=' :: '"' :: (escape valueEscapes a.value.toList ++ ['"']))

/-- What stands in a start tag. -/
def printTag (name : String) (attributes : List Attribute) : List Char :=
  name.toList ++ attributes.flatMap printAttribute

/-- The ways to print a forest. -/
inductive Printed : Forest → List Char → Prop
  | nil : Printed .nil []
  | text (s : String) {rest : Forest} {out : List Char} :
      Printed rest out → Printed (.text s rest) (escape textEscapes s.toList ++ out)
  | short (name : String) (attributes : List Attribute) {rest : Forest} {out : List Char} :
      Printed rest out →
        Printed (.element name attributes .nil rest)
          ('<' :: (printTag name attributes ++ '/' :: '>' :: out))
  | long (name : String) (attributes : List Attribute) {below rest : Forest}
      {inner out : List Char} :
      Printed below inner → Printed rest out →
        Printed (.element name attributes below rest)
          ('<' :: (printTag name attributes ++ '>' :: (inner ++ '<' :: '/' ::
            (name.toList ++ '>' :: out))))

end Builtins
