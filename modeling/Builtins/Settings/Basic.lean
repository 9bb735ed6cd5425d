import Builtins.Settings.Json

/-!
# Settings of a run

The settings that can be stored: where files are looked up, and whether a run is verbose. They are
written as a JSON object, and read from an object or from an array in the order of the fields.

* `Settings` with its defaults.
* `Settings.parse?` reads, `Settings.render` writes.
-/

namespace Builtins

/-- The stored settings of a run. -/
structure Settings where
  sourceRoots : List String
  verbose : Bool
deriving DecidableEq, Repr

namespace Settings

def default : Settings := ⟨[], false⟩

instance : Inhabited Settings := ⟨default⟩

/-- The texts of the rest of an array, at an item (`true`) or after one. -/
def readItems? (item : Bool) : List JsonToken → Option (List String × List JsonToken)
  | .string (some s) :: rest =>
    if item then (readItems? false rest).map fun r => (s :: r.1, r.2) else none
  | .comma :: rest => if item then none else readItems? true rest
  | .closeBracket :: rest => if item then none else some ([], rest)
  | _ => none

def readTexts? : List JsonToken → Option (List String × List JsonToken)
  | .openBracket :: .closeBracket :: rest => some ([], rest)
  | .openBracket :: rest => readItems? true rest
  | _ => none

theorem length_lt_of_readItems? {item : Bool} {tokens rest : List JsonToken} {l : List String}
    (h : readItems? item tokens = some (l, rest)) : rest.length < tokens.length := by
  induction tokens generalizing item l with
  | nil => simp [readItems?] at h
  | cons t tokens ih =>
    rw [readItems?.eq_def] at h
    grind [Option.map_eq_some_iff]

theorem length_lt_of_readTexts? {tokens rest : List JsonToken} {l : List String}
    (h : readTexts? tokens = some (l, rest)) : rest.length < tokens.length := by
  rw [readTexts?.eq_def] at h
  have := @length_lt_of_readItems? true
  grind

/-- The fields that have been read. -/
structure Partial where
  sourceRoots : Option (List String)
  verbose : Option Bool

/-- The settings of the fields read; the others have their defaults. -/
def Partial.complete (p : Partial) : Settings :=
  ⟨p.sourceRoots.getD default.sourceRoots, p.verbose.getD default.verbose⟩

/-- Reads the value of a field. A known field occurs once; any other is passed over. -/
def readField? (key : String) (p : Partial) (tokens : List JsonToken) :
    Option (Partial × List JsonToken) :=
  if key = "source_roots" then
    if p.sourceRoots.isSome then none
    else (readTexts? tokens).map fun r => ({ p with sourceRoots := some r.1 }, r.2)
  else if key = "verbose" then
    if p.verbose.isSome then none
    else
      match tokens with
      | .boolean b :: rest => some ({ p with verbose := some b }, rest)
      | _ => none
  else (skipValue? tokens).map fun rest => (p, rest)

theorem length_lt_of_readField? {key : String} {p q : Partial} {tokens rest : List JsonToken}
    (h : readField? key p tokens = some (q, rest)) : rest.length < tokens.length := by
  rw [readField?.eq_def] at h
  have := @length_lt_of_readTexts? tokens
  have := @length_lt_of_skipFrom? [] .value tokens
  grind [skipValue?, Option.map_eq_some_iff]

/-- Reads the fields of an object from a key on. -/
def readFields? (p : Partial) (tokens : List JsonToken) : Option (Partial × List JsonToken) :=
  match tokens with
  | .string (some key) :: .colon :: rest =>
    match _h : readField? key p rest with
    | some (p, .comma :: rest) => readFields? p rest
    | some (p, .closeBrace :: rest) => some (p, rest)
    | _ => none
  | _ => none
termination_by tokens.length
decreasing_by
  have := length_lt_of_readField? _h
  simp only [List.length_cons] at *
  omega

/-- Reads settings from an object, or from an array in the order of the fields. -/
def readSettings? : List JsonToken → Option (Partial × List JsonToken)
  | .openBrace :: .closeBrace :: rest => some (⟨none, none⟩, rest)
  | .openBrace :: rest => readFields? ⟨none, none⟩ rest
  | .openBracket :: .closeBracket :: rest => some (⟨none, none⟩, rest)
  | .openBracket :: rest =>
    match readTexts? rest with
    | some (roots, .closeBracket :: rest) => some (⟨some roots, none⟩, rest)
    | some (roots, .comma :: .boolean b :: .closeBracket :: rest) =>
      some (⟨some roots, some b⟩, rest)
    | _ => none
  | _ => none

/-- The settings that a text holds, and nothing else. -/
def parse? (s : String) : Option Settings := do
  let tokens ← jsonTokens? s
  let (p, rest) ← readSettings? tokens
  if rest.isEmpty then some p.complete else none

def render (c : Settings) : String :=
  "\x7b\"source_roots\":[" ++ String.intercalate "," (c.sourceRoots.map jsonQuoted) ++
    "],\"verbose\":" ++ (if c.verbose then "true" else "false") ++ "\x7d"

end Settings

end Builtins
