/-!
# Repertoires of characters

The encodings of East Asia number their characters, with gaps between them. A repertoire is a list of
runs: characters whose numbers follow one another.

* `CharRun` spells its characters out, `CodeRun` counts their code points.
* `CharRun.char?` and `CodeRun.char?` find the character with a number.
-/

namespace Builtins

/-- Characters with the numbers from `first` on. ASCII among them marks a number without a character. -/
structure CharRun where
  first : Nat
  chars : String

/-- The character with a number, in runs that are in ascending order. -/
def CharRun.char? (runs : List CharRun) (n : Nat) : Option Char := do
  let run ← (runs.takeWhile (·.first ≤ n)).getLast?
  (run.chars.toList[n - run.first]?).filter (0x80 ≤ ·.toNat)

/-- So many numbers from `first` on, for the characters from `code` on. -/
structure CodeRun where
  first : Nat
  code : Nat
  length : Nat

def CodeRun.char? (runs : List CodeRun) (n : Nat) : Option Char :=
  (runs.find? fun run => run.first ≤ n && n < run.first + run.length).map fun run =>
    Char.ofNat (run.code + (n - run.first))

end Builtins
