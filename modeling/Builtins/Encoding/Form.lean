import Builtins.Bytes
import Builtins.Encoding.Repertoire

/-!
# Characters of several bytes

A sequence of bytes stands for characters by its form: each place has its own bytes, which count as the
digits of a number, and the number is looked up.

* `Digits.number?` reads a number, `Form` says what it stands for.
* `readForms` tells how far some bytes are, in an encoding with given forms.
* `ByteDecoder` decodes byte by byte, and `formDecoder` does so by forms alone.
-/

namespace Builtins

/-- The bytes that may stand in one place, as ranges: the first byte of the first range is the digit 0. -/
abbrev Digits := List (UInt8 × UInt8)

namespace Digits

def count : Digits → Nat
  | [] => 0
  | (first, last) :: rest => last.toNat - first.toNat + 1 + count rest

def value? : Digits → UInt8 → Option Nat
  | [], _ => none
  | (first, last) :: rest, b =>
    if first ≤ b && b ≤ last then some (b.toNat - first.toNat)
    else (value? rest b).map (last.toNat - first.toNat + 1 + ·)

/-- The number that bytes write after the places before, and the places that are left. -/
def number? : List Digits → Bytes → Nat → Option (Nat × List Digits)
  | places, [], n => some (n, places)
  | [], _ :: _, _ => none
  | digits :: places, b :: bytes, n => do
    let v ← digits.value? b
    number? places bytes (n * digits.count + v)

end Digits

/-- How far some bytes are: they begin a character, are one, or neither. A few sequences of bytes stand
for two characters. -/
inductive Reading where
  | begun
  | whole (cs : List Char)
  | invalid
deriving DecidableEq

/-- The places of a sequence of bytes, and what its number stands for. -/
structure Form where
  places : List Digits
  chars? : Nat → Option (List Char)

namespace Form

def ofChar? (places : List Digits) (char? : Nat → Option Char) : Form :=
  ⟨places, fun n => (char? n).map ([·])⟩

/-- The bytes of a range, one by one, for the characters from `code` on. -/
def single (first last : UInt8) (code : Nat) : Form :=
  ofChar? [[(first, last)]] (CodeRun.char? [⟨0, code, last.toNat - first.toNat + 1⟩])

def ascii : Form := single 0x00 0x7F 0x00

/-- How far some bytes are, if they are of the form so far. -/
def reading? (form : Form) (bytes : Bytes) : Option Reading :=
  match Digits.number? form.places bytes 0 with
  | none => none
  | some (n, []) => some ((form.chars? n).elim .invalid .whole)
  | some (_, _ :: _) => some .begun

end Form

/-- The first form that some bytes are of decides. -/
def readForms (forms : List Form) (bytes : Bytes) : Reading :=
  (forms.findSome? (·.reading? bytes)).getD .invalid

/-- A decoder that takes one byte at a time: what the byte makes of the state, with the characters that it
completes, and whether the bytes may end in a state. -/
structure ByteDecoder (State : Type) where
  start : State
  step : State → UInt8 → Option (State × List Char)
  mayEnd : State → Bool

namespace ByteDecoder

variable {State : Type}

def chars? (d : ByteDecoder State) : State → Bytes → Option (List Char)
  | s, [] => if d.mayEnd s then some [] else none
  | s, b :: bytes =>
    match d.step s b with
    | none => none
    | some (s, cs) => (chars? d s bytes).map (cs ++ ·)

def decode? (d : ByteDecoder State) (bytes : Bytes) : Option String :=
  (d.chars? d.start bytes).map String.ofList

end ByteDecoder

/-- The state holds the bytes of a character that is not complete. -/
def formDecoder (forms : List Form) : ByteDecoder Bytes where
  start := []
  step pending b :=
    match readForms forms (pending ++ [b]) with
    | .begun => some (pending ++ [b], [])
    | .whole cs => some ([], cs)
    | .invalid => none
  mayEnd pending := pending.isEmpty

end Builtins
