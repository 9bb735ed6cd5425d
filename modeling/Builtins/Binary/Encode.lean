import Builtins.Binary.Base64
import Builtins.Binary.Options
import Builtins.Deflate.Stream

/-!
# Binary content as text

Binary content is written in base64 or as a list of number literals, in one line or in several.

* `joinLiterals` and `splitLiterals` write a list of literals in one line and in several.
* `splitBase64` cuts base64 into lines of equal length.
* `encode` does all that the options ask for.
-/

namespace Builtins

universe u

variable {α : Type u}

def lineLength : Nat := 80

/-- The end of a line in generated text. -/
def lineEnding : String := "\n"

def joinLiterals (literals : List String) : String := String.intercalate "," literals

/-- A text that grows by literals: a line ends before the next one if `due`, and again when the text
has reached `limit` bytes. -/
structure LiteralLines where
  text : String
  limit : Nat
  due : Bool

namespace LiteralLines

def start : LiteralLines := ⟨"", lineLength, false⟩

/-- Adds a literal, after a comma if it is not the first. A text that reaches its limit with it gets
a new line and the limit of that line. -/
def add (eol : String) (s : LiteralLines) (l : String) : LiteralLines :=
  let comma := if s.text.isEmpty then "" else ","
  let text := s.text ++ comma ++ (if s.due then eol else "") ++ l
  if s.limit ≤ text.utf8ByteSize then ⟨text, text.utf8ByteSize + lineLength, true⟩
  else ⟨text, s.limit, false⟩

end LiteralLines

/-- Literals with commas between them, on lines that end behind the comma after the literal that
reached the limit. -/
def splitLiterals (eol : String) (literals : List String) : String :=
  (literals.foldl (LiteralLines.add eol) LiteralLines.start).text

/-- Consecutive pieces of a list, all but the last of the given length. -/
def chunks (n : Nat) (l : List α) : List (List α) :=
  match l with
  | [] => []
  | a :: rest => (a :: rest.take (n - 1)) :: chunks n (rest.drop (n - 1))
termination_by l.length
decreasing_by simp only [List.length_drop, List.length_cons]; omega

/-- Nothing is lost, whatever the length. -/
@[simp]
theorem flatten_chunks (n : Nat) (l : List α) : (chunks n l).flatten = l := by
  fun_induction chunks n l with
  | case1 => rfl
  | case2 a rest ih => simp [ih]

/-- Base64 on lines of equal length, without white space at the ends. Its bytes are cut into pieces,
and the pieces that are UTF-8 are the lines. -/
def splitBase64 (eol : String) (cs : List Char) : String :=
  trimBlank (String.intercalate eol
    ((chunks lineLength (utf8 (String.ofList cs))).filterMap utf8Text?))

def encode (data : Bytes) (options : EncodeOptions) (eol : String) : String :=
  let bytes := if options.compressed then deflate data else data
  match options.form with
  | .base64 =>
    if options.split then splitBase64 eol (base64 bytes)
    else trimBlank (String.ofList (base64 bytes))
  | .literals form =>
    let literals := bytes.map (literal form)
    if options.split then splitLiterals eol literals else joinLiterals literals

end Builtins
