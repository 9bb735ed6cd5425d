import Builtins.Binary.Literal
import Builtins.Fault
import Builtins.Text.Blank
import Builtins.Text.Lowercase

/-!
# Encoding options

How binary content is written as text is named by a token: the form, followed by anything that may
hold the letters for splitting and for compression.

* `BinaryForm` is the form; `BinaryForm.token` its canonical name.
* `EncodeOptions.parse` reads a token, whatever its case and the white space around it.
-/

namespace Builtins

/-- The textual form of binary content. -/
inductive BinaryForm where
  | base64
  | literals (form : LiteralForm)
deriving DecidableEq, Repr

namespace BinaryForm

/-- The forms in the order in which a token is compared with them. -/
def all : List BinaryForm :=
  [base64, literals .hexadecimal, literals .unsigned, literals .signed]

def token : BinaryForm → String
  | base64 => "base64"
  | literals .hexadecimal => "byte[]"
  | literals .unsigned => "uint8[]"
  | literals .signed => "int8[]"

end BinaryForm

/-- A form, and whether the content is compressed before and split into lines after. -/
structure EncodeOptions where
  form : BinaryForm
  split : Bool
  compressed : Bool
deriving DecidableEq, Repr

namespace EncodeOptions

def parse (token : String) : Except Fault EncodeOptions :=
  let normal := (lowercase (trimBlank token)).toList
  let found := BinaryForm.all.findSome? fun form =>
    (dropStart? form.token.toList normal).map fun flags => (form, flags)
  match found with
  | some (form, flags) => .ok ⟨form, flags.contains 's', flags.contains 'd'⟩
  | none => .error (.unsupportedEncoding token)

end EncodeOptions

end Builtins
