import Builtins.Binary.Base64
import Builtins.Binary.Options

/-!
# Binary content from text

The reader beside the writer of binary content. It needs to know the form only: how a text was cut
into lines does not count, and compressed content is given back as it is.

* `literalBytes?` reads a list of literals.
* `decode?` reads a text in a given form.
-/

namespace Builtins

/-- The bytes of literals with commas between them, and with white space around them. -/
def literalBytes? (form : LiteralForm) (cs : List Char) : Option Bytes :=
  if cs.isEmpty then some []
  else (cs.splitOn ',').mapM fun piece => literalByte? form (trimBlankList piece)

def decode? (form : BinaryForm) (text : String) : Option Bytes :=
  match form with
  | .base64 => base64Bytes? (text.toList.filter fun c => !isBlank c)
  | .literals form => literalBytes? form text.toList

end Builtins
