import Builtins.Encoding.CodePage
import Builtins.Encoding.MultiByte
import Builtins.Encoding.Utf16

/-!
# Text encodings

An `Encoding` tells how bytes stand for characters. Decoding is strict: it fails on bytes that no
text encodes to, and never puts a substitute.

* `Encoding.name` is the registered name.
* `Encoding.decode?` decodes.
-/

namespace Builtins

/-- The encodings that a document may be in. The replacement encoding stands for several that are
never decoded. -/
inductive Encoding where
  | utf8
  | utf16le
  | utf16be
  | page (page : CodePage)
  | gbk
  | gb18030
  | big5
  | eucJp
  | iso2022Jp
  | shiftJis
  | eucKr
  | replacement
deriving DecidableEq, Repr

namespace Encoding

def name : Encoding → String
  | utf8 => "UTF-8"
  | utf16le => "UTF-16LE"
  | utf16be => "UTF-16BE"
  | page p => p.name
  | gbk => "GBK"
  | gb18030 => "gb18030"
  | big5 => "Big5"
  | eucJp => "EUC-JP"
  | iso2022Jp => "ISO-2022-JP"
  | shiftJis => "Shift_JIS"
  | eucKr => "EUC-KR"
  | replacement => "replacement"

/-- The text that a list of bytes stands for, if there is one. -/
def decode? : Encoding → Bytes → Option String
  | utf8, bytes => utf8Text? bytes
  | utf16le, bytes => utf16Text? false bytes
  | utf16be, bytes => utf16Text? true bytes
  | page p, bytes => (bytes.mapM p.char?).map String.ofList
  | gbk, bytes => (formDecoder chineseForms).decode? bytes
  | gb18030, bytes => (formDecoder chineseForms).decode? bytes
  | big5, bytes => (formDecoder big5Forms).decode? bytes
  | eucJp, bytes => (formDecoder eucJpForms).decode? bytes
  | iso2022Jp, bytes => Iso2022Jp.decoder.decode? bytes
  | shiftJis, bytes => (formDecoder shiftJisForms).decode? bytes
  | eucKr, bytes => (formDecoder eucKrForms).decode? bytes
  | replacement, bytes => if bytes.isEmpty then some "" else none

end Encoding

end Builtins
