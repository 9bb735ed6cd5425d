import Builtins.Encoding.Big5
import Builtins.Encoding.Chinese
import Builtins.Encoding.Form
import Builtins.Encoding.Jis0208
import Builtins.Encoding.Jis0212
import Builtins.Encoding.Korean

/-!
# Multi-byte encodings

In five encodings the bytes alone tell where a character ends, so that each of them is a list of forms.
ISO-2022-JP changes its characters by escapes.

* `shiftJisForms`, `eucJpForms`, `eucKrForms`, `big5Forms`, `chineseForms` are the forms.
* `Iso2022Jp.decoder` reads a byte in a mode.
-/

namespace Builtins

/-- The bytes from 0xA1 on count the rows and the cells of a national standard. -/
def eucDigits : Digits := [(0xA1, 0xFE)]

/-- Numbers beyond the rows of the standard are for private use, save those of an addition. -/
def shiftJisChar? (n : Nat) : Option Char :=
  (CodeRun.char? [⟨8836, 0xE000, 1880⟩] n).or (CharRun.char? jis0208 n)

def shiftJisForms : List Form :=
  [.ascii, .single 0x80 0x80 0x80, .single 0xA1 0xDF 0xFF61,
    .ofChar? [[(0x81, 0x9F), (0xE0, 0xFC)], [(0x40, 0x7E), (0x80, 0xFC)]] shiftJisChar?]

def eucJpForms : List Form :=
  [.ascii, .ofChar? [[(0x8E, 0x8E)], [(0xA1, 0xDF)]] (CodeRun.char? [⟨0, 0xFF61, 63⟩]),
    .ofChar? [[(0x8F, 0x8F)], eucDigits, eucDigits] (CharRun.char? jis0212),
    .ofChar? [eucDigits, eucDigits] (CharRun.char? jis0208)]

def eucKrForms : List Form :=
  [.ascii, .ofChar? [[(0x81, 0xFE)], [(0x41, 0xFE)]] (CharRun.char? korean)]

def big5Chars? (n : Nat) : Option (List Char) :=
  match big5Marked.lookup n with
  | some cs => some cs
  | none => (CharRun.char? big5 n).map ([·])

def big5Forms : List Form :=
  [.ascii, ⟨[[(0x81, 0xFE)], [(0x40, 0x7E), (0xA1, 0xFE)]], big5Chars?⟩]

def gbkChar? (n : Nat) : Option Char := (CodeRun.char? gbkPrivate n).or (CharRun.char? gbk n)

/-- The forms of GBK and gb18030, which are decoded alike. -/
def chineseForms : List Form :=
  [.ascii, .single 0x80 0x80 0x20AC,
    .ofChar? [[(0x81, 0xFE)], [(0x40, 0x7E), (0x80, 0xFE)]] gbkChar?,
    .ofChar? [[(0x81, 0xFE)], [(0x30, 0x39)], [(0x81, 0xFE)], [(0x30, 0x39)]]
      (CodeRun.char? gb18030Quads)]

namespace Iso2022Jp

/-- The characters that bytes stand for until the next escape. -/
inductive Mode where
  | ascii
  | roman
  | katakana
  | kanji
deriving DecidableEq

/-- ASCII without the controls that shift or escape. -/
def Mode.forms : Mode → List Form
  | ascii => [.single 0x00 0x0D 0x00, .single 0x10 0x1A 0x10, .single 0x1C 0x7F 0x1C]
  | roman =>
    [.single 0x00 0x0D 0x00, .single 0x10 0x1A 0x10, .single 0x1C 0x5B 0x1C, .single 0x5C 0x5C 0xA5,
      .single 0x5D 0x7D 0x5D, .single 0x7E 0x7E 0x203E, .single 0x7F 0x7F 0x7F]
  | katakana => [.single 0x21 0x5F 0xFF61]
  | kanji => [.ofChar? [[(0x21, 0x7E)], [(0x21, 0x7E)]] (CharRun.char? jis0208)]

def escapes : List (Bytes × Mode) :=
  [([0x1B, 0x28, 0x42], .ascii), ([0x1B, 0x28, 0x4A], .roman), ([0x1B, 0x28, 0x49], .katakana),
    ([0x1B, 0x24, 0x40], .kanji), ([0x1B, 0x24, 0x42], .kanji)]

/-- The mode, the bytes of a character or an escape that is not complete, and whether there has been
nothing since the last escape. -/
structure State where
  mode : Mode
  pending : Bytes
  escaped : Bool

/-- An escape that follows another one without a character between them is refused. -/
def step (s : State) (b : UInt8) : Option (State × List Char) :=
  let bytes := s.pending ++ [b]
  match escapes.lookup bytes with
  | some mode => if s.escaped then none else some (⟨mode, [], true⟩, [])
  | none =>
    if escapes.any fun escape => bytes.isPrefixOf escape.1 then some ({ s with pending := bytes }, [])
    else
      match readForms s.mode.forms bytes with
      | .begun => some ({ s with pending := bytes }, [])
      | .whole cs => some (⟨s.mode, [], false⟩, cs)
      | .invalid => none

def decoder : ByteDecoder State where
  start := ⟨.ascii, [], false⟩
  step := step
  mayEnd s := s.pending.isEmpty

end Iso2022Jp

end Builtins
