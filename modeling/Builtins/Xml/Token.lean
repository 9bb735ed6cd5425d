import Builtins.Xml.Fault

/-!
# Tokens of XML text

The scanner cuts a byte sequence into tokens. It looks at ASCII bytes only and needs to know neither
the encoding nor which elements are open: markup is recognised by how it starts and where it ends.

* `ScanMode` is where the scanner stands, with what it has read since the last token.
* `ScanMode.step` reads one byte, and gives a token if that byte completes one.
* `scan` gives all tokens of a text, and the fault that ends them, if any.
-/

namespace Builtins

/-- A piece of XML text. Names, attributes and content are still undecoded. -/
inductive Token where
  /-- Character content up to the next markup or reference. -/
  | text (content : Bytes)
  /-- What stands between an ampersand and a semicolon. -/
  | reference (name : Bytes)
  /-- The content of a CDATA section. -/
  | cdata (content : Bytes)
  /-- What stands in a start tag, or in a tag that closes itself. -/
  | startTag (content : Bytes) (selfClosing : Bool)
  /-- What stands in an end tag after the slash. -/
  | endTag (content : Bytes)
  /-- What stands between the question marks of a processing instruction. -/
  | instruction (content : Bytes)
  | comment
  | doctype
deriving DecidableEq, Repr

/-- The white space of markup: space, tab, line feed and carriage return. -/
def isMarkupBlank (b : UInt8) : Bool := b == 0x20 || b == 0x9 || b == 0xA || b == 0xD

/-- Where the scanner stands. Each run holds the bytes since the last token, the latest first. -/
inductive ScanMode where
  | text (run : Bytes)
  | reference (run : Bytes)
  /-- After `<`. -/
  | opened
  /-- After `<!`. -/
  | declared
  | comment (run : Bytes)
  | cdata (run : Bytes)
  /-- In a document type declaration, with the number of `<` that are still open. -/
  | doctype (run : Bytes) (depth : Nat)
  | instruction (run : Bytes)
  /-- In a tag, with the quote that is still open. -/
  | tag (closing : Bool) (run : Bytes) (quote : Option UInt8)
  | failed (fault : MarkupFault)
deriving DecidableEq, Repr

namespace ScanMode

/-- The mode after the byte that starts a tag, given by its position in the tag. -/
def inTag (closing : Bool) (run : Bytes) : UInt8 → ScanMode × Option Token
  | b =>
    if b == 0x3E then
      if closing then (text [], some (.endTag run.reverse))
      else if run.head? == some 0x2F then (text [], some (.startTag run.tail.reverse true))
      else (text [], some (.startTag run.reverse false))
    else
      let quote := if b == 0x27 || b == 0x22 then some b else none
      (tag closing (b :: run) quote, none)

/-- A comment ends at `-->` that does not overlap its opening. -/
def endComment (run : Bytes) : ScanMode × Option Token :=
  if run.reverse.take 2 == [0x2D, 0x2D] then (text [], some .comment)
  else (failed .unclosedComment, none)

def cdataOpening : Bytes := [0x5B, 0x43, 0x44, 0x41, 0x54, 0x41, 0x5B]

/-- A CDATA section has its opening in capitals; its content stands before `]]`. -/
def endCdata (run : Bytes) : ScanMode × Option Token :=
  if run.reverse.take 7 == cdataOpening then
    (text [], some (.cdata ((run.drop 2).reverse.drop 7)))
  else (failed .unclosedCdata, none)

def doctypeOpening : Bytes := [0x44, 0x4F, 0x43, 0x54, 0x59, 0x50, 0x45]

/-- An ASCII letter as a capital. -/
def upperByte (b : UInt8) : UInt8 := if 0x61 ≤ b && b ≤ 0x7A then b - 0x20 else b

/-- A document type declaration needs its keyword, in any case, and a name. -/
def endDoctype (run : Bytes) : ScanMode × Option Token :=
  let content := run.reverse
  if (content.take 7).map upperByte == doctypeOpening then
    if (content.drop 7).all isMarkupBlank then (failed .unnamedDoctype, none)
    else (text [], some .doctype)
  else (failed .unclosedDoctype, none)

/-- The question mark that ends an instruction may be the one that starts it, but then the
instruction is not complete. -/
def endInstruction (run : Bytes) : ScanMode × Option Token :=
  if run.isEmpty then (failed .unclosedInstruction, none)
  else (text [], some (.instruction run.tail.reverse))

/-- The token of a run of character content, if it is not empty. -/
def textToken (run : Bytes) : Option Token :=
  if run.isEmpty then none else some (.text run.reverse)

def step : ScanMode → UInt8 → ScanMode × Option Token
  | text run, b =>
    if b == 0x3C then (opened, textToken run)
    else if b == 0x26 then (reference [], textToken run)
    else (text (b :: run), none)
  | reference run, b =>
    if b == 0x3B then (text [], some (.reference run.reverse))
    else if b == 0x26 || b == 0x3C then (failed .unclosedReference, none)
    else (reference (b :: run), none)
  | opened, b =>
    if b == 0x21 then (declared, none)
    else if b == 0x3F then (instruction [], none)
    else if b == 0x2F then (tag true [] none, none)
    else inTag false [] b
  | declared, b =>
    if b == 0x5B then (cdata [b], none)
    else if b == 0x2D then (comment [b], none)
    else if upperByte b == 0x44 then (doctype [b] 0, none)
    else (failed .unknownMarkup, none)
  | comment run, b =>
    if b == 0x3E && run.take 2 == [0x2D, 0x2D] && 4 ≤ run.length then endComment run
    else (comment (b :: run), none)
  | cdata run, b =>
    if b == 0x3E && run.take 2 == [0x5D, 0x5D] then endCdata run
    else (cdata (b :: run), none)
  | doctype run depth, b =>
    if b == 0x3E then
      if depth = 0 then endDoctype run else (doctype (b :: run) (depth - 1), none)
    else if b == 0x3C then (doctype (b :: run) (depth + 1), none)
    else (doctype (b :: run) depth, none)
  | instruction run, b =>
    if b == 0x3E && (run.isEmpty || run.head? == some 0x3F) then endInstruction run
    else (instruction (b :: run), none)
  | tag closing run none, b => inTag closing run b
  | tag closing run (some q), b =>
    (tag closing (b :: run) (if b == q then none else some q), none)
  | failed fault, _ => (failed fault, none)

/-- The last token and the fault of a text that ends here. -/
def finish : ScanMode → Option Token × Option MarkupFault
  | text run => (textToken run, none)
  | reference _ => (none, some .unclosedReference)
  | opened => (none, some .unclosedTag)
  | declared => (none, some .unknownMarkup)
  | comment _ => (none, some .unclosedComment)
  | cdata _ => (none, some .unclosedCdata)
  | doctype _ _ => (none, some .unclosedDoctype)
  | instruction _ => (none, some .unclosedInstruction)
  | tag _ _ _ => (none, some .unclosedTag)
  | failed fault => (none, some fault)

end ScanMode

/-- The scanner after some bytes: its mode and the tokens so far, the latest first. -/
structure Scan where
  mode : ScanMode
  tokens : List Token

namespace Scan

def start : Scan := ⟨.text [], []⟩

def step (s : Scan) (b : UInt8) : Scan :=
  let next := s.mode.step b
  ⟨next.1, next.2.toList ++ s.tokens⟩

/-- All tokens in order, and the fault that ends them. -/
def finish (s : Scan) : List Token × Option MarkupFault :=
  let last := s.mode.finish
  ((last.1.toList ++ s.tokens).reverse, last.2)

end Scan

/-- The tokens of a text, and the fault that ends them, if any. -/
def scan (bytes : Bytes) : List Token × Option MarkupFault :=
  (bytes.foldl Scan.step Scan.start).finish

end Builtins
