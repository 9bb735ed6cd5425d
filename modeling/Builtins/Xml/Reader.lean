import Builtins.Encoding.Label
import Builtins.Xml.Attribute
import Builtins.Xml.Builder
import Builtins.Xml.Reference

/-!
# Reading XML documents

A reader turns bytes into a document. It is permissive: comments, processing instructions and the
document type declaration leave no trace, unknown entities stay as they are written, and only broken
structure is refused.

* `sourceOf` finds the encoding that the first bytes show, and brings UTF-16 into UTF-8.
* `Reader.step` takes one token: it decodes, resolves references and matches tags.
* `parseDocument` reads a document.
-/

namespace Builtins

/-- A text with every line end as one line feed. -/
def unifyLineEnds : List Char → List Char
  | [] => []
  | '\r' :: '\n' :: rest => '\n' :: unifyLineEnds rest
  | '\r' :: rest => '\n' :: unifyLineEnds rest
  | c :: rest => c :: unifyLineEnds rest

theorem cr_not_mem_unifyLineEnds (cs : List Char) : '\r' ∉ unifyLineEnds cs := by
  fun_induction unifyLineEnds cs with
  | case1 => simp
  | case2 rest ih => simp [ih]
  | case3 rest _ ih => simp [ih]
  | case4 c rest _ h ih => simpa [ih] using fun he => h he.symm

/-- Bytes to scan, the encoding they are in, and whether a declaration may still change it. -/
structure Source where
  bytes : Bytes
  encoding : Encoding
  declarable : Bool

/-- The content of a text in UTF-16, if the bytes start like one: with a byte order mark, or with
the start of a declaration. -/
def utf16Content? : Bytes → Option (Encoding × Bytes)
  | 0xFE :: 0xFF :: rest => some (.utf16be, rest)
  | 0xFF :: 0xFE :: rest => some (.utf16le, rest)
  | 0x00 :: 0x3C :: 0x00 :: 0x3F :: rest => some (.utf16be, 0x00 :: 0x3C :: 0x00 :: 0x3F :: rest)
  | 0x3C :: 0x00 :: 0x3F :: 0x00 :: rest => some (.utf16le, 0x3C :: 0x00 :: 0x3F :: 0x00 :: rest)
  | _ => none

/-- The bytes without a byte order mark of UTF-8 at their start. -/
def dropMark : Bytes → Bytes
  | 0xEF :: 0xBB :: 0xBF :: rest => rest
  | bytes => bytes

/-- What a reader scans. UTF-16 is brought into UTF-8, and no declaration changes that. -/
def sourceOf (bytes : Bytes) : Except XmlFault Source :=
  match utf16Content? bytes with
  | none => .ok ⟨dropMark bytes, .utf8, true⟩
  | some (encoding, content) =>
    match encoding.decode? content with
    | some text => .ok ⟨dropMark (utf8 text), .utf8, false⟩
    | none => .error (.invalidUnits encoding)

/-- A reader between two tokens: how it decodes, the undecoded names of the open elements with the
innermost first, and the document so far. -/
structure Reader where
  encoding : Encoding
  declarable : Bool
  names : List Bytes
  builder : Builder

namespace Reader

def start (source : Source) : Reader := ⟨source.encoding, source.declarable, [], Builder.start⟩

def decode (r : Reader) (bytes : Bytes) : Except XmlFault String :=
  match r.encoding.decode? bytes with
  | some s => .ok s
  | none => .error (.undecodable r.encoding)

def emit (r : Reader) (e : Event) : Except XmlFault Reader := do
  let builder ← r.builder.step e
  return { r with builder }

/-- Character content has its line ends unified. -/
def characters (r : Reader) (content : Bytes) : Except XmlFault Reader := do
  let s ← r.decode content
  r.emit (.characters (String.ofList (unifyLineEnds s.toList)))

/-- A reference stands for its character; one to an unknown entity stays as it is written. -/
def reference (r : Reader) (name : Bytes) : Except XmlFault Reader :=
  match r.encoding.decode? name with
  | none => .error (.markup (.undecodableReference r.encoding))
  | some s =>
    match s.toList with
    | '#' :: number =>
      match parseCharRef number with
      | .ok c => r.emit (.characters (String.singleton c))
      | .error fault => .error (.markup (.characterReference fault))
    | cs =>
      match predefinedEntity? cs with
      | some c => r.emit (.characters (String.singleton c))
      | none => r.emit (.characters ("&" ++ s ++ ";"))

/-- An attribute with its references replaced. If one of them is unknown, the value stays as it is
written. -/
def readAttribute (r : Reader) (key value : Bytes) : Except XmlFault Attribute := do
  let key ← r.decode key
  let raw ← r.decode value
  return ⟨key, (unescape? raw).getD raw⟩

/-- The decoded name and attributes of a start tag. -/
def tag (r : Reader) (content : Bytes) : Except XmlFault (String × List Attribute) := do
  let name ← r.decode (tagName content)
  let (pairs, fault?) := scanAttributes true (tagRest content)
  let attributes ← pairs.mapM fun p => r.readAttribute p.1 p.2
  match fault? with
  | some fault => .error (.badAttribute name fault)
  | none => return (name, attributes)

/-- A start tag. Characters before it are settled before it is decoded. -/
def startTag (r : Reader) (content : Bytes) (selfClosing : Bool) : Except XmlFault Reader := do
  let builder ← r.builder.flush
  let r := { r with builder }
  let (name, attributes) ← r.tag content
  if selfClosing then r.emit (.empty name attributes)
  else
    let r ← r.emit (.start name attributes)
    return { r with names := tagName content :: r.names }

/-- An end tag has the name of the innermost open element, byte by byte. -/
def endTag (r : Reader) (content : Bytes) : Except XmlFault Reader :=
  let found := endTagName content
  let shown (name : Bytes) := (r.encoding.decode? name).getD ""
  match r.names with
  | [] => .error (.markup (.unopenedEndTag (shown found)))
  | expected :: names =>
    if expected == found then { r with names }.emit .close
    else .error (.markup (.crossedEndTag (shown expected) (shown found)))

def declarationTarget : Bytes := [0x78, 0x6D, 0x6C]

def encodingKey : Bytes := [0x65, 0x6E, 0x63, 0x6F, 0x64, 0x69, 0x6E, 0x67]

/-- The encoding that an instruction declares, if it is a declaration and the encoding is known. -/
def declaredEncoding? (content : Bytes) : Option Encoding :=
  if content.take 3 == declarationTarget && (content.drop 3).head?.all isMarkupBlank then
    (declaredValue? encodingKey (content.drop 3)).bind Encoding.ofLabel?
  else none

/-- The first declaration of a known encoding fixes the encoding of what follows. -/
def instruction (r : Reader) (content : Bytes) : Reader :=
  if r.declarable then
    match declaredEncoding? content with
    | some encoding => { r with encoding, declarable := false }
    | none => r
  else r

def step (r : Reader) : Token → Except XmlFault Reader
  | .text content => r.characters content
  | .reference name => r.reference name
  | .cdata content => r.characters content
  | .startTag content selfClosing => r.startTag content selfClosing
  | .endTag content => r.endTag content
  | .instruction content => (r.instruction content).emit .ignorable
  | .comment => r.emit .ignorable
  | .doctype => r.emit .ignorable

end Reader

/-- Reads a document. A fault of the scanner counts only after all tokens before it. -/
def parseDocument (bytes : Bytes) : Except XmlFault Document := do
  let source ← sourceOf bytes
  let (tokens, fault?) := scan source.bytes
  let r ← tokens.foldlM Reader.step (Reader.start source)
  match fault? with
  | some fault => .error (.markup fault)
  | none => r.builder.finish

end Builtins
