import Builtins.Encoding.Basic

/-!
# Faults of XML text

Why a text is not accepted as an XML document, cause by cause.

* `CharRefFault`: a numeric character reference that names no character.
* `MarkupFault`: markup that does not end or does not nest.
* `AttributeFault`: a start tag whose attributes cannot be read.
* `XmlFault`: all of these, and what is found when the tree is put together.
* `XmlFault.message` is the wording, `XmlFault.cause?` the underlying fault where there is one.
-/

namespace Builtins

/-- Why the digits of a character reference name no character. -/
inductive CharRefFault where
  | signed
  | noDigits
  | invalidDigit
  | tooLarge
  | notACharacter (n : Nat)
  | zero
deriving DecidableEq, Repr

def CharRefFault.message : CharRefFault → String
  | signed => "unexpected number sign"
  | noDigits => "cannot parse integer from empty string"
  | invalidDigit => "invalid digit found in string"
  | tooLarge => "number too large to fit in target type"
  | notACharacter n => s!"`{n}` is not a valid codepoint"
  | zero => "0x0 character is not permitted in XML"

/-- Why a run of markup cannot be read. -/
inductive MarkupFault where
  | unknownMarkup
  | unclosedInstruction
  | unclosedComment
  | unclosedDoctype
  | unclosedCdata
  | unclosedTag
  | unnamedDoctype
  | unopenedEndTag (name : String)
  | crossedEndTag (expected found : String)
  | unclosedReference
  | characterReference (fault : CharRefFault)
  | undecodableReference (encoding : Encoding)
deriving DecidableEq, Repr

/-- The wording for bytes that stand for no text in an encoding. -/
def undecodableMessage (encoding : Encoding) : String :=
  "cannot decode input using " ++ encoding.name

def MarkupFault.message : MarkupFault → String
  | unknownMarkup => "syntax error: unknown or missed symbol in markup"
  | unclosedInstruction =>
    "syntax error: processing instruction or xml declaration not closed: `?>` not found before " ++
      "end of input"
  | unclosedComment => "syntax error: comment not closed: `-->` not found before end of input"
  | unclosedDoctype => "syntax error: DOCTYPE not closed: `>` not found before end of input"
  | unclosedCdata => "syntax error: CDATA not closed: `]]>` not found before end of input"
  | unclosedTag => "syntax error: tag not closed: `>` not found before end of input"
  | unnamedDoctype =>
    "ill-formed document: `<!DOCTYPE>` declaration does not contain a name of a document type"
  | unopenedEndTag name =>
    "ill-formed document: close tag `</" ++ name ++ ">` does not match any open tag"
  | crossedEndTag expected found =>
    "ill-formed document: expected `</" ++ expected ++ ">`, but `</" ++ found ++ ">` was found"
  | unclosedReference =>
    "ill-formed document: entity or character reference not closed: `;` not found before end of " ++
      "input"
  | characterReference fault => "invalid character reference: " ++ fault.message
  | undecodableReference encoding => undecodableMessage encoding

/-- Why the attributes of a start tag cannot be read. -/
inductive AttributeFault where
  | noEquals
  | unquotedValue
  | unclosedValue
  | repeatedKey
deriving DecidableEq, Repr

def AttributeFault.message : AttributeFault → String
  | noEquals => "an attribute key is not followed by an equals sign"
  | unquotedValue => "an attribute value is not quoted"
  | unclosedValue => "an attribute value does not end"
  | repeatedKey => "an attribute key is repeated"

/-- Why a text is not accepted. -/
inductive XmlFault where
  | markup (fault : MarkupFault)
  | undecodable (encoding : Encoding)
  | invalidUnits (encoding : Encoding)
  | badAttribute (element : String) (fault : AttributeFault)
  | textOutsideRoot
  | secondRoot (element : String)
  | unopenedEnd
  | unclosedElement (element : String)
  | noRoot
deriving DecidableEq, Repr

namespace XmlFault

def message : XmlFault → String
  | markup fault => "malformed XML: " ++ fault.message
  | undecodable encoding => "undecodable XML content: " ++ undecodableMessage encoding
  | invalidUnits encoding => "invalid " ++ encoding.name ++ " content"
  | badAttribute element _ => "invalid attribute on <" ++ element ++ ">"
  | textOutsideRoot => "text content outside of the root element"
  | secondRoot element => "second root element <" ++ element ++ ">"
  | unopenedEnd => "closing tag without matching opening tag"
  | unclosedElement element => "unclosed element <" ++ element ++ ">"
  | noRoot => "document has no root element"

/-- The underlying fault, for those found below the level of the tree. -/
def cause? : XmlFault → Option String
  | markup fault => some fault.message
  | undecodable encoding => some (undecodableMessage encoding)
  | badAttribute _ fault => some fault.message
  | _ => none

end XmlFault

end Builtins
