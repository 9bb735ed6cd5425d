import Builtins.Xml.Document
import Builtins.Xml.Fault
import Builtins.Text.Blank

/-!
# From events to documents

A document is built from a sequence of events. Character content is collected until the next tag, so
that no two text nodes are neighbours, whatever comes between their parts without being a tag.

* `Event` is what a reader finds.
* `Builder.step` takes one event, `Builder.finish` ends the document.
* `buildDocument` runs a whole sequence; it is defined for every sequence, nested or not.
-/

namespace Builtins

/-- What a reader finds in a text. -/
inductive Event where
  | start (name : String) (attributes : List Attribute)
  | empty (name : String) (attributes : List Attribute)
  | close
  | characters (s : String)
  /-- Anything that leaves no trace in the document. -/
  | ignorable
deriving DecidableEq, Repr

/-- A document under construction: its nodes so far, the positions of the open elements with the
innermost first, their number, and the character content since the last tag. -/
structure Builder where
  entries : Array Entry
  path : List Nat
  depth : Nat
  pending : String
  depth_eq : depth = path.length

namespace Builder

def start : Builder := ⟨#[⟨0, .document⟩], [], 0, "", rfl⟩

/-- Whether there is a root element: outside of it no other node is made. -/
def hasRoot (b : Builder) : Bool := 1 < b.entries.size

/-- Adds a node under the innermost open element. -/
def push (b : Builder) (c : Content) : Builder :=
  { b with entries := b.entries.push ⟨b.depth + 1, c⟩ }

/-- Makes the latest node the innermost open element. -/
def enter (b : Builder) : Builder :=
  { b with
    path := (b.entries.size - 1) :: b.path
    depth := b.depth + 1
    depth_eq := by simp [b.depth_eq] }

/-- Closes the innermost open element. -/
def leave (b : Builder) : Builder :=
  { b with path := b.path.tail, depth := b.depth - 1, depth_eq := by simp [b.depth_eq] }

/-- Turns the pending characters into a text node. Outside of the root element they have to be white
space, and are dropped. -/
def flush (b : Builder) : Except XmlFault Builder :=
  if b.pending.isEmpty then .ok b
  else
    match b.path with
    | [] =>
      if (trimBlank b.pending).isEmpty then .ok { b with pending := "" }
      else .error .textOutsideRoot
    | _ :: _ => .ok { b.push (.text b.pending) with pending := "" }

/-- Adds an element; there is only one outside of all others. -/
def addElement (b : Builder) (name : String) (attributes : List Attribute) :
    Except XmlFault Builder :=
  if b.path.isEmpty && b.hasRoot then .error (.secondRoot name)
  else .ok (b.push (.element name attributes))

def step (b : Builder) : Event → Except XmlFault Builder
  | .start name attributes => do
    let b ← b.flush
    let b ← b.addElement name attributes
    return b.enter
  | .empty name attributes => do
    let b ← b.flush
    b.addElement name attributes
  | .close => do
    let b ← b.flush
    if b.path.isEmpty then .error .unopenedEnd else .ok b.leave
  | .characters s => .ok { b with pending := b.pending ++ s }
  | .ignorable => .ok b

def finish (b : Builder) : Except XmlFault Document := do
  let b ← b.flush
  match b.path with
  | i :: _ =>
    .error (.unclosedElement (((b.entries.getD i default).content.name?).getD ""))
  | [] => if b.hasRoot then .ok ⟨b.entries⟩ else .error .noRoot

end Builder

/-- The document that a sequence of events describes. -/
def buildDocument (events : List Event) : Except XmlFault Document :=
  events.foldlM Builder.step Builder.start >>= Builder.finish

end Builtins
