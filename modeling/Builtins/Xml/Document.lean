import Builtins.Bytes

/-!
# Documents as outlines

A document is the list of its nodes in document order, each with its depth. The depths alone
determine the tree: the nodes below a node are the deeper ones that follow it without a break, its
children are those of them one level down, and its parent is the last node before it on a lesser
level.

* `Entry` is a node with its depth, `Document` the outline.
* `below`, `children`, `parent?` are the axes, by position in document order.
* `textContent` and `elementsByTag` are the queries.
-/

namespace Builtins

structure Attribute where
  key : String
  value : String
deriving DecidableEq, Repr

inductive NodeKind where
  | document
  | element
  | text
deriving DecidableEq, Repr

/-- What a node holds, apart from the nodes below it. -/
inductive Content where
  | document
  | element (name : String) (attributes : List Attribute)
  | text (s : String)
deriving DecidableEq, Repr

namespace Content

instance : Inhabited Content := ⟨document⟩

def kind : Content → NodeKind
  | document => .document
  | element _ _ => .element
  | text _ => .text

def name? : Content → Option String
  | element name _ => some name
  | _ => none

def ownText : Content → String
  | text s => s
  | _ => ""

/-- The value of the first attribute with a given key. -/
def attribute? (c : Content) (key : String) : Option String :=
  match c with
  | element _ attributes => (attributes.find? (·.key == key)).map (·.value)
  | _ => none

/-- Whether a tag query finds this node; the star finds every element. -/
def matchesTag (tag : String) : Content → Bool
  | element name _ => tag == "*" || name == tag
  | _ => false

end Content

/-- A node of an outline. -/
structure Entry where
  depth : Nat
  content : Content
deriving DecidableEq, Repr

instance : Inhabited Entry := ⟨⟨0, default⟩⟩

/-- The nodes of a document in document order. The first is the document itself, the second its root
element. -/
structure Document where
  entries : Array Entry
deriving DecidableEq

namespace Document

instance : Inhabited Document := ⟨⟨#[]⟩⟩

/-- The position of the root element: nothing comes before it but the document itself. -/
def rootIndex : Nat := 1

/-- The node at a position, or an empty one past the end. -/
def entry (d : Document) (i : Nat) : Entry := d.entries.getD i default

/-- The nodes with their positions. -/
def positioned (d : Document) : List (Entry × Nat) := d.entries.toList.zipIdx

def below (d : Document) (i : Nat) : List (Entry × Nat) :=
  (d.positioned.drop (i + 1)).takeWhile fun e => (d.entry i).depth < e.1.depth

def children (d : Document) (i : Nat) : List Nat :=
  ((d.below i).filter fun e => e.1.depth == (d.entry i).depth + 1).map (·.2)

def parent? (d : Document) (i : Nat) : Option Nat :=
  ((d.positioned.take i).reverse.find? fun e => e.1.depth < (d.entry i).depth).map (·.2)

/-- The text of a node and of all nodes below it, in document order. -/
def textContent (d : Document) (i : Nat) : String :=
  (d.entry i).content.ownText ++ String.join ((d.below i).map fun e => e.1.content.ownText)

/-- The positions of the elements below a node that a tag query finds. -/
def elementsByTag (d : Document) (i : Nat) (tag : String) : List Nat :=
  ((d.below i).filter fun e => e.1.content.matchesTag tag).map (·.2)

end Document

/-- A node of a document that was loaded at some time. Two loads of the same bytes give different
nodes: `load` tells them apart. -/
structure Node where
  load : UInt64
  document : Document
  index : Nat

namespace Node

def ofDocument (load : UInt64) (d : Document) : Node := ⟨load, d, 0⟩

def rootOf (load : UInt64) (d : Document) : Node := ⟨load, d, Document.rootIndex⟩

def moved (n : Node) (i : Nat) : Node := { n with index := i }

/-- Whether two nodes are the same node of the same load. -/
def same (a b : Node) : Bool := a.load == b.load && a.index == b.index

def content (n : Node) : Content := (n.document.entry n.index).content

def kind (n : Node) : NodeKind := n.content.kind

def name? (n : Node) : Option String := n.content.name?

def attribute? (n : Node) (key : String) : Option String := n.content.attribute? key

def parent? (n : Node) : Option Node := (n.document.parent? n.index).map n.moved

def children (n : Node) : List Node := (n.document.children n.index).map n.moved

def ownerRoot (n : Node) : Node := n.moved Document.rootIndex

def textContent (n : Node) : String := n.document.textContent n.index

def elementsByTag (n : Node) (tag : String) : List Node :=
  (n.document.elementsByTag n.index tag).map n.moved

end Node

end Builtins
