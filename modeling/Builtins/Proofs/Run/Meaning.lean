import Builtins.Proofs.Run.History

/-!
# What handles stand for

A handle is only a text.  What it stands for is settled by the calls that gave it, with no cache in
between: a path stands for the document of its first successful load, and every further handle for what
the tree functions give on what its parent stands for.

* `Place`, `Meaning` — a node of a loaded document, and what a handle may stand for;
* `Query`, `Meaning.answer` — what can be asked of a handle, and the answer of the tree functions;
* `Denotes` — what a handle stands for after a history.
-/

namespace Builtins

/-! ### Places and meanings -/

/-- A node of a document that was loaded, with the path as it is shown. -/
structure Place where
  shown : String
  document : Document
  index : Nat
deriving DecidableEq

namespace Place

/-- The document itself. -/
def top (shown : String) (d : Document) : Place := ⟨shown, d, 0⟩

/-- Another node of the same document. -/
def moved (p : Place) (i : Nat) : Place := { p with index := i }

/-- The root element. -/
def root (p : Place) : Place := p.moved Document.rootIndex

def content (p : Place) : Content := (p.document.entry p.index).content

/-- The element that is meant: a document means its root element. -/
def element (p : Place) : Place := if p.content.kind = .document then p.root else p

def elementsByTag (p : Place) (tag : String) : List Place :=
  (p.document.elementsByTag p.index tag).map p.moved

def textContent (p : Place) : String := p.document.textContent p.index

/-- The place of a list at an index, if the index is one of the list. -/
def at? (ps : List Place) (index : Int64) : Option Place :=
  if index.toInt < 0 then none else ps[index.toInt.toNat]?

end Place

/-- What a handle may stand for. -/
inductive Meaning where
  | node (p : Place)
  | list (ps : List Place)
deriving DecidableEq

/-! ### Questions and answers -/

/-- What can be asked of a handle. -/
inductive Query where
  | root
  | list (tag : String)
  | size
  | get (index : Int64)
  | name
  | text
  | attr (key : String)
deriving DecidableEq

/-- The call that asks it. -/
def Query.on (handle : String) : Query → Operation
  | root => .documentRoot handle
  | list tag => .elementsByTag handle tag
  | size => .listSize handle
  | get index => .listElement handle index
  | name => .elementName handle
  | text => .elementText handle
  | attr key => .elementAttribute handle key

/-- What a call should give: a value, a handle that stands for something, or a refusal. -/
inductive Answer where
  | value (v : Value)
  | handle (m : Meaning)
  | refused (code : FaultCode)

/-- The answer of the tree functions. Sizes are given up to the largest integer there is. -/
def Meaning.answer : Meaning → Query → Answer
  | .node p, .root => if p.index = 0 then .handle (.node p.root) else .refused .typeMismatch
  | .node p, .list tag => .handle (.list (p.elementsByTag tag))
  | .node p, .name => .value (.string (p.element.content.name?.getD ""))
  | .node p, .text => .value (.string p.element.textContent)
  | .node p, .attr key => .value (.string ((p.element.content.attribute? key).getD ""))
  | .list ps, .size => .value (.int (Int64.ofNat (min ps.length 0x7FFFFFFFFFFFFFFF)))
  | .list ps, .get index =>
    match Place.at? ps index with
    | some p => .handle (.node p)
    | none => .refused .indexOutOfRange
  | .node _, .size => .refused .typeMismatch
  | .node _, .get _ => .refused .typeMismatch
  | .list _, .root => .refused .typeMismatch
  | .list _, .list _ => .refused .typeMismatch
  | .list _, .name => .refused .typeMismatch
  | .list _, .text => .refused .typeMismatch
  | .list _, .attr _ => .refused .typeMismatch

/-! ### Denotation -/

/-- What a handle stands for after a history. -/
inductive Denotes (loader : Loader) (history : List Reply) : String → Meaning → Prop
  | opened {e : Reply} {h : Host} {name handle : String} {path : DiskPath} {d : Document} :
      e ∈ history → e.request = (Operation.openDocument name).request h →
        e.result = .ok (.string handle) → h.resolve name = .ok path →
          firstLoad? loader history path = some d →
            Denotes loader history handle (.node (.top path.display d))
  | root {e : Reply} {h : Host} {parent handle : String} {p : Place} :
      e ∈ history → e.request = (Query.root.on parent).request h →
        e.result = .ok (.string handle) → Denotes loader history parent (.node p) →
          Denotes loader history handle (.node p.root)
  | list {e : Reply} {h : Host} {parent handle tag : String} {p : Place} :
      e ∈ history → e.request = ((Query.list tag).on parent).request h →
        e.result = .ok (.string handle) → Denotes loader history parent (.node p) →
          Denotes loader history handle (.list (p.elementsByTag tag))
  | get {e : Reply} {h : Host} {parent handle : String} {index : Int64} {ps : List Place}
      {p : Place} :
      e ∈ history → e.request = ((Query.get index).on parent).request h →
        e.result = .ok (.string handle) → Denotes loader history parent (.list ps) →
          Place.at? ps index = some p → Denotes loader history handle (.node p)
  /-- The handle of the root element is known as soon as that of the document is, so it can be used
  before anyone asks for it. -/
  | unasked {parent : String} {p : Place} :
      Denotes loader history parent (.node p) → p.index = 0 →
        Denotes loader history (rootKey parent) (.node p.root)

/-- What a handle stands for does not depend on what comes later. -/
theorem Denotes.append {loader : Loader} {history : List Reply} {handle : String} {m : Meaning}
    (h : Denotes loader history handle m) (later : List Reply) :
    Denotes loader (history ++ later) handle m := by
  induction h with
  | opened hmem hreq hres hpath hload =>
    exact .opened (List.mem_append_left _ hmem) hreq hres hpath (firstLoad?_append hload)
  | root hmem hreq hres _ ih => exact .root (List.mem_append_left _ hmem) hreq hres ih
  | list hmem hreq hres _ ih => exact .list (List.mem_append_left _ hmem) hreq hres ih
  | get hmem hreq hres _ hat ih => exact .get (List.mem_append_left _ hmem) hreq hres ih hat
  | unasked _ hindex ih => exact .unasked ih hindex

/-- A result is the answer that was to be given, if `denotes` tells what handles stand for. -/
def Answer.Given (denotes : String → Meaning → Prop) (result : Except Fault Value) :
    Answer → Prop
  | value v => result = .ok v
  | handle m => ∃ s, result = .ok (.string s) ∧ denotes s m
  | refused code => ∃ fault, result = .error fault ∧ fault.code = code

end Builtins
