import Builtins.Call
import Builtins.Resource.Handle
import Builtins.Xml.Reader

/-!
# Navigating XML documents

Documents are opened once per run and navigated through handles. Each operation first looks whether
the handle it would give is already there, so repeating it neither loads nor searches again. Whatever
may fail comes before anything is stored.

* `Loader` turns a path into a document.
* `openDocument`, `documentRoot`, `elementsByTag` and `listElement` give handles.
* `listSize` and `elementAt` give what a handle stands for.
-/

namespace Builtins

/-- Turns a path into a document. The label tells in the notices which loader was at work. -/
structure Loader where
  label : String
  load : Host → DiskPath → Except Fault Document

namespace Loader

def parsing (label : String) : Loader where
  label := label
  load h path :=
    match h.read path with
    | .error reason => .error (.unreadable .xml path.display reason)
    | .ok bytes =>
      match parseDocument bytes with
      | .error reason => .error (.malformed reason path.display)
      | .ok document => .ok document

/-- Loads a document and notes the attempt. -/
def run (l : Loader) (path : DiskPath) : Call Document := do
  let result := l.load (← read) path
  Call.note (.load l.label path result.isOk)
  Call.ofExcept result

end Loader

/-- The kinds of handles that stand for one node. -/
def nodeHandles : List ResourceKind := [.document, .element]

def singleNode (c : Container) (handle : String) : Except Fault Node :=
  match c.node? with
  | some n => .ok n
  | none => .error (.holdsNodeList handle)

/-- Opens a document and stores it with its root element. Gives the handle of the document. -/
def openDocument (loader : Loader) (name : String) : Call String := do
  let path ← Call.resolve name
  let key := documentKey path
  if ← Call.isCached key then
    return key
  Call.tell s!"parsing XML document '{path.display}'"
  let document ← loader.run path
  let uid ← Call.takeUid
  let rootUid ← Call.takeUid
  Call.store (rootKey key) (.element ⟨rootUid, .node (Node.rootOf uid document)⟩)
  Call.store key (.document ⟨uid, .node (Node.ofDocument uid document)⟩)
  return key

def documentRoot (handle : String) : Call String := do
  let container ← Call.expect handle [.document]
  let key := rootKey handle
  if ← Call.isCached key then
    return key
  let node ← Call.ofExcept (singleNode container handle)
  let uid ← Call.takeUid
  Call.store key (.element ⟨uid, .node node.ownerRoot⟩)
  return key

def elementsByTag (handle tag : String) : Call String := do
  let container ← Call.expect handle nodeHandles
  let key := listKey container.uid tag
  if ← Call.isCached key then
    return key
  let node ← Call.ofExcept (singleNode container handle)
  let uid ← Call.takeUid
  Call.store key (.nodeList ⟨uid, .nodes (node.elementsByTag tag)⟩)
  return key

def nodeList (handle : String) : Call (Container × List Node) := do
  let container ← Call.expect handle [.nodeList]
  match container.nodes? with
  | some nodes => return (container, nodes)
  | none => throw (.holdsNoNodeList handle)

def listSize (handle : String) : Call Nat := do
  return (← nodeList handle).2.length

def listElement (handle : String) (index : Int64) : Call String := do
  let (container, nodes) ← nodeList handle
  let i := index.toInt.toNat
  match if index.toInt < 0 then none else nodes[i]? with
  | none => throw (.indexOutOfRange index handle nodes.length)
  | some node =>
    let key := elementKey container.uid i
    if ← Call.isCached key then
      return key
    let uid ← Call.takeUid
    Call.store key (.element ⟨uid, .node node⟩)
    return key

/-- The node that a handle stands for; a document stands for its root element. -/
def elementAt (handle : String) : Call Node := do
  let container ← Call.expect handle nodeHandles
  let node ← Call.ofExcept (singleNode container handle)
  return if node.kind = .document then node.ownerRoot else node

end Builtins
