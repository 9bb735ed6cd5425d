import Builtins.Disk.Path
import Builtins.Text.Start

/-!
# Handles

A handle is the key of a cached resource. It is made from the path of a document as it is shown, or
from the uid of the container it was asked from, so asking again gives the same handle.

* `documentKey` and `rootKey` belong to a document.
* `listKey` and `elementKey` belong to a container.
-/

namespace Builtins

def documentStart : String := "xml_doc_"

def elementStart : String := "xml_elem_"

def listStart : String := "xml_list_"

/-- The key of the document under a path. Paths that are shown alike share it. -/
def documentKey (path : DiskPath) : String := documentStart ++ path.display

/-- The path as the key of a document shows it; any other text is taken as it is. -/
def pathOfKey (key : String) : String :=
  match dropStart? documentStart.toList key.toList with
  | some path => String.ofList path
  | none => key

/-- The key of the root element that belongs to the key of a document. -/
def rootKey (key : String) : String := elementStart ++ "root_" ++ pathOfKey key

/-- The key of the list of the elements with a given tag below a container. -/
def listKey (uid : UInt64) (tag : String) : String :=
  listStart ++ toString uid.toNat ++ "_" ++ tag

/-- The key of an element of a list. -/
def elementKey (uid : UInt64) (index : Nat) : String :=
  elementStart ++ toString uid.toNat ++ "_" ++ toString index

end Builtins
