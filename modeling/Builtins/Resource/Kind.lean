/-!
# Kinds of resources

What a handle may refer to.
-/

namespace Builtins

/-- The kind of a cached resource. -/
inductive ResourceKind where
  | document
  | element
  | nodeList
  | other
deriving DecidableEq, Repr

namespace ResourceKind

def name : ResourceKind → String
  | document => "document"
  | element => "element"
  | nodeList => "node list"
  | other => "opaque resource"

def all : List ResourceKind := [document, element, nodeList, other]

end ResourceKind

end Builtins
