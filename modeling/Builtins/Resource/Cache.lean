import Builtins.Fault
import Builtins.Table
import Builtins.Xml.Document

/-!
# Cached resources

A cache keeps resources under text keys for the length of a run. It knows nothing of how keys are
made; nothing is ever dropped.

* `Container` wraps nodes under a uid, `Resource` adds the kind.
* `Cache.expect` looks a container up and checks its kind.
-/

namespace Builtins

/-- What a container wraps. -/
inductive Wrapped where
  | node (n : Node)
  | nodes (ns : List Node)

/-- Nodes under a uid. -/
structure Container where
  uid : UInt64
  wrapped : Wrapped

namespace Container

def node? (c : Container) : Option Node :=
  match c.wrapped with
  | .node n => some n
  | .nodes _ => none

def nodes? (c : Container) : Option (List Node) :=
  match c.wrapped with
  | .node _ => none
  | .nodes ns => some ns

end Container

/-- A resource in the cache. An opaque one may have a text. -/
inductive Resource where
  | document (c : Container)
  | element (c : Container)
  | nodeList (c : Container)
  | other (text : Option String)

namespace Resource

def kind : Resource → ResourceKind
  | document _ => .document
  | element _ => .element
  | nodeList _ => .nodeList
  | other _ => .other

def container? : Resource → Option Container
  | document c => some c
  | element c => some c
  | nodeList c => some c
  | other _ => none

def text? : Resource → Option String
  | other text => text
  | _ => none

end Resource

/-- The resources of a run. -/
abbrev Cache := Table Resource

namespace Cache

/-- The container under a handle, if its kind is one of those expected. -/
def expect (c : Cache) (handle : String) (kinds : List ResourceKind) : Except Fault Container :=
  match c.get? handle with
  | none => .error (.unknownHandle handle)
  | some r =>
    match r.container? with
    | none => .error (.wrongResource handle r.kind kinds)
    | some container =>
      if kinds.contains r.kind then .ok container
      else .error (.wrongResource handle r.kind kinds)

end Cache

end Builtins
