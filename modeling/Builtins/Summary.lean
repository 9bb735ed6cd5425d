import Builtins.Function.Descriptor
import Builtins.Text.Quoted

/-!
# Summaries

One-line descriptions of nodes, resources and descriptors, for those who look into a run.

* `Node.summary`, `Resource.summary` and `Descriptor.summary`.
-/

namespace Builtins

/-- A record in a summary: its name and its fields. -/
def record (name : String) (fields : List String) : String :=
  name ++ " \x7b " ++ String.intercalate ", " fields ++ " \x7d"

def NodeKind.word : NodeKind → String
  | document => "Document"
  | element => "Element"
  | text => "Text"

/-- Kind, name and position of a node. -/
def Node.summary (n : Node) : String :=
  let name := match n.name? with
    | some name => "Some(" ++ quoted name ++ ")"
    | none => "None"
  record "XmlNode" ["kind: " ++ n.kind.word, "name: " ++ name, "index: " ++ toString n.index]

/-- Kind and uid of a resource. -/
def Resource.summary (r : Resource) : String :=
  let withUid (word : String) (c : Container) := word ++ "(" ++ toString c.uid.toNat ++ ")"
  match r with
  | document c => withUid "Document" c
  | element c => withUid "Element" c
  | nodeList c => withUid "NodeList" c
  | other _ => "Other(..)"

def Kind.word : Kind → String
  | string => "String"
  | int => "Int"
  | float => "Float"
  | boolean => "Boolean"

/-- Name, arity, tuples and result of a function. -/
def Descriptor.summary (d : Descriptor) : String :=
  record "FunctionDescriptor"
    ["name: " ++ quoted d.name, "arity: " ++ toString d.arity,
      "signatures: [" ++ String.intercalate ", " (d.tuples.map Kind.tuple) ++ "]",
      "result_type: " ++ d.result.word, ".."]

end Builtins
