import Builtins.Binary.Encode
import Builtins.Function.Registry
import Builtins.Navigation

/-!
# The standard functions

The functions that every run offers: navigation of XML documents and embedding of binary files.

* `standardFunctions` are their descriptors, in the order in which they are installed.
* `installStandard` adds them to a registry; names that are taken keep their function.
* `Registry.standard` is the registry of a run that says nothing else.
-/

namespace Builtins

/-- The text of a file in the form that a token asks for. -/
def embedFile (name token : String) : Call Value := do
  let options ← Call.ofExcept (EncodeOptions.parse token)
  let path ← Call.resolve name
  Call.tell s!"loading content of bin file '{path.display}'"
  let data ← Call.readFile .binary path
  return .string (encode data options lineEnding)

def argument (args : List Value) (i : Nat) : Value := args.getD i default

/-- A function that takes a string. -/
def ofString (name reference : String) (result : Kind) (body : String → Call Value) :
    Descriptor where
  name := name
  arity := 1
  overloads := [⟨[.string], fun args => body (argument args 0).text⟩]
  result := result
  reference := reference

def ofStrings (name reference : String) (result : Kind) (body : String → String → Call Value) :
    Descriptor where
  name := name
  arity := 2
  overloads :=
    [⟨[.string, .string], fun args => body (argument args 0).text (argument args 1).text⟩]
  result := result
  reference := reference

def xmlFunctions (loader : Loader) : List Descriptor :=
  [ ofString "xml_open" "open XML file and parse as DOM" .string fun name =>
      .string <$> openDocument loader name,
    ofString "xml_root" "get the root element of an opened XML document" .string fun handle =>
      .string <$> documentRoot handle,
    ofStrings "xml_list" "get element list by element tag" .string fun handle tag =>
      .string <$> elementsByTag handle tag,
    ofString "xml_size" "get number of elements in an element list" .int fun handle => do
      return .int (Int64.ofNat (min (← listSize handle) 0x7FFFFFFFFFFFFFFF)),
    { name := "xml_get"
      arity := 2
      overloads := [⟨[.string, .int], fun args => do
        let index ← Call.ofExcept (argument args 1).asInt
        .string <$> listElement (argument args 0).text index⟩]
      result := .string
      reference := "get element from an element list by index" },
    ofString "xml_name" "get the tag name of an element" .string fun handle => do
      return .string ((← elementAt handle).name?.getD ""),
    ofString "xml_text" "get the text content of an element" .string fun handle => do
      return .string (← elementAt handle).textContent,
    ofStrings "xml_attr" "get an attribute value of an element" .string fun handle key => do
      return .string (((← elementAt handle).attribute? key).getD "") ]

def embedReference : String :=
  "encode bin file into string representation, allowed types [" ++
    String.intercalate "|" (BinaryForm.all.map BinaryForm.token) ++
    "[s|d|sd|ds]], s - split to lines, d - deflater compression"

def binaryFunction : Descriptor := ofStrings "binfile" embedReference .string embedFile

def standardFunctions (loader : Loader) : List Descriptor :=
  xmlFunctions loader ++ [binaryFunction]

/-- Adds the standard functions whose names are free. If any is taken, the first failure is given
with the names of all that were not added. -/
def installStandard (r : Registry) (loader : Loader) : Registry × Except Fault Unit :=
  match r.registerAll (standardFunctions loader) with
  | (r, []) => (r, .ok ())
  | (r, (name, first) :: rest) =>
    (r, .error (.builtinsTaken first (name :: rest.map (·.1))))

/-- The registry with the standard functions. -/
def Registry.standard : Registry := (installStandard Registry.empty (Loader.parsing "standard")).1

end Builtins
