import Builtins.Fault
import Builtins.Table
import Builtins.Text.Lowercase

/-!
# Environment variables

A snapshot of the variables that surround a run. Their keys are brought into a normal form with a
common start; the values are strings, and nothing changes them.

* `namespacedKey` is the normal form of a key.
* `Environment.ofVariables` takes the snapshot; of two equal keys the later wins.
* `Environment.read` and `Environment.write` access it.
-/

namespace Builtins

/-- What every key of a snapshot starts with. -/
def environmentStart : String := "env."

/-- A key in lower case, with underscores for spaces, behind the common start. -/
def namespacedKey (key : String) : String :=
  environmentStart ++
    String.ofList ((lowercase key).toList.map fun c => if c = ' ' then '_' else c)

/-- A snapshot of variables under their normal keys. -/
structure Environment where
  entries : Table String

namespace Environment

def ofVariables (vars : List (String × String)) : Environment :=
  ⟨Table.ofList (vars.map fun v => (namespacedKey v.1, v.2))⟩

def read (e : Environment) (key : String) : Except Fault Value :=
  match e.entries.get? key with
  | some s => .ok (.string s)
  | none => .error (.undefinedVariable key)

/-- No variable can be written, whatever the value. -/
def write (_ : Environment) (key : String) (_ : Value) : Except Fault Unit :=
  .error (.readOnlyVariable key)

/-- The normal keys in increasing order. -/
def names (e : Environment) : List String := e.entries.keys

def size (e : Environment) : Nat := e.entries.size

end Environment

end Builtins
