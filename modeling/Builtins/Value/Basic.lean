import Builtins.Value.Binary64

/-!
# Values of expressions

A `Value` is what an expression evaluates to. Its kind is fixed when it is built and never changes.

* `Value.kind` and `Value.text` are total.
* `Value.equals` compares kind and content; numbers compare numerically.
-/

namespace Builtins

inductive Kind where
  | string
  | int
  | float
  | boolean
deriving DecidableEq, Repr

namespace Kind

def name : Kind → String
  | string => "STRING"
  | int => "INT"
  | float => "FLOAT"
  | boolean => "BOOLEAN"

def all : List Kind := [string, int, float, boolean]

/-- A list of kinds as it stands in messages: `(STRING, INT)`. -/
def tuple (kinds : List Kind) : String :=
  "(" ++ String.intercalate ", " (kinds.map name) ++ ")"

end Kind

inductive Value where
  | string (s : String)
  | int (i : Int64)
  | float (x : Binary64)
  | boolean (b : Bool)
deriving DecidableEq

namespace Value

instance : Inhabited Value := ⟨.string ""⟩

def kind : Value → Kind
  | string _ => .string
  | int _ => .int
  | float _ => .float
  | boolean _ => .boolean

/-- The text of a value: a string is its own text, an integer is written in decimal. -/
def text : Value → String
  | string s => s
  | int i => toString i.toInt
  | float x => x.text
  | boolean b => if b then "true" else "false"

/-- Equality of values of the same kind; floating-point numbers compare numerically. -/
def equals : Value → Value → Bool
  | string s, string t => s == t
  | int i, int j => i == j
  | float x, float y => x.equals y
  | boolean a, boolean b => a == b
  | _, _ => false

end Value

end Builtins
