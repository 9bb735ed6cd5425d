import Builtins.Call

/-!
# Descriptors of functions

A descriptor gives the name of a function, its arity, and a body for each list of argument kinds that
it accepts.

* `Descriptor.check` finds the first reason why a descriptor is not valid.
* `Descriptor.overload?` finds the body for given kinds.
-/

namespace Builtins

/-- A body, and the kinds of the arguments it is for. -/
structure Overload where
  kinds : List Kind
  body : List Value → Call Value

/-- What is known about a function. -/
structure Descriptor where
  name : String
  arity : Nat
  overloads : List Overload
  result : Kind
  reference : String

namespace Descriptor

/-- Checks tuples that follow others: each has as many kinds as the arity says, and none occurs
twice. -/
def checkTuples (name : String) (arity : Nat) (earlier : List (List Kind)) :
    List (List Kind) → Except Fault Unit
  | [] => .ok ()
  | tuple :: rest =>
    if tuple.length ≠ arity then .error (.tupleLength name arity tuple)
    else if earlier.contains tuple then .error (.repeatedTuple name tuple)
    else checkTuples name arity (tuple :: earlier) rest

/-- The accepted tuples in the order of their declaration. -/
def tuples (d : Descriptor) : List (List Kind) := d.overloads.map (·.kinds)

/-- Whether a descriptor is valid, or the first reason why not. -/
def check (d : Descriptor) : Except Fault Unit :=
  if d.overloads.isEmpty then .error (.noTuples d.name)
  else checkTuples d.name d.arity [] d.tuples

def overload? (d : Descriptor) (kinds : List Kind) : Option Overload :=
  d.overloads.find? (·.kinds == kinds)

/-- The accepted tuples as they stand in messages. -/
def describe (d : Descriptor) : String := String.intercalate " | " (d.tuples.map Kind.tuple)

end Descriptor

end Builtins
