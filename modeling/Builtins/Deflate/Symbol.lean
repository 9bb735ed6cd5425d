/-!
# Symbols of compressed data

Compressed data is a sequence of literal bytes and of copies of what came before.

* `Symbol` is one of them.
* `Class` is a range of lengths or distances that share a code; `classOf` finds it.
-/

namespace Builtins

/-- A literal byte, or a copy of `length` bytes from `distance` bytes back. -/
inductive Symbol where
  | literal (b : UInt8)
  | copy (length distance : Nat)
deriving DecidableEq, Repr

/-- The numbers from `base` on that share a code and are told apart by `extra` bits. -/
structure Class where
  base : Nat
  extra : Nat
deriving DecidableEq, Repr

/-- The classes of copy lengths, 3 to 258. -/
def lengthClasses : List Class :=
  [⟨3, 0⟩, ⟨4, 0⟩, ⟨5, 0⟩, ⟨6, 0⟩, ⟨7, 0⟩, ⟨8, 0⟩, ⟨9, 0⟩, ⟨10, 0⟩, ⟨11, 1⟩, ⟨13, 1⟩, ⟨15, 1⟩,
    ⟨17, 1⟩, ⟨19, 2⟩, ⟨23, 2⟩, ⟨27, 2⟩, ⟨31, 2⟩, ⟨35, 3⟩, ⟨43, 3⟩, ⟨51, 3⟩, ⟨59, 3⟩, ⟨67, 4⟩,
    ⟨83, 4⟩, ⟨99, 4⟩, ⟨115, 4⟩, ⟨131, 5⟩, ⟨163, 5⟩, ⟨195, 5⟩, ⟨227, 5⟩, ⟨258, 0⟩]

/-- The classes of distances, 1 to 32768. -/
def distanceClasses : List Class :=
  [⟨1, 0⟩, ⟨2, 0⟩, ⟨3, 0⟩, ⟨4, 0⟩, ⟨5, 1⟩, ⟨7, 1⟩, ⟨9, 2⟩, ⟨13, 2⟩, ⟨17, 3⟩, ⟨25, 3⟩, ⟨33, 4⟩,
    ⟨49, 4⟩, ⟨65, 5⟩, ⟨97, 5⟩, ⟨129, 6⟩, ⟨193, 6⟩, ⟨257, 7⟩, ⟨385, 7⟩, ⟨513, 8⟩, ⟨769, 8⟩,
    ⟨1025, 9⟩, ⟨1537, 9⟩, ⟨2049, 10⟩, ⟨3073, 10⟩, ⟨4097, 11⟩, ⟨6145, 11⟩, ⟨8193, 12⟩,
    ⟨12289, 12⟩, ⟨16385, 13⟩, ⟨24577, 13⟩]

/-- The position and the class of a number: the last class that starts at or before it. -/
def classOf (classes : List Class) (n : Nat) : Nat × Class :=
  let i := (classes.countP fun c => c.base ≤ n) - 1
  (i, classes.getD i ⟨n, 0⟩)

/-- The code of the end of a block, between the literals and the lengths. -/
def endOfBlock : Nat := 256

namespace Symbol

/-- The code of a symbol among the literals and lengths. -/
def mainCode : Symbol → Nat
  | literal b => b.toNat
  | copy length _ => 257 + (classOf lengthClasses length).1

def distanceCode? : Symbol → Option Nat
  | literal _ => none
  | copy _ distance => some (classOf distanceClasses distance).1

end Symbol

end Builtins
