import Builtins.Decimal.Shortest

/-!
# Binary floating-point numbers

A `Binary64` is kept as its 64 bits, so that every bit pattern of a NaN survives a round trip.

* `Binary64.equals` is numeric equality: no NaN equals anything, and both zeros are equal.
* `Binary64.text` writes the fewest digits that read back, always in positional notation.
-/

namespace Builtins

/-- A double precision number in the interchange format: sign, 11 bits of exponent, 52 of
fraction. -/
structure Binary64 where
  bits : UInt64
deriving DecidableEq, Repr

namespace Binary64

def negative (x : Binary64) : Bool := x.bits >>> 63 == 1

def exponent (x : Binary64) : Nat := ((x.bits >>> 52) &&& 0x7FF).toNat

def fraction (x : Binary64) : Nat := (x.bits &&& 0xFFFFFFFFFFFFF).toNat

def isNaN (x : Binary64) : Bool := x.exponent == 0x7FF && x.fraction != 0

def isInfinite (x : Binary64) : Bool := x.exponent == 0x7FF && x.fraction == 0

def isZero (x : Binary64) : Bool := x.exponent == 0 && x.fraction == 0

/-- Numeric equality. -/
def equals (x y : Binary64) : Bool :=
  !x.isNaN && !y.isNaN && (x.bits == y.bits || x.isZero && y.isZero)

/-- The integer and the power of two whose product is the magnitude of a finite number. -/
def magnitude (x : Binary64) : Nat × Int :=
  if x.exponent = 0 then (x.fraction, -1074)
  else (0x10000000000000 + x.fraction, x.exponent - 1075)

/-- The reals that round to the magnitude of a finite number. -/
def interval (x : Binary64) : Interval :=
  Interval.ofBinary x.magnitude.1 x.magnitude.2 (x.fraction == 0 && 1 < x.exponent)

/-- The shortest decimal of a finite number. No finite number reaches `10 ^ 309`, and all are
multiples of `10 ^ (-1074)`. -/
def decimal (x : Binary64) : Decimal :=
  (shortest x.interval 308 1382).getD ⟨0, 0⟩

/-- The text of a number; only the sign of a NaN is lost. -/
def text (x : Binary64) : String :=
  if x.isNaN then "NaN"
  else
    let sign := if x.negative then "-" else ""
    if x.isInfinite then sign ++ "inf"
    else if x.isZero then sign ++ "0"
    else sign ++ x.decimal.positional

end Binary64

end Builtins
