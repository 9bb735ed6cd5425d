/-!
# The fewest decimal digits that read back

A positive binary number `m * 2 ^ q` stands for all reals closer to it than to its neighbours. Among
the decimal numbers in that interval one takes those with the fewest digits, and of these the one
closest to `m * 2 ^ q`; if two are equally close, the larger one. All arithmetic is exact.

* `Decimal` is a digit string with an exponent.
* `Interval` holds the bounds over one common denominator.
* `shortest` looks through the powers of ten from coarse to fine.
* `Decimal.positional` writes a decimal without an exponent.
-/

namespace Builtins

/-- The number `digits * 10 ^ exponent`. -/
structure Decimal where
  digits : Nat
  exponent : Int
deriving DecidableEq, Repr

/-- The reals that round to `value / den`: those between `low / den` and `high / den`, with the
bounds themselves if `closed`. -/
structure Interval where
  low : Nat
  value : Nat
  high : Nat
  den : Nat
  closed : Bool
deriving Repr

namespace Interval

/-- The interval of `m * 2 ^ q`, which reaches half a unit to each side. Below a power of two the
units are half as wide, and so is the lower half (`narrow`). -/
def ofBinary (m : Nat) (q : Int) (narrow : Bool) : Interval :=
  let unit := Nat.pow 2 (q - 2).toNat
  { low := (4 * m - if narrow then 1 else 2) * unit
    value := 4 * m * unit
    high := (4 * m + 2) * unit
    den := Nat.pow 2 (2 - q).toNat
    closed := m % 2 == 0 }

/-- Whether `num / den` lies in the interval, for the denominator of the interval. -/
def contains (i : Interval) (num : Nat) : Bool :=
  if i.closed then i.low ≤ num && num ≤ i.high else i.low < num && num < i.high

/-- The interval multiplied by `10 ^ (-e)`, so that the multiples of `10 ^ e` become integers. -/
def onGrid (i : Interval) (e : Int) : Interval :=
  let scale := Nat.pow 10 (-e).toNat
  { i with
    low := i.low * scale
    value := i.value * scale
    high := i.high * scale
    den := i.den * Nat.pow 10 e.toNat }

/-- The multiple of `10 ^ e` in the interval that is closest to its value. Only the two multiples
around the value can be, and of two equally close ones the larger is taken. -/
def closestOnGrid? (i : Interval) (e : Int) : Option Decimal :=
  let g := i.onGrid e
  let below := g.value / g.den
  let above := below + 1
  match g.contains (below * g.den), g.contains (above * g.den) with
  | false, false => none
  | true, false => some ⟨below, e⟩
  | false, true => some ⟨above, e⟩
  | true, true =>
    if g.value - below * g.den < above * g.den - g.value then some ⟨below, e⟩ else some ⟨above, e⟩

end Interval

/-- The shortest decimal for `m * 2 ^ q`: the coarsest grid between `10 ^ top` and `10 ^ (top - n)`
that has a point in the interval gives it. -/
def shortest (i : Interval) (top : Int) (n : Nat) : Option Decimal :=
  (List.range (n + 1)).findSome? fun (k : Nat) => i.closestOnGrid? (top - k)

/-- The text of a decimal in positional notation: no exponent, and no point after an integer. -/
def Decimal.positional (d : Decimal) : String :=
  let digits := Nat.toDigits 10 d.digits
  let places := (-d.exponent).toNat
  let zeros (n : Nat) := List.replicate n '0'
  String.ofList <|
    if places = 0 then digits ++ zeros d.exponent.toNat
    else if places < digits.length then
      digits.take (digits.length - places) ++ '.' :: digits.drop (digits.length - places)
    else '0' :: '.' :: zeros (places - digits.length) ++ digits

end Builtins
