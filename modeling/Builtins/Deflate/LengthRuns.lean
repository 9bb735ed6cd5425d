/-!
# Runs of code lengths

A list of code lengths is written with short forms for repetitions.

* `LengthRun` is a length, or a short form for several.
* `lengthRuns` writes the short forms of a list of lengths.
-/

namespace Builtins

/-- A code length, or a repetition. -/
inductive LengthRun where
  /-- One length. -/
  | length (l : Nat)
  /-- The previous length 3 to 6 more times. -/
  | again (times : Nat)
  /-- Three to 138 zeros. -/
  | zeros (times : Nat)
deriving DecidableEq, Repr

namespace LengthRun

def code : LengthRun → Nat
  | length l => l
  | again _ => 16
  | zeros times => if times ≤ 10 then 17 else 18

/-- The width and the value of the extra bits of a run. -/
def extra : LengthRun → Nat × Nat
  | length _ => (0, 0)
  | again times => (2, times - 3)
  | zeros times => if times ≤ 10 then (3, times - 3) else (7, times - 11)

end LengthRun

/-- The runs for `count` lengths `l` that follow the length `previous`. -/
def runsFor (previous : Option Nat) (l count : Nat) : List LengthRun :=
  let plain := List.replicate count (LengthRun.length l)
  if l = 0 then if count < 3 then plain else [.zeros count]
  else if previous = some l then if count < 3 then plain else [.again count]
  else if count < 4 then plain
  else [.length l, .again (count - 1)]

/-- How many equal lengths one run may cover: the first of a new length is written out. -/
def runLimit (previous : Option Nat) (l : Nat) : Nat :=
  if l = 0 then 138 else if previous = some l then 6 else 7

/-- The runs of a list of lengths that follows the length `previous`. -/
def lengthRunsFrom (previous : Option Nat) : List Nat → List LengthRun
  | [] => []
  | l :: rest =>
    let more := ((rest.take (runLimit previous l - 1)).takeWhile (· == l)).length
    runsFor previous l (more + 1) ++ lengthRunsFrom (some l) (rest.drop more)
termination_by lengths => lengths.length
decreasing_by simp only [List.length_drop, List.length_cons]; omega

def lengthRuns (lengths : List Nat) : List LengthRun := lengthRunsFrom none lengths

end Builtins
