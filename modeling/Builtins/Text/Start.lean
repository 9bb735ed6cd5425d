/-!
# How texts start

* `dropStart?` is what follows a given start.
* `dropStart?_eq_some_iff`: it is there exactly if the text is the start and what follows it.
-/

namespace Builtins

/-- What follows `start` in a list that starts so. -/
def dropStart? : List Char → List Char → Option (List Char)
  | [], cs => some cs
  | _ :: _, [] => none
  | s :: start, c :: cs => if s = c then dropStart? start cs else none

theorem dropStart?_eq_some_iff {start cs rest : List Char} :
    dropStart? start cs = some rest ↔ cs = start ++ rest := by
  fun_induction dropStart? start cs with
  | case1 cs => simp
  | case2 => simp
  | case3 s start cs ih => simp [ih]
  | case4 s start c cs h => simpa using fun hc => absurd hc.symm h

@[simp]
theorem dropStart?_append (start rest : List Char) : dropStart? start (start ++ rest) = some rest :=
  dropStart?_eq_some_iff.2 rfl

end Builtins
