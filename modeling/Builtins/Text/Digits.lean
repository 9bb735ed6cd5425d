/-!
# Digits

Digits of numbers in bases up to sixteen; letters stand for ten to fifteen in either case.

* `digit?` reads a digit, `ofDigits?` a number.
* `ofDigits?_toDigits`: a number is read back from its digits.
-/

namespace Builtins

def digit? (base : Nat) (c : Char) : Option Nat :=
  let value? :=
    if '0' ≤ c ∧ c ≤ '9' then some (c.toNat - 48)
    else if 'a' ≤ c ∧ c ≤ 'f' then some (c.toNat - 87)
    else if 'A' ≤ c ∧ c ≤ 'F' then some (c.toNat - 55)
    else none
  value?.filter (· < base)

/-- The number that digits stand for behind those of `n`. -/
def digitsAfter? (base : Nat) (n : Nat) (cs : List Char) : Option Nat :=
  cs.foldlM (fun n c => (digit? base c).map (n * base + ·)) n

/-- The number that one or more digits stand for. -/
def ofDigits? (base : Nat) (cs : List Char) : Option Nat :=
  if cs.isEmpty then none else digitsAfter? base 0 cs

theorem digit?_digitChar {base d : Nat} (hb : base ≤ 16) (hd : d < base) :
    digit? base d.digitChar = some d := by
  have h : ∀ b ≤ 16, ∀ n < b, digit? b n.digitChar = some n := by decide
  exact h base hb d hd

theorem digitsAfter?_toDigits {base : Nat} (h : 1 < base) (hb : base ≤ 16) (n : Nat) :
    digitsAfter? base 0 (Nat.toDigits base n) = some n := by
  induction n using Nat.strongRecOn with
  | ind n ih =>
    by_cases hn : n < base
    · rw [Nat.toDigits_of_lt_base hn]
      simp [digitsAfter?, digit?_digitChar hb hn]
    · have hlt : n / base < n := Nat.div_lt_self (by omega) h
      have hmod : n % base < base := Nat.mod_lt _ (by omega)
      have hrest : digitsAfter? base (n / base) [(n % base).digitChar] = some n := by
        simp only [digitsAfter?, List.foldlM_cons, List.foldlM_nil, digit?_digitChar hb hmod,
          Option.map_some]
        exact congrArg some (Nat.div_add_mod' n base)
      have happend : ∀ cs ds : List Char, digitsAfter? base 0 (cs ++ ds) =
          (digitsAfter? base 0 cs).bind fun m => digitsAfter? base m ds := fun cs ds =>
        List.foldlM_append
      rw [Nat.toDigits_of_base_le h (by omega), happend, ih _ hlt, Option.bind_some, hrest]

theorem ofDigits?_toDigits {base : Nat} (h : 1 < base) (hb : base ≤ 16) (n : Nat) :
    ofDigits? base (Nat.toDigits base n) = some n := by
  rw [ofDigits?, if_neg (by simp), digitsAfter?_toDigits h hb]

end Builtins
