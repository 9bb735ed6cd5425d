import Builtins.Bytes
import Builtins.Deflate.Symbol

/-!
# Finding repeats

The symbols of some data are chosen position by position. A repeat that is found at a position is
used only if the next position has no longer one; otherwise the byte becomes a literal and the longer
repeat is considered in its turn.

* `Repeat` is a repeat together with the proof that the bytes agree.
* `earlierAlike` links each position to the last one before it that starts alike.
* `longestRepeat` follows these links.
* `symbolsOf` gives the symbols.
-/

namespace Builtins

/-- The bytes from `p` on equal those from an earlier position on. -/
structure Repeat (x : Array UInt8) (p : Nat) where
  start : Nat
  length : Nat
  start_lt : start < p
  near : p - start ≤ 32768
  three_le : 3 ≤ length
  length_le : length ≤ 258
  inside : p + length ≤ x.size
  agree : ∀ k, k < length → x[start + k]? = x[p + k]?

/-- How many of the next `n` bytes from `q` and from `p` on agree. -/
def commonLength (x : Array UInt8) (q p : Nat) : Nat → Nat
  | 0 => 0
  | n + 1 => if x.getD q 0 = x.getD p 0 then commonLength x (q + 1) (p + 1) n + 1 else 0

theorem commonLength_le (x : Array UInt8) (q p n : Nat) : commonLength x q p n ≤ n := by
  induction n generalizing q p with
  | zero => simp [commonLength]
  | succ n ih =>
    rw [commonLength]
    split
    · exact Nat.succ_le_succ (ih _ _)
    · omega

theorem agree_of_lt_commonLength {x : Array UInt8} {q p n k : Nat} (hq : q + n ≤ x.size)
    (hp : p + n ≤ x.size) (h : k < commonLength x q p n) : x[q + k]? = x[p + k]? := by
  induction n generalizing q p k with
  | zero => simp [commonLength] at h
  | succ n ih =>
    rw [commonLength] at h
    split at h
    · rename_i heq
      cases k with
      | zero =>
        have hq' : q < x.size := by omega
        have hp' : p < x.size := by omega
        simpa [Array.getD, hq', hp'] using heq
      | succ k =>
        have := ih (q := q + 1) (p := p + 1) (k := k) (by omega) (by omega) (by omega)
        simpa [Nat.add_assoc, Nat.add_comm 1] using this
    · omega

/-- The longest repeat. -/
def repeatLimit : Nat := 258

/-- The farthest that a repeat is looked for. -/
def searchDistance : Nat := 32506

/-- How many earlier positions are tried, at first and once there is a repeat of 32 bytes. -/
def searchEffort (length : Nat) : Nat := if 32 ≤ length then 1024 else 4096

/-- A repeat of three bytes costs more than three literals if it is farther away than this. -/
def shortRepeatDistance : Nat := 4096

/-- The bucket of three bytes. Positions whose bytes share a bucket are linked. -/
def bucketOf (a b c : UInt8) : Nat :=
  ((a.toNat <<< 10) ^^^ (b.toNat <<< 5) ^^^ c.toNat) % 32768

/-- The bucket of the three bytes at a position, if there are as many. -/
def bucketAt? (x : Array UInt8) (p : Nat) : Option Nat := do
  let a ← x[p]?
  let b ← x[p + 1]?
  let c ← x[p + 2]?
  return bucketOf a b c

/-- For each position the last one before it in the same bucket. Zero stands for none, so the first
position is never found. -/
def earlierAlike (x : Array UInt8) : Array Nat :=
  let links := (List.range x.size).foldl
    (fun (s : Array Nat × Array Nat) p =>
      match bucketAt? x p with
      | some bucket =>
        let last := s.1.getD bucket 0
        (s.1.setIfInBounds bucket p, s.2.push last)
      | none => (s.1, s.2.push 0))
    (Array.replicate 32768 0, #[])
  links.2

/-- The repeat of more than `length` bytes with a given start, if there is one. Most starts fail at
the byte that the repeat at hand lacks, so this byte is compared first. -/
def repeatFrom? (x : Array UInt8) (p q length : Nat) : Option (Repeat x p) :=
  if x.getD (q + length) 0 != x.getD (p + length) 0 then none
  else
    let n := commonLength x q p (min repeatLimit (x.size - p))
    if h : q < p ∧ p - q ≤ 32768 ∧ p ≤ x.size ∧ 3 ≤ n ∧ length < n then
      have hn : n ≤ min repeatLimit (x.size - p) := commonLength_le x q p _
      some
        { start := q
          length := n
          start_lt := h.1
          near := h.2.1
          three_le := h.2.2.2.1
          length_le := by unfold repeatLimit at hn; omega
          inside := by omega
          agree := fun _ hk => agree_of_lt_commonLength (by omega) (by omega) hk }
    else none

/-- The longest repeat at `p` among those from `q` on along the links, if it is longer than the one
at hand. The search ends with a repeat that cannot become longer, and before a link that leads as far
back as the search distance. -/
def searchRepeat (x : Array UInt8) (links : Array Nat) (p : Nat) :
    Nat → Nat → Nat → Option (Repeat x p) → Option (Repeat x p)
  | 0, _, _, best => best
  | effort + 1, q, length, best =>
    let found := repeatFrom? x p q length
    let best := found.or best
    let length := (found.map (·.length)).getD length
    let next := links.getD q 0
    if min repeatLimit (x.size - p) ≤ length ∨ next ≤ p - searchDistance then best
    else searchRepeat x links p effort next length best

/-- The longest repeat at `p` of more than `length` bytes, unless it is not worth a copy. The first
link may lead back by the whole search distance. -/
def longestRepeat (x : Array UInt8) (links : Array Nat) (p length : Nat) : Option (Repeat x p) :=
  let first := links.getD p 0
  if first = 0 ∨ searchDistance < p - first then none
  else
    (searchRepeat x links p (searchEffort length) first length none).filter fun r =>
      !(r.length == 3 && shortRepeatDistance < p - r.start)

/-- The symbols from position `p` on, where `held` is the longest repeat found there. -/
def symbolsFrom (x : Array UInt8) (links : Array Nat) (p : Nat) (held : Option (Repeat x p)) :
    List Symbol :=
  if h : p < x.size then
    let next := longestRepeat x links (p + 1) ((held.map (·.length)).getD 2)
    match held, next with
    | some r, none =>
      .copy r.length (p - r.start) ::
        symbolsFrom x links (p + r.length) (longestRepeat x links (p + r.length) 2)
    | _, _ => .literal x[p] :: symbolsFrom x links (p + 1) next
  else []
termination_by x.size - p
decreasing_by
  · have := r.three_le
    omega
  · omega

def symbolsOf (data : Bytes) : List Symbol :=
  let x := data.toArray
  let links := earlierAlike x
  symbolsFrom x links 0 (longestRepeat x links 0 2)

end Builtins
