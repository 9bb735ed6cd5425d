/-!
# Code lengths and codewords

Symbols that occur often get short codewords. The lengths come from joining the two lightest trees
over and over; among trees of equal weight the shallower is lighter. Lengths over a limit are cut,
and the codewords are then numbered in order of length and symbol.

* `TreeHeap` is the heap of the trees that are still to be joined.
* `codeLengths` gives the length for each symbol, zero for one that does not occur.
* `codewords` numbers the codewords of given lengths.
-/

namespace Builtins

/-- A tree over symbols. -/
inductive CodeTree where
  | leaf (symbol : Nat)
  | node (left right : CodeTree)
deriving Repr

namespace CodeTree

instance : Inhabited CodeTree := ⟨leaf 0⟩

/-- The symbols of a tree that stands at a given depth, each with its own depth. -/
def leafDepths (depth : Nat) : CodeTree → List (Nat × Nat)
  | leaf s => [(s, depth)]
  | node l r => l.leafDepths (depth + 1) ++ r.leafDepths (depth + 1)

/-- The number of subtrees below a given depth, in a tree that stands at depth `depth`. -/
def deeperThan (limit depth : Nat) : CodeTree → Nat
  | leaf _ => if limit < depth then 1 else 0
  | node l r =>
    (if limit < depth then 1 else 0) + l.deeperThan limit (depth + 1) +
      r.deeperThan limit (depth + 1)

end CodeTree

/-- A tree with the number of occurrences of its symbols. -/
structure Weighted where
  weight : Nat
  depth : Nat
  tree : CodeTree
deriving Repr

namespace Weighted

instance : Inhabited Weighted := ⟨⟨0, 0, default⟩⟩

def before (a b : Weighted) : Bool :=
  a.weight < b.weight || (a.weight == b.weight && a.depth ≤ b.depth)

def join (a b : Weighted) : Weighted :=
  ⟨a.weight + b.weight, max a.depth b.depth + 1, .node a.tree b.tree⟩

/-- The symbol of a tree without a branch. -/
def leafSymbol? (a : Weighted) : Option Nat :=
  match a.tree with
  | .leaf s => some s
  | .node _ _ => none

end Weighted

/-- A binary heap in an array: the children of place `k` are at `2 * k + 1` and `2 * k + 2`, and none
of them comes before it. -/
abbrev TreeHeap := Array Weighted

namespace TreeHeap

/-- Moves the tree at place `k` down to where no child comes before it, in at most `fuel` steps. -/
def siftDown (h : TreeHeap) (k : Nat) : Nat → TreeHeap
  | 0 => h
  | fuel + 1 =>
    let left := 2 * k + 1
    if left < h.size then
      let right := left + 1
      let child :=
        if right < h.size && (h.getD right default).before (h.getD left default) then right
        else left
      if (h.getD k default).before (h.getD child default) then h
      else siftDown (h.swapIfInBounds k child) child fuel
    else h

def ofArray (trees : Array Weighted) : TreeHeap :=
  (List.range (trees.size / 2)).reverse.foldl (fun h k => siftDown h k trees.size) trees

def first (h : TreeHeap) : Weighted := h.getD 0 default

def dropFirst (h : TreeHeap) : TreeHeap :=
  let last := h.getD (h.size - 1) default
  siftDown (h.pop.setIfInBounds 0 last) 0 h.size

def replaceFirst (h : TreeHeap) (w : Weighted) : TreeHeap :=
  siftDown (h.setIfInBounds 0 w) 0 h.size

/-- Joins trees until one is left. Also gives the trees that were joined, the latest first. -/
def joinAll (joined : List Weighted) (h : TreeHeap) : Nat → CodeTree × List Weighted
  | 0 => (h.first.tree, joined)
  | fuel + 1 =>
    if h.size ≤ 1 then (h.first.tree, joined)
    else
      let a := h.first
      let rest := h.dropFirst
      let b := rest.first
      joinAll (b :: a :: joined) (rest.replaceFirst (a.join b)) fuel

end TreeHeap

/-- The symbols that occur, with their numbers. A code needs two symbols, so others that do not
occur are added if there are fewer. -/
def usedSymbols (counts : List Nat) : List (Nat × Nat) :=
  let used := (counts.zipIdx.filter fun c => c.1 != 0).map fun c => (c.2, c.1)
  match used with
  | [] => [(0, 1), (1, 1)]
  | [(s, n)] => if s < 2 then [(s, n), (s + 1, 1)] else [(s, n), (0, 1)]
  | used => used

/-- How many codewords of each length there are; the list starts at length zero. -/
def lengthCounts (limit : Nat) (lengths : List Nat) : List Nat :=
  (List.range (limit + 1)).map fun l => lengths.count l

/-- Makes room for two codewords of the longest length by making one shorter codeword longer. -/
def lengthenOne (limit : Nat) (counts : List Nat) : List Nat :=
  let shorter := (List.range limit).reverse.find? fun l => l != 0 && counts.getD l 0 != 0
  match shorter with
  | none => counts
  | some l =>
    let counts := counts.modify l (· - 1)
    let counts := counts.modify (l + 1) (· + 2)
    counts.modify limit (· - 1)

/-- The lengths of the symbols in order, from the longest to the shortest. -/
def dealLengths (limit : Nat) (counts : List Nat) (symbols : List Nat) : List (Nat × Nat) :=
  let lengths := (List.range (limit + 1)).reverse.flatMap fun l =>
    if l = 0 then [] else List.replicate (counts.getD l 0) l
  symbols.zip lengths

/-- The length of the codeword of each symbol that occurs, none above the limit. Where the tree is
too deep, some shorter codewords become longer, and the symbols that were joined first get the
longest. -/
def symbolLengths (limit : Nat) (used : List (Nat × Nat)) : List (Nat × Nat) :=
  let trees := used.map fun u => (⟨u.2, 0, .leaf u.1⟩ : Weighted)
  let (tree, joined) := TreeHeap.joinAll [] (TreeHeap.ofArray trees.toArray) trees.length
  let depths := tree.leafDepths 0
  let tooDeep := tree.deeperThan limit 0
  if tooDeep = 0 then depths
  else
    let counts := lengthCounts limit (depths.map fun d => min limit d.2)
    let counts := (List.range ((tooDeep + 1) / 2)).foldl (fun c _ => lengthenOne limit c) counts
    dealLengths limit counts (joined.reverse.filterMap Weighted.leafSymbol?)

/-- The length of the codeword of each symbol, zero for one that has none. -/
def codeLengths (limit : Nat) (counts : List Nat) : List Nat :=
  let lengths := symbolLengths limit (usedSymbols counts)
  (lengths.foldl (fun (a : Array Nat) l => a.setIfInBounds l.1 l.2)
    (Array.replicate counts.length 0)).toList

/-- The bits of a number, the most significant first. -/
def bitsMsb (width n : Nat) : List Bool :=
  (List.range width).map fun i => n.testBit (width - 1 - i)

/-- The bits of a number, the least significant first. -/
def bitsLsb (width n : Nat) : List Bool := (List.range width).map n.testBit

/-- The number of the first codeword of a length: it follows the last shorter one. -/
def firstCode (lengths : List Nat) : Nat → Nat
  | 0 => 0
  | l + 1 => 2 * (firstCode lengths l + if l = 0 then 0 else lengths.count l)

/-- The codeword of each symbol. -/
def codewords (lengths : List Nat) : Array (List Bool) :=
  let limit := lengths.foldl max 0
  let firsts := ((List.range (limit + 1)).map (firstCode lengths)).toArray
  (lengths.foldl
    (fun (s : Array Nat × Array (List Bool)) l =>
      if l = 0 then (s.1, s.2.push [])
      else
        let n := s.1.getD l 0
        (s.1.setIfInBounds l (n + 1), s.2.push (bitsMsb l n)))
    (firsts, #[])).2

end Builtins
