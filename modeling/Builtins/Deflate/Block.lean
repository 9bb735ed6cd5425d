import Builtins.Bytes
import Builtins.Deflate.Huffman
import Builtins.Deflate.LengthRuns
import Builtins.Deflate.Symbol

/-!
# Blocks of compressed data

A block holds its symbols in one of three forms: as plain bytes, with the fixed code, or with a code
of its own that is described in front. The shortest is taken; of equally long ones the plain form
goes before the fixed code, and that before a code of its own.

* `Code` is a pair of codes for symbols and distances.
* `CodeTable` describes a code of the block's own.
* `blockBits` writes a block.
-/

namespace Builtins

/-- The lengths of the codewords for literals and lengths, and for distances. -/
structure Code where
  main : List Nat
  distance : List Nat
deriving Repr

def fixedCode : Code where
  main :=
    List.replicate 144 8 ++ List.replicate 112 9 ++ List.replicate 24 7 ++ List.replicate 8 8
  distance := List.replicate 30 5

/-- How often each number below `size` occurs in a list. -/
def tally (size : Nat) (l : List Nat) : List Nat :=
  (l.foldl (fun (a : Array Nat) n => a.modify n (· + 1)) (Array.replicate size 0)).toList

/-- How often each code occurs in a block, its end included. -/
def mainCounts (symbols : List Symbol) : List Nat :=
  tally 286 (endOfBlock :: symbols.map Symbol.mainCode)

def distanceCounts (symbols : List Symbol) : List Nat :=
  tally 30 (symbols.filterMap Symbol.distanceCode?)

/-- The code made for the symbols of a block. -/
def ownCode (symbols : List Symbol) : Code where
  main := codeLengths 15 (mainCounts symbols)
  distance := codeLengths 15 (distanceCounts symbols)

/-- The order in which the lengths of the third code are written. -/
def lengthOrder : List Nat := [16, 17, 18, 0, 8, 7, 9, 6, 10, 5, 11, 4, 12, 3, 13, 2, 14, 1, 15]

/-- A list without the zeros at its end, but not shorter than `least`. -/
def trimZeros (least : Nat) (l : List Nat) : List Nat :=
  l.take (max least (l.reverse.dropWhile (· == 0)).length)

/-- The description of a code: how many lengths it gives for symbols and distances, the runs of
these lengths, and the lengths of the code in which the runs are written. -/
structure CodeTable where
  mainSize : Nat
  distanceSize : Nat
  runs : List LengthRun
  runCode : List Nat
deriving Repr

namespace CodeTable

def ofCode (c : Code) : CodeTable :=
  let main := trimZeros 257 c.main
  let distance := trimZeros 1 c.distance
  let runs := lengthRuns main ++ lengthRuns distance
  { mainSize := main.length
    distanceSize := distance.length
    runs := runs
    runCode := codeLengths 7 (tally 19 (runs.map LengthRun.code)) }

/-- The lengths of the third code in the order in which they are written, without the zeros at the
end. -/
def runCodeList (t : CodeTable) : List Nat :=
  trimZeros 4 (lengthOrder.map fun s => t.runCode.getD s 0)

def bits (t : CodeTable) : List Bool :=
  let words := codewords t.runCode
  bitsLsb 5 (t.mainSize - 257) ++ bitsLsb 5 (t.distanceSize - 1) ++
    bitsLsb 4 (t.runCodeList.length - 4) ++ t.runCodeList.flatMap (bitsLsb 3) ++
    t.runs.flatMap fun r => words.getD r.code [] ++ bitsLsb r.extra.1 r.extra.2

end CodeTable

/-- The bits of a number within its class, behind the codeword of the class. -/
def classBits (words : Array (List Bool)) (first : Nat) (classes : List Class) (n : Nat) :
    List Bool :=
  let (i, c) := classOf classes n
  words.getD (first + i) [] ++ bitsLsb c.extra (n - c.base)

def Symbol.bits (main distance : Array (List Bool)) : Symbol → List Bool
  | literal b => main.getD b.toNat []
  | copy length back =>
    classBits main 257 lengthClasses length ++ classBits distance 0 distanceClasses back

/-- The bits of the symbols of a block and its end. -/
def Code.bits (c : Code) (symbols : List Symbol) : List Bool :=
  let main := codewords c.main
  let distance := codewords c.distance
  symbols.flatMap (·.bits main distance) ++ main.getD endOfBlock []

/-- The bits of plain bytes that start after `offset` bits: they fill the byte, and the number of
bytes is written twice, once inverted. -/
def plainBits (offset : Nat) (bytes : Bytes) : List Bool :=
  List.replicate ((8 - offset % 8) % 8) false ++ bitsLsb 16 bytes.length ++
    bitsLsb 16 (65535 - bytes.length) ++ bytes.flatMap fun b => bitsLsb 8 b.toNat

/-- The number of bytes that a block of so many bits takes, with the three bits in front of it. -/
def blockBytes (bits : Nat) : Nat := (bits + 3 + 7) / 8

/-- The bits of a block that starts after `offset` bits. It stands for `bytes`. -/
def blockBits (offset : Nat) (isLast : Bool) (bytes : Bytes) (symbols : List Symbol) :
    List Bool :=
  let own := ownCode symbols
  let fixedBits := fixedCode.bits symbols
  let ownBits := (CodeTable.ofCode own).bits ++ own.bits symbols
  let fixedBytes := blockBytes fixedBits.length
  let ownBytes := blockBytes ownBits.length
  if bytes.length + 4 ≤ min fixedBytes ownBytes then
    isLast :: bitsLsb 2 0 ++ plainBits (offset + 3) bytes
  else if fixedBytes ≤ ownBytes then isLast :: bitsLsb 2 1 ++ fixedBits
  else isLast :: bitsLsb 2 2 ++ ownBits

end Builtins
