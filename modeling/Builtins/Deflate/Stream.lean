import Builtins.Deflate.Block
import Builtins.Deflate.Repeats

/-!
# Compressed streams

A stream is a header, the blocks of the compressed data, and a checksum of what they stand for.

* `adler32` is the checksum.
* `blocksOf` cuts symbols into blocks.
* `deflate` compresses.
-/

namespace Builtins

/-- The modulus of the checksum, the largest prime below `2 ^ 16`. -/
def adlerModulus : Nat := 65521

/-- The sum of the bytes, and the sum of the sums so far. -/
def adler32 (bytes : Bytes) : Nat :=
  let s := bytes.foldl
    (fun (s : Nat × Nat) b =>
      let sum := (s.1 + b.toNat) % adlerModulus
      (sum, (s.2 + sum) % adlerModulus))
    (1, 0)
  s.2 * 65536 + s.1

/-- The largest number of symbols in a block. -/
def blockSymbols : Nat := 16383

def Symbol.size : Symbol → Nat
  | literal _ => 1
  | copy length _ => length

/-- Cuts symbols, and the bytes they stand for, into full blocks and one that is not full. -/
def blocksOf (bytes : Bytes) (symbols : List Symbol) : List (Bytes × List Symbol) :=
  if symbols.length < blockSymbols then [(bytes, symbols)]
  else
    let block := symbols.take blockSymbols
    let size := block.foldl (fun n s => n + s.size) 0
    (bytes.take size, block) :: blocksOf (bytes.drop size) (symbols.drop blockSymbols)
termination_by symbols.length
decreasing_by simp only [List.length_drop, blockSymbols] at *; omega

/-- The bits of blocks that start after `offset` bits. -/
def blocksBits (offset : Nat) : List (Bytes × List Symbol) → List Bool
  | [] => []
  | (bytes, symbols) :: rest =>
    let bits := blockBits offset rest.isEmpty bytes symbols
    bits ++ blocksBits (offset + bits.length) rest

/-- The byte of up to eight bits, the first the least significant. -/
def byteOfBits (bits : List Bool) : UInt8 :=
  UInt8.ofNat (bits.foldr (fun b n => n * 2 + b.toNat) 0)

/-- The bytes of a list of bits; the last byte is filled with zeros. -/
def packBits (bits : List Bool) : Bytes :=
  match bits with
  | [] => []
  | b :: rest => byteOfBits (b :: rest.take 7) :: packBits (rest.drop 7)
termination_by bits.length
decreasing_by simp only [List.length_drop, List.length_cons]; omega

/-- The bytes of a 32-bit number, the most significant first. -/
def bigEndian32 (n : Nat) : Bytes :=
  [UInt8.ofNat (n / 16777216), UInt8.ofNat (n / 65536), UInt8.ofNat (n / 256), UInt8.ofNat n]

/-- The method and window size of the stream, and the effort of the compression. -/
def streamHeader : Bytes := [0x78, 0xDA]

def deflate (data : Bytes) : Bytes :=
  let symbols := symbolsOf data
  let blocks := blocksOf data symbols
  streamHeader ++ packBits (blocksBits 0 blocks) ++ bigEndian32 (adler32 data)

end Builtins
