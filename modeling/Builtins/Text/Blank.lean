/-!
# White space

The characters with the Unicode property White_Space, and text without them at its ends.

* `isBlank` is the property.
* `trimBlank` drops the white space around a text; what is between the first and the last other
  character stays.
-/

namespace Builtins

/-- Whether a character has the property White_Space. -/
def isBlank (c : Char) : Bool :=
  let n := c.toNat
  0x9 ≤ n && n ≤ 0xD || n == 0x20 || n == 0x85 || n == 0xA0 || n == 0x1680 ||
    0x2000 ≤ n && n ≤ 0x200A || n == 0x2028 || n == 0x2029 || n == 0x202F || n == 0x205F ||
    n == 0x3000

/-- A list without the white space at its ends. -/
def trimBlankList (cs : List Char) : List Char :=
  ((cs.dropWhile isBlank).reverse.dropWhile isBlank).reverse

def trimBlank (s : String) : String := String.ofList (trimBlankList s.toList)

end Builtins
