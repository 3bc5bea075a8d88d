/-!
# White space

* `isBlank`: the characters with the property White_Space;
* `trimBlank`: a text without the white space at its ends.
-/

namespace SigningKeys.Text

/-- The characters with the property White_Space. -/
def isBlank (c : Char) : Bool :=
  let n := c.toNat
  (0x9 ≤ n && n ≤ 0xD) || n == 0x20 || n == 0x85 || n == 0xA0 || n == 0x1680 ||
    (0x2000 ≤ n && n ≤ 0x200A) || n == 0x2028 || n == 0x2029 || n == 0x202F || n == 0x205F ||
    n == 0x3000

/-- Characters without those at either end that satisfy `p`. -/
def trimWhere (p : Char → Bool) (cs : List Char) : List Char :=
  ((cs.dropWhile p).reverse.dropWhile p).reverse

/-- A text without the white space at its ends. -/
def trimBlank (s : String) : String := String.ofList (trimWhere isBlank s.toList)

end SigningKeys.Text
