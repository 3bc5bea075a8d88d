/-!
# Sets of code points

A set of code points is a list of closed ranges. A long one is written as text: hexadecimal code
points and ranges (`30-39`), separated by blanks.

* `hexValue?`, `hexNumber`: hexadecimal digits and numbers;
* `Ranges`, `Ranges.has`, `Ranges.ofText`.
-/

namespace SigningKeys.Unicode

/-- The value of a hexadecimal digit. -/
def hexValue? (c : Char) : Option Nat :=
  let n := c.toNat
  if 0x30 ≤ n && n ≤ 0x39 then some (n - 0x30)
  else if 0x41 ≤ n && n ≤ 0x46 then some (n - 0x41 + 10)
  else if 0x61 ≤ n && n ≤ 0x66 then some (n - 0x61 + 10)
  else none

/-- The number that the hexadecimal digits among `cs` spell. -/
def hexNumber (cs : List Char) : Nat :=
  cs.foldl (fun n c => match hexValue? c with
    | some d => n * 16 + d
    | none => n) 0

/-- The words of a text: its longest parts without blanks and line ends. -/
def words (cs : List Char) : List (List Char) :=
  let (last, done) := cs.foldl
    (fun (acc : List Char × List (List Char)) c =>
      if c == ' ' || c == '\n' then
        (if acc.1.isEmpty then acc else ([], acc.1.reverse :: acc.2))
      else (c :: acc.1, acc.2)) ([], [])
  (if last.isEmpty then done else last.reverse :: done).reverse

/-- The part of a list before the first `sep`, and the part after it. -/
def splitAtFirst (sep : Char) (cs : List Char) : List Char × List Char :=
  (cs.takeWhile (· != sep), (cs.dropWhile (· != sep)).drop 1)

/-- Closed ranges of code points. -/
abbrev Ranges := List (Nat × Nat)

namespace Ranges

/-- Whether a code point lies in one of the ranges. -/
def has (r : Ranges) (n : Nat) : Bool := r.any fun p => p.1 ≤ n && n ≤ p.2

/-- The range that a word spells: one code point, or two joined by a hyphen. -/
def ofWord (w : List Char) : Nat × Nat :=
  match splitAtFirst '-' w with
  | (lo, []) => (hexNumber lo, hexNumber lo)
  | (lo, hi) => (hexNumber lo, hexNumber hi)

/-- The ranges that a text spells. -/
def ofText (s : String) : Ranges := (words s.toList).map ofWord

end Ranges

end SigningKeys.Unicode
