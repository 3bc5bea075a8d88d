import SigningKeys.Unicode.CompositionTable
import SigningKeys.Unicode.Ranges

/-!
# Composed texts

A text is composed in three steps: every character is taken apart, marks on the same base are put
into the order of their classes, and pairs are put together again wherever nothing stands between
them.

* `combiningClass`, `compose?`, `takeApart`: the classes, and pairs of code points;
* `sortMarks`, `putTogether`: the second and third step;
* `composed`: the composed form of a text.

Texts are lists of code points.
-/

namespace SigningKeys.Unicode

/-- The code points `first` and `second` make `whole`. -/
structure Pair where
  first : Nat
  second : Nat
  whole : Nat

/-- The pair that a word spells. -/
def Pair.ofWord (w : List Char) : Pair :=
  let (parts, whole) := splitAtFirst '>' w
  let (first, second) := splitAtFirst '.' parts
  ⟨hexNumber first, hexNumber second, hexNumber whole⟩

/-- The pairs of the table. -/
def pairs : List Pair := (words compositionText.toList).map Pair.ofWord

/-- The ranges of code points with a combining class, and the class. -/
def classes : List ((Nat × Nat) × Nat) :=
  (words classText.toList).map fun w =>
    let (range, k) := splitAtFirst '>' w
    (Ranges.ofWord range, hexNumber k)

/-- The combining class of a code point: zero for a base. -/
def combiningClass (n : Nat) : Nat :=
  if n < 0x300 then 0
  else
    match classes.find? fun e => e.1.1 ≤ n && n ≤ e.1.2 with
    | some e => e.2
    | none => 0

/-- The syllable that a leading consonant and a vowel make, or a syllable without a final consonant
and such a consonant. -/
def composeSyllable? (a b : Nat) : Option Nat :=
  if 0x1100 ≤ a && a ≤ 0x1112 && 0x1161 ≤ b && b ≤ 0x1175 then
    some (0xAC00 + ((a - 0x1100) * 21 + (b - 0x1161)) * 28)
  else if 0xAC00 ≤ a && a ≤ 0xD7A3 && (a - 0xAC00) % 28 = 0 && 0x11A8 ≤ b && b ≤ 0x11C2 then
    some (a + (b - 0x11A7))
  else none

/-- What two code points make. -/
def compose? (a b : Nat) : Option Nat :=
  match composeSyllable? a b with
  | some c => some c
  | none => (pairs.find? fun p => p.first == a && p.second == b).map Pair.whole

/-- The parts of a syllable. -/
def syllableParts (n : Nat) : List Nat :=
  let s := n - 0xAC00
  let base := [0x1100 + s / 588, 0x1161 + s % 588 / 28]
  if s % 28 = 0 then base else base ++ [0x11A7 + s % 28]

/-- The parts of a code point, `fuel` levels deep; four levels are enough for every code point. -/
def takeApart : (fuel : Nat) → Nat → List Nat
  | 0, n => [n]
  | fuel + 1, n =>
    if n < 0xC0 then [n]
    else if 0xAC00 ≤ n && n ≤ 0xD7A3 then syllableParts n
    else
      match pairs.find? fun p => p.whole == n with
      | some p => takeApart fuel p.first ++ [p.second]
      | none => [n]

/-- A mark put behind the marks of its own and lower classes. -/
def insertMark (n : Nat) : List Nat → List Nat
  | [] => [n]
  | m :: rest =>
    if combiningClass m ≤ combiningClass n then m :: insertMark n rest else n :: m :: rest

/-- The marks after each base in the order of their classes. `marks` are those read since the
base. -/
def sortMarks (marks : List Nat) : List Nat → List Nat
  | [] => marks
  | n :: rest =>
    if combiningClass n = 0 then marks ++ n :: sortMarks [] rest
    else sortMarks (insertMark n marks) rest

/-- Pairs put together. `base` is the last base, and `marks` are the marks after it that it did not
take in, last one first. -/
def putTogether (base : Option Nat) (marks : List Nat) : List Nat → List Nat
  | [] => base.toList ++ marks.reverse
  | n :: rest =>
    let free := match marks with
      | [] => true
      | m :: _ => combiningClass m < combiningClass n
    match (if free then base.bind fun b => compose? b n else none) with
    | some c => putTogether (some c) marks rest
    | none =>
      if combiningClass n = 0 then base.toList ++ marks.reverse ++ putTogether (some n) [] rest
      else putTogether base (n :: marks) rest

/-- **The composed form of a text.** -/
def composed (ns : List Nat) : List Nat :=
  putTogether none [] (sortMarks [] (ns.flatMap (takeApart 4)))

end SigningKeys.Unicode
