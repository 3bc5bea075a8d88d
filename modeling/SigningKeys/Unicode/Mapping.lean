import SigningKeys.Unicode.MappingTable
import SigningKeys.Unicode.Ranges

/-!
# Mapping the characters of domain names

* `Mapped`: what becomes of a code point; `mapped`: of a given one.
-/

namespace SigningKeys.Unicode

/-- What becomes of a code point in a domain name. -/
inductive Mapped where
  /-- It stays. -/
  | kept
  /-- It is left out. -/
  | ignored
  /-- It is replaced. -/
  | replaced (target : List Nat)
  /-- No domain name may hold it. -/
  | refused
deriving DecidableEq

/-- One row of replacements: the code points `low`, `low + step`, … up to `high` are replaced; a
single target moves along with them. -/
structure Replacement where
  low : Nat
  high : Nat
  step : Nat
  target : List Nat

namespace Replacement

/-- The code points that a word joins by points. -/
def targetOf (cs : List Char) : List Nat :=
  (words (cs.map fun c => if c == '.' then ' ' else c)).map hexNumber

/-- The row that a word spells. -/
def ofWord (w : List Char) : Replacement :=
  let (source, target) := splitAtFirst '>' w
  let target := targetOf target
  if source.contains '/' then
    let (lo, hi) := splitAtFirst '/' source
    ⟨hexNumber lo, hexNumber hi, 2, target⟩
  else
    let (lo, hi) := Ranges.ofWord source
    ⟨lo, hi, 1, target⟩

/-- Whether a row replaces a code point. -/
def covers (r : Replacement) (n : Nat) : Bool :=
  r.low ≤ n && n ≤ r.high && (n - r.low) % r.step = 0

/-- What a row replaces a code point by. -/
def apply (r : Replacement) (n : Nat) : List Nat :=
  match r.target with
  | [t] => [t + (n - r.low)]
  | ts => ts

end Replacement

/-- The rows of the table. -/
def replacements : List Replacement := (words mappedText.toList).map Replacement.ofWord

/-- The refused code points. -/
def refusedRanges : Ranges := Ranges.ofText refusedText

/-- The ignored code points. -/
def ignoredRanges : Ranges := Ranges.ofText ignoredText

/-- **What becomes of a code point.** Of ASCII only the capital letters are replaced. -/
def mapped (n : Nat) : Mapped :=
  if n < 0x80 then (if 0x41 ≤ n && n ≤ 0x5A then .replaced [n + 32] else .kept)
  else if refusedRanges.has n then .refused
  else if ignoredRanges.has n then .ignored
  else
    match replacements.find? (·.covers n) with
    | some r => .replaced (r.apply n)
    | none => .kept

end SigningKeys.Unicode
