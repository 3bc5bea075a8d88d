import SigningKeys.Json.Value

/-!
# The shortest text of a floating-point number

A finite number stands for every real number that rounds to it. Its text has the fewest digits with
which a decimal lies among them, and of the decimals with so many digits it is the closest.

* `Binary64.parts`: the number as `m * 2 ^ q`;
* `Grid`: the reals that round to it, scaled so that all bounds are whole numbers;
* `Binary64.shortest`: the digits and the exponent; `Binary64.text`: the text.
-/

namespace SigningKeys.Json

/-- The decimal digits of a number, highest first. -/
def digitsOf (n : Nat) : List Char := Nat.toDigits 10 n

namespace Binary64

/-- Whether the sign bit is set. -/
def isNegative (f : Binary64) : Bool := Nat.pow 2 63 ≤ f.bits.toNat

/-- The exponent field. -/
def exponentField (f : Binary64) : Nat := f.bits.toNat / Nat.pow 2 52 % Nat.pow 2 11

/-- The fraction field. -/
def fractionField (f : Binary64) : Nat := f.bits.toNat % Nat.pow 2 52

/-- The magnitude of a finite number as `m * Nat.pow 2 (q - 1074)`. -/
def parts (f : Binary64) : Nat × Nat :=
  if f.exponentField = 0 then (f.fractionField, 0)
  else (f.fractionField + Nat.pow 2 52, f.exponentField - 1)

end Binary64

/-- The reals that round to a number: those from `low / den` to `high / den`, the bounds included
when `closed`; the number itself is `mid / den`. -/
structure Grid where
  low : Nat
  mid : Nat
  high : Nat
  den : Nat
  closed : Bool

namespace Grid

/-- The reals that round to `m * Nat.pow 2 (q - 1074)`. Below a power of two they end at half the
distance. -/
def ofParts (m q : Nat) : Grid :=
  let below := if m = Nat.pow 2 52 ∧ 0 < q then 1 else 2
  let up := Nat.pow 2 (q - 1074)
  { low := (4 * m - below) * up
    mid := 4 * m * up
    high := (4 * m + 2) * up
    den := 4 * Nat.pow 2 (1074 - q)
    closed := m % 2 = 0 }

/-- Whether `d * num / unit` rounds to the number, where the grid's bounds are over `den`. -/
def accepts (g : Grid) (d num unit : Nat) : Bool :=
  let x := d * num * g.den
  let lo := g.low * unit
  let hi := g.high * unit
  if g.closed then lo ≤ x && x ≤ hi else lo < x && x < hi

/-- The best decimal `d * num / unit`, one of the two neighbours of the number, if one of them
rounds to it. Of two that do, the closer one counts, and the even one of two equally close. -/
def nearest? (g : Grid) (num unit : Nat) : Option Nat :=
  let scaled := g.mid * unit
  let step := num * g.den
  let d := scaled / step
  let r := scaled % step
  match g.accepts d num unit, g.accepts (d + 1) num unit with
  | true, true =>
    if 2 * r < step then some d
    else if step < 2 * r then some (d + 1)
    else if d % 2 = 0 then some d else some (d + 1)
  | true, false => some d
  | false, true => some (d + 1)
  | false, false => none

/-- The exponent of the first digit of the number, as `e - 400`. -/
def leading (g : Grid) : Nat :=
  if g.den ≤ g.mid then 400 + (digitsOf (g.mid / g.den)).length - 1
  else
    let scaled := g.mid * Nat.pow 10 400 / g.den
    (digitsOf scaled).length - 1

/-- The shortest decimal with `count` digits or more, up to 17: its digits, and the exponent of the
last of them as `e - 400`. `fuel` counts the attempts left. -/
def search (g : Grid) (top : Nat) : (fuel : Nat) → (count : Nat) → Nat × Nat
  | 0, _ => (g.mid / g.den, 400)
  | fuel + 1, count =>
    let e := top + 1 - count
    match g.nearest? (Nat.pow 10 (e - 400)) (Nat.pow 10 (400 - e)) with
    | some d => (d, e)
    | none => search g top fuel (count + 1)

end Grid

/-- A decimal without trailing zeros: `d * 10 ^ (e - 400)` with as few digits as it has. -/
def dropZeros : (fuel : Nat) → (d e : Nat) → Nat × Nat
  | 0, d, e => (d, e)
  | fuel + 1, d, e =>
    if d ≠ 0 ∧ d % 10 = 0 then dropZeros fuel (d / 10) (e + 1) else (d, e)

namespace Binary64

/-- **The shortest decimal** of a finite number other than zero: `d * 10 ^ (e - 400)`. -/
def shortest (f : Binary64) : Nat × Nat :=
  let g := Grid.ofParts f.parts.1 f.parts.2
  let (d, e) := g.search g.leading 17 1
  dropZeros 20 d e

/-- Digits with the point after the digit of exponent zero, where `first` is the exponent of the
first digit plus 400. -/
def positional (ds : List Char) (first : Nat) : List Char :=
  if first < 400 then
    ['0', '.'] ++ List.replicate (399 - first) '0' ++ ds
  else
    let whole := first - 400 + 1
    if ds.length ≤ whole then ds ++ List.replicate (whole - ds.length) '0' ++ ['.', '0']
    else ds.take whole ++ '.' :: ds.drop whole

/-- Digits with the point after the first one, and the exponent. -/
def scientific (ds : List Char) (first : Nat) : List Char :=
  let mantissa := match ds with
    | [] => []
    | [d] => [d]
    | d :: rest => d :: '.' :: rest
  mantissa ++ (if first < 400 then 'e' :: '-' :: digitsOf (400 - first)
    else 'e' :: '+' :: digitsOf (first - 400))

/-- **The text of a finite number.** The point is set for exponents from -5 to 15; beyond them the
exponent is written with its sign. There is always a point or an exponent. -/
def text (f : Binary64) : String :=
  let sign := if f.isNegative then ['-'] else []
  if f.parts.1 = 0 then String.ofList (sign ++ ['0', '.', '0'])
  else
    let (d, e) := f.shortest
    let ds := digitsOf d
    let first := e + ds.length - 1
    let body := if 395 ≤ first && first ≤ 415 then positional ds first else scientific ds first
    String.ofList (sign ++ body)

end Binary64

end SigningKeys.Json
