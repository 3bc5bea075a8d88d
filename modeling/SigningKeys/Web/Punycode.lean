/-!
# Punycode

Code points beyond ASCII are written behind the ASCII ones of a label, as the steps from each of
them to the next in order of value and place. A step is a number in base 36 with digits of moving
weight; the weights adapt to the steps written so far.

* `threshold`, `adapt`: the moving weights;
* `encode?`, `decode?`: a label as ASCII letters, and back.

Labels are lists of code points. Labels that are very long are neither written nor read.
-/

namespace SigningKeys.Web.Punycode

/-- The letter of a digit below 36. -/
def letter (d : Nat) : Char := if d < 26 then Char.ofNat (0x61 + d) else Char.ofNat (0x30 + d - 26)

/-- The digit of a letter. -/
def digit? (c : Char) : Option Nat :=
  let n := c.toNat
  if 0x61 ≤ n && n ≤ 0x7A then some (n - 0x61)
  else if 0x41 ≤ n && n ≤ 0x5A then some (n - 0x41)
  else if 0x30 ≤ n && n ≤ 0x39 then some (n - 0x30 + 26)
  else none

/-- The digit that ends a number, at position `k`. -/
def threshold (k bias : Nat) : Nat :=
  if k ≤ bias then 1 else if bias + 26 ≤ k then 26 else k - bias

theorem threshold_pos (k bias : Nat) : 1 ≤ threshold k bias := by
  unfold threshold; split <;> (try split) <;> omega

theorem threshold_le (k bias : Nat) : threshold k bias ≤ 26 := by
  unfold threshold; split <;> (try split) <;> omega

/-- A step divided down to the range of the weights, and 36 for each division. -/
def settle (delta k : Nat) : Nat × Nat :=
  if 455 < delta then settle (delta / 35) (k + 36) else (delta, k)
termination_by delta
decreasing_by exact Nat.div_lt_self (by omega) (by omega)

/-- The bias after a step, when `count` code points have been placed. -/
def adapt (delta count : Nat) (first : Bool) : Nat :=
  let d := if first then delta / 700 else delta / 2
  let (d, k) := settle (d + d / count) 0
  k + 36 * d / (d + 38)

/-- A number as letters, from position `k` on. -/
def number (bias k q : Nat) : List Char :=
  let t := threshold k bias
  if q < t then [letter q]
  else letter (t + (q - t) % (36 - t)) :: number bias (k + 36) ((q - t) / (36 - t))
termination_by q
decreasing_by
  have h₁ := threshold_pos k bias
  have h₂ := threshold_le k bias
  exact Nat.lt_of_le_of_lt (Nat.div_le_self _ _) (by omega)

/-- The letters written so far, the step since the last of them, the bias, and the number of code
points placed. -/
structure Progress where
  out : List Char
  delta : Nat
  bias : Nat
  placed : Nat

/-- Pass one code point of the label while those of value `m` are being placed. -/
def pass (basic m : Nat) (p : Progress) (n : Nat) : Progress :=
  if n < m then { p with delta := p.delta + 1 }
  else if n = m then
    { out := p.out ++ number p.bias 36 p.delta
      delta := 0
      bias := adapt p.delta (p.placed + 1) (p.placed == basic)
      placed := p.placed + 1 }
  else p

/-- Place the code points of the given values, in order; `n` is the least value not yet
considered. -/
def place (label : List Nat) (basic : Nat) : List Nat → Nat → Progress → Progress
  | [], _, p => p
  | m :: rest, n, p =>
    let p := label.foldl (pass basic m) { p with delta := p.delta + (m - n) * (p.placed + 1) }
    place label basic rest (m + 1) { p with delta := p.delta + 1 }

/-- A value put into an ascending list, once. -/
def insertOnce (n : Nat) : List Nat → List Nat
  | [] => [n]
  | m :: rest =>
    if n < m then n :: m :: rest else if n = m then m :: rest else m :: insertOnce n rest

/-- A label as ASCII letters, however long. -/
def encode (label : List Nat) : List Char :=
  let basic := (label.filter (· < 0x80)).map Char.ofNat
  let others := (label.filter (0x80 ≤ ·)).foldr insertOnce []
  basic ++ (if basic.isEmpty then [] else ['-']) ++
    (place label basic.length others 0x80 ⟨[], 0, 72, basic.length⟩).out

/-- How many code points a label has at most that is written. -/
def maxWritten : Nat := 1000

/-- **A label as ASCII letters**, if it is not too long. -/
def encode? (label : List Nat) : Option (List Char) :=
  if maxWritten < label.length then none else some (encode label)

/-- Numbers have 32 bits. -/
def fits (n : Nat) : Bool := n < 0x100000000

/-- The number at the front of some letters, added to `i`, and the letters after it. -/
def readNumber (bias : Nat) : List Char → (k weight i : Nat) → Option (Nat × List Char)
  | [], _, _, _ => none
  | c :: rest, k, weight, i =>
    match digit? c with
    | none => none
    | some d =>
      let i := i + d * weight
      let next := weight * (36 - threshold k bias)
      if !fits i then none
      else if d < threshold k bias then some (i, rest)
      else if !fits next then none
      else readNumber bias rest (k + 36) next i

/-- Whether a value is a character. -/
def isScalar (n : Nat) : Bool := n < 0xD800 || (0xDFFF < n && n < 0x110000)

/-- Place the code points that letters describe, at most `fuel` of them. -/
def readPlaces : (fuel : Nat) → (bias n i : Nat) → List Nat → List Char → Option (List Nat)
  | _, _, _, _, out, [] => some out
  | 0, _, _, _, _, _ :: _ => none
  | fuel + 1, bias, n, i, out, c :: rest =>
    match readNumber bias (c :: rest) 36 1 i with
    | none => none
    | some (j, rest) =>
      let count := out.length + 1
      let n := n + j / count
      if isScalar n then
        readPlaces fuel (adapt (j - i) count (i == 0)) n (j % count + 1)
          (out.insertIdx (j % count) n) rest
      else none

/-- The part of a label before its last hyphen, and the part after it. A hyphen at the front divides
nothing. -/
def splitLast (cs : List Char) : List Char × List Char :=
  let tail := (cs.reverse.takeWhile (· != '-')).reverse
  match cs.take (cs.length - tail.length - 1) with
  | [] => ([], cs)
  | basic => (basic, tail)

/-- How many letters describe a label at most that is read. -/
def maxRead : Nat := 2000

/-- **The label that ASCII letters describe**, if they are not too many. -/
def decode? (cs : List Char) : Option (List Nat) :=
  let (basic, tail) := splitLast cs
  if maxRead < cs.length || basic.any (0x80 ≤ ·.toNat) then none
  else readPlaces tail.length 72 0x80 0 (basic.map Char.toNat) tail

end SigningKeys.Web.Punycode
