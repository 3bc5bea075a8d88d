import SigningKeys.Json.Fault

/-!
# Numbers of a document

A number is read digit by digit. Its digits are gathered into a whole number below `2 ^ 64`; digits
that no longer fit are only counted. A number without fraction and exponent whose digits all fit is
an integer. Any other number is the whole number times a power of ten, each step rounded to a
floating-point number.

* `gather`: digits into a bounded whole number;
* `Binary64.ofDecimal`: the floating-point number of a whole number and a power of ten;
* `number`: one number, after its sign.
-/

namespace SigningKeys.Json

/-- What a reader makes of the front of a text: a result and the rest of the text, or a fault. -/
abbrev Reader (α : Type) := List UInt8 → Except Fault (α × List UInt8)

/-- Whether a byte is a decimal digit. -/
def isDigit (b : UInt8) : Bool := 0x30 ≤ b && b ≤ 0x39

/-- The value of a decimal digit. -/
def digitValue (b : UInt8) : Nat := b.toNat - 0x30

/-- The digits at the front of a text, and the rest. -/
def digits (bs : List UInt8) : List UInt8 × List UInt8 :=
  (bs.takeWhile isDigit, bs.dropWhile isDigit)

/-- Digits appended to the number `n` as long as it stays at most `limit`, and the digits that are
left at the first one that does not fit. -/
def gather (limit : Nat) : (n : Nat) → List UInt8 → Nat × List UInt8
  | n, [] => (n, [])
  | n, d :: ds =>
    if limit < n * 10 + digitValue d then (n, d :: ds)
    else gather limit (n * 10 + digitValue d) ds

/-- The largest whole number that digits are gathered into. -/
def maxSignificand : Nat := 18446744073709551615

/-- The largest exponent that is read as such. -/
def maxExponent : Nat := 2147483647

namespace Binary64

/-- A number and its sign as bits. -/
def ofFloat (negative : Bool) (f : Float) : Binary64 :=
  ⟨(if negative then -f else f).toBits⟩

/-- The floating-point number closest to `10 ^ k`, for `k` up to 308. -/
def tenTo (k : Nat) : Float := Float.ofScientific 1 false k

/-- A number divided by `10 ^ k`, in steps of at most `10 ^ 308`, until nothing is left of it. -/
def shrink (f : Float) (k : Nat) : Float :=
  if k ≤ 308 then f / tenTo k
  else if f == 0 then f
  else shrink (f / tenTo 308) (k - 308)
termination_by k

/-- **A whole number times a power of ten**, each step rounded; `none` when it is too large. -/
def ofDecimal (negative : Bool) (significand : Nat) (exponent : Int) : Option Binary64 :=
  let f := (UInt64.ofNat significand).toFloat
  match exponent with
  | .ofNat k =>
    if k ≤ 308 then
      let g := f * tenTo k
      if g.isInf then none else some (ofFloat negative g)
    else if f == 0 then some (ofFloat negative f)
    else none
  | .negSucc k => some (ofFloat negative (shrink f (k + 1)))

end Binary64

/-- The number read so far times a power of ten. -/
def scaled (negative : Bool) (significand : Nat) (exponent : Int) : Except Fault Number :=
  match Binary64.ofDecimal negative significand exponent with
  | some f => .ok (.float f)
  | none => .error .numberTooLarge

/-- The exponent after its letter, and the number that it completes. An exponent too long to be read
makes the number zero, or too large. -/
def exponentPart (negative : Bool) (significand : Nat) (exponent : Int) : Reader Number := fun bs =>
  let (down, bs) := match bs with
    | 0x2B :: rest => (false, rest)
    | 0x2D :: rest => (true, rest)
    | _ => (false, bs)
  match digits bs with
  | ([], []) => .error .endOfValue
  | ([], _ :: _) => .error .badNumber
  | (ds, rest) =>
    match gather maxExponent 0 ds with
    | (e, []) =>
      (scaled negative significand (if down then exponent - e else exponent + e)).map (·, rest)
    | (_, _ :: _) =>
      if significand ≠ 0 && !down then .error .numberTooLarge
      else .ok (.float (Binary64.ofFloat negative 0), rest)

/-- What follows the digits of a fraction: an exponent or nothing. -/
def afterFraction (negative : Bool) (significand : Nat) (exponent : Int) : Reader Number
  | 0x65 :: rest | 0x45 :: rest => exponentPart negative significand exponent rest
  | bs => (scaled negative significand exponent).map (·, bs)

/-- The digits after the point. Those that fit are appended to the number. -/
def fractionPart (negative : Bool) (significand : Nat) (exponent : Int) : Reader Number := fun bs =>
  match digits bs with
  | ([], []) => .error .endOfValue
  | ([], _ :: _) => .error .badNumber
  | (ds, rest) =>
    let (s, left) := gather maxSignificand significand ds
    afterFraction negative s (exponent - ((ds.length - left.length : Nat) : Int)) rest

/-- A whole number with its sign: zero with a minus sign, and what is below `-2 ^ 63`, are
floating-point numbers. -/
def whole (negative : Bool) (n : Nat) : Number :=
  if !negative then .int n
  else if 1 ≤ n && n ≤ 9223372036854775808 then .int (-n)
  else .float (Binary64.ofFloat true (UInt64.ofNat n).toFloat)

/-- What follows the leading digits, of which `dropped` did not fit. -/
def afterWhole (negative : Bool) (significand dropped : Nat) : Reader Number
  | 0x2E :: rest => fractionPart negative significand dropped rest
  | 0x65 :: rest | 0x45 :: rest => exponentPart negative significand dropped rest
  | bs =>
    if dropped = 0 then .ok (whole negative significand, bs)
    else (scaled negative significand dropped).map (·, bs)

/-- **A number**, after its sign. A leading zero stands alone before the point. -/
def number (negative : Bool) : Reader Number := fun bs =>
  match digits bs with
  | ([], []) => .error .endOfValue
  | ([], _ :: _) => .error .badNumber
  | (d :: ds, rest) =>
    if d = 0x30 && !ds.isEmpty then .error .badNumber
    else
      let (s, left) := gather maxSignificand 0 (d :: ds)
      afterWhole negative s left.length rest

end SigningKeys.Json
