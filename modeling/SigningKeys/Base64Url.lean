/-!
# Base64 with the URL-safe alphabet, without padding

* `Base64Url.encode`: bytes as text;
* `Base64Url.decode`: the bytes of a text, or the first reason why it has none.

A text is read in groups of four symbols. Only the last group may be shorter; it has at least two
symbols, and the bits of its last symbol that belong to no byte are zero.
-/

namespace SigningKeys.Base64Url

/-- The symbol of a number below 64. -/
def symbol (n : Nat) : Char :=
  if n < 26 then Char.ofNat (0x41 + n)
  else if n < 52 then Char.ofNat (0x61 + (n - 26))
  else if n < 62 then Char.ofNat (0x30 + (n - 52))
  else if n = 62 then '-'
  else '_'

/-- The number of a symbol. -/
def value? (b : UInt8) : Option Nat :=
  let n := b.toNat
  if 0x41 ≤ n && n ≤ 0x5A then some (n - 0x41)
  else if 0x61 ≤ n && n ≤ 0x7A then some (n - 0x61 + 26)
  else if 0x30 ≤ n && n ≤ 0x39 then some (n - 0x30 + 52)
  else if n = 0x2D then some 62
  else if n = 0x5F then some 63
  else none

/-- The symbols of bytes. -/
def symbols : List UInt8 → List Char
  | a :: b :: c :: rest =>
    let n := (a.toNat * 256 + b.toNat) * 256 + c.toNat
    symbol (n / 262144) :: symbol (n / 4096 % 64) :: symbol (n / 64 % 64) :: symbol (n % 64) ::
      symbols rest
  | [a, b] =>
    let n := a.toNat * 256 + b.toNat
    [symbol (n / 1024), symbol (n / 16 % 64), symbol (n % 16 * 4)]
  | [a] => [symbol (a.toNat / 4), symbol (a.toNat % 4 * 16)]
  | [] => []

/-- **Bytes as text.** -/
def encode (bs : List UInt8) : String := String.ofList (symbols bs)

/-- Why a text encodes no bytes. -/
inductive Fault where
  /-- A byte that is no symbol, or padding where there can be none. -/
  | badSymbol (byte : UInt8) (offset : Nat)
  | badLength (length : Nat)
  /-- A last symbol with bits that belong to no byte. -/
  | badLastSymbol (byte : UInt8) (offset : Nat)
  | badPadding
deriving DecidableEq

/-- The complaint about a fault. -/
def Fault.message : Fault → String
  | .badSymbol b offset =>
    "Invalid symbol " ++ toString b.toNat ++ ", offset " ++ toString offset ++ "."
  | .badLength n => "Invalid input length: " ++ toString n
  | .badLastSymbol b offset =>
    "Invalid last symbol " ++ toString b.toNat ++ ", offset " ++ toString offset ++ "."
  | .badPadding => "Invalid padding"

/-- The padding byte. -/
def pad : UInt8 := 0x3D

/-- The numbers of bytes that are all symbols; the first byte starts at `offset`. -/
def values (offset : Nat) : List UInt8 → Except Fault (List Nat)
  | [] => .ok []
  | b :: rest =>
    match value? b with
    | none => .error (.badSymbol b offset)
    | some n => (values (offset + 1) rest).map (n :: ·)

/-- The symbols of the last group, and whether padding follows them. Padding stands at the third or
fourth place and is not followed by a symbol. -/
def lastGroup (start : Nat) : (place : Nat) → List UInt8 → Except Fault (List (UInt8 × Nat) × Bool)
  | _, [] => .ok ([], false)
  | place, b :: rest =>
    if b = pad then
      if place < 2 then .error (.badSymbol b (start + place))
      else if rest.all (· == pad) then .ok ([], true)
      else .error (.badSymbol b (start + place))
    else
      match value? b with
      | none => .error (.badSymbol b (start + place))
      | some n => (lastGroup start (place + 1) rest).map fun (ns, padded) => ((b, n) :: ns, padded)

/-- The bytes of full groups of four numbers. -/
def bytes : List Nat → List UInt8
  | a :: b :: c :: d :: rest =>
    let n := ((a * 64 + b) * 64 + c) * 64 + d
    UInt8.ofNat (n / 65536) :: UInt8.ofNat (n / 256) :: UInt8.ofNat n :: bytes rest
  | _ => []

/-- The bytes of a last group of two to four numbers, and the bits that belong to none of them. -/
def lastBytes : List Nat → List UInt8 × Nat
  | [a, b] => ([UInt8.ofNat (a * 4 + b / 16)], b % 16)
  | [a, b, c] => ([UInt8.ofNat (a * 4 + b / 16), UInt8.ofNat (b % 16 * 16 + c / 4)], c % 4)
  | ns => (bytes ns, 0)

/-- A stray last byte behind whole groups. -/
def strayByte? (bs : List UInt8) : Option UInt8 :=
  if bs.length % 4 = 1 then
    bs.getLast?.filter fun b => b != pad && (value? b).isNone
  else none

/-- **The bytes of a text**, given as bytes itself. -/
def decode (bs : List UInt8) : Except Fault (List UInt8) :=
  match strayByte? bs with
  | some b => .error (.badSymbol b (bs.length - 1))
  | none =>
    let start := (bs.length - 1) / 4 * 4
    match values 0 (bs.take start) with
    | .error f => .error f
    | .ok front =>
      match lastGroup start 0 (bs.drop start) with
      | .error f => .error f
      | .ok (last, padded) =>
        if !bs.isEmpty && last.length < 2 then .error (.badLength (start + last.length))
        else if padded then .error .badPadding
        else
          match lastBytes (last.map Prod.snd), last.getLast? with
          | (tail, 0), _ => .ok (bytes front ++ tail)
          | (tail, _ + 1), none => .ok (bytes front ++ tail)
          | (_, _ + 1), some (b, _) => .error (.badLastSymbol b (start + last.length - 1))

end SigningKeys.Base64Url
