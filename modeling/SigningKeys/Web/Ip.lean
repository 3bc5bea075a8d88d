import SigningKeys.Unicode.Ranges
import SigningKeys.Text.Quoted

/-!
# Network addresses

* `Ipv4.parse`, `Ipv4.text`: addresses of 32 bits, written as one to four numbers in base 8, 10
  or 16;
* `Ipv6.parse`, `Ipv6.text`: addresses of eight pieces of 16 bits.
-/

namespace SigningKeys.Web

namespace Ipv4

/-- A number of an address. -/
inductive Part where
  | number (n : Nat)
  /-- A number of 32 bits or more. -/
  | tooLarge
deriving DecidableEq

/-- The value of digits in a base, if they are all digits of it. -/
def inBase? (base : Nat) (cs : List Char) : Option Nat :=
  cs.foldl (fun n c => do
    let n ← n
    let d ← Unicode.hexValue? c
    if d < base then some (n * base + d) else none) (some 0)

/-- The number that a part spells: in base 16 after `0x`, in base 8 after `0`. A base without digits
stands for zero. -/
def part? (cs : List Char) : Option Part :=
  let (base, ds) := match cs with
    | '0' :: 'x' :: rest | '0' :: 'X' :: rest => (16, rest)
    | '0' :: d :: rest => (8, d :: rest)
    | _ => (10, cs)
  if cs.isEmpty then none
  else (inBase? base ds).map fun n => if n < 4294967296 then .number n else .tooLarge

/-- The parts of a name between its points; a point at the end is left out. -/
def parts (cs : List Char) : List (List Char) :=
  let ps := cs.splitOn '.'
  if 1 < ps.length && ps.getLast? == some [] then ps.dropLast else ps

/-- Whether a name must be an address, because its last part is a number. -/
def looksLike (cs : List Char) : Bool :=
  match (parts cs).getLast? with
  | some last => (!last.isEmpty && last.all fun c => '0' ≤ c && c ≤ '9') || (part? last).isSome
  | none => false

/-- The bytes before the last number, put together. -/
def combine (last : Nat) (front : List Nat) : Nat :=
  (front.zipIdx.map fun (n, i) => n * Nat.pow 256 (3 - i)).foldr Nat.add last

/-- **The address of a name.** All its numbers but the last are bytes; the last one fills the bytes
that are left. -/
def parse (cs : List Char) : Option Nat := do
  let ps := parts cs
  if 4 < ps.length then none
  let ns ← ps.mapM fun p => do
    match ← part? p with
    | .number n => some n
    | .tooLarge => none
  let last ← ns.getLast?
  let front := ns.dropLast
  if last < Nat.pow 256 (4 - front.length) && front.all (· < 256) then some (combine last front)
  else none

/-- The address as four numbers. -/
def text (n : Nat) : String :=
  ".".intercalate ([3, 2, 1, 0].map fun i => toString (n / Nat.pow 256 i % 256))

end Ipv4

namespace Ipv6

/-- The hexadecimal digits at the front of a text, at most `limit` of them, and the rest. -/
def piece : (limit : Nat) → (n : Nat) → List Char → Nat × List Char
  | limit + 1, n, c :: rest =>
    match Unicode.hexValue? c with
    | some d => piece limit (n * 16 + d) rest
    | none => (n, c :: rest)
  | _, n, cs => (n, cs)

/-- The decimal number of at most 255 at the front of a text, without leading zeros. -/
def byte? (cs : List Char) : Option (Nat × List Char) :=
  let ds := cs.takeWhile fun c => '0' ≤ c && c ≤ '9'
  let n := ds.foldl (fun n c => n * 10 + (c.toNat - 48)) 0
  if ds.isEmpty || (1 < ds.length && ds.head? == some '0') || 255 < n then none
  else some (n, cs.drop ds.length)

/-- The two pieces of four bytes joined by points, which end the text. -/
def dotted? (cs : List Char) : Option (List Nat) :=
  match cs.splitOn '.' with
  | [a, b, c, d] => do
    let byte (cs : List Char) : Option Nat := do
      match ← byte? cs with
      | (n, []) => some n
      | _ => none
    some [(← byte a) * 256 + (← byte b), (← byte c) * 256 + (← byte d)]
  | _ => none

/-- The pieces read so far, and where among them zeros were left out. -/
structure Progress where
  pieces : List Nat
  gap : Option Nat

/-- Read pieces up to the end of a text. -/
def pieces? : (fuel : Nat) → Progress → List Char → Option Progress
  | _, p, [] => some p
  | 0, _, _ :: _ => none
  | fuel + 1, p, c :: rest =>
    if 8 ≤ p.pieces.length + (if p.gap.isSome then 1 else 0) then none
    else if c = ':' then
      if p.gap.isSome then none
      else pieces? fuel { p with gap := some p.pieces.length } rest
    else
      match piece 4 0 (c :: rest) with
      | (n, []) => some { p with pieces := p.pieces ++ [n] }
      | (n, d :: after) =>
        if d = ':' then
          if after.isEmpty then none
          else pieces? fuel { p with pieces := p.pieces ++ [n] } after
        else if d = '.' then
          if 6 < p.pieces.length + (if p.gap.isSome then 1 else 0) then none
          else (dotted? (c :: rest)).map fun ns => { p with pieces := p.pieces ++ ns }
        else none

/-- **The eight pieces of an address.** Two colons stand for the zeros that are left out, once. -/
def parse (cs : List Char) : Option (List Nat) := do
  let start ← match cs with
    | ':' :: ':' :: rest => some (Progress.mk [] (some 0), rest)
    | ':' :: _ | [] | [_] => none
    | _ => some (Progress.mk [] none, cs)
  let p ← pieces? cs.length start.1 start.2
  match p.gap with
  | none => if p.pieces.length = 8 then some p.pieces else none
  | some g =>
    if 8 < p.pieces.length + 1 then none
    else
      some (p.pieces.take g ++ List.replicate (8 - p.pieces.length) 0 ++ p.pieces.drop g)

/-- The number of zeros at the front. -/
def zeros (ps : List Nat) : Nat := (ps.takeWhile (· = 0)).length

/-- The longest run of at least two zeros, the first one of several: its start and its length. -/
def longestRun (ps : List Nat) : Option (Nat × Nat) :=
  (List.range ps.length).foldl (fun best i =>
    let n := zeros (ps.drop i)
    if 2 ≤ n && (best.map Prod.snd).getD 0 < n then some (i, n) else best) none

/-- Pieces joined by colons. -/
def joined (ps : List Nat) : String :=
  ":".intercalate (ps.map fun n => String.ofList (Text.hexDigits n))

/-- The address in hexadecimal; two colons stand for the longest run of zeros. -/
def text (ps : List Nat) : String :=
  match longestRun ps with
  | some (i, n) => joined (ps.take i) ++ "::" ++ joined (ps.drop (i + n))
  | none => joined ps

end Ipv6

end SigningKeys.Web
