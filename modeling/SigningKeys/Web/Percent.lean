import SigningKeys.Json.Scanner

/-!
# Percent-encoding

* `Percent.encode`: a text in ASCII; the bytes of some characters are written as `%` and two digits;
* `Percent.decode`: the bytes of a text, such writings resolved;
* `userSafe`, `pathSafe`, `querySafe`, `fragmentSafe`: the bytes that each part of an address holds
  as they are.
-/

namespace SigningKeys.Web.Percent

/-- A hexadecimal digit in upper case. -/
def upperDigit (n : Nat) : Char :=
  let d := n % 16
  if d < 10 then Char.ofNat (48 + d) else Char.ofNat (55 + d)

/-- A byte as `%` and two digits. -/
def escaped (b : UInt8) : List Char :=
  ['%', upperDigit (b.toNat / 16), upperDigit b.toNat]

/-- **A text in ASCII.** -/
def encode (safe : UInt8 → Bool) (cs : List Char) : List Char :=
  cs.flatMap fun c =>
    (String.utf8EncodeChar c).flatMap fun b => if safe b then [Char.ofNat b.toNat] else escaped b

/-- The byte that the two digits at the front of a text spell. -/
def pair? : List UInt8 → Option UInt8
  | h :: l :: _ =>
    match Json.hexByte? h, Json.hexByte? l with
    | some h, some l => some (UInt8.ofNat (h * 16 + l))
    | _, _ => none
  | _ => none

/-- The bytes of a text, of which the first `skip` have been taken in already. -/
def decodeFrom : (skip : Nat) → List UInt8 → List UInt8
  | _, [] => []
  | skip + 1, _ :: rest => decodeFrom skip rest
  | 0, b :: rest =>
    match (if b = 0x25 then pair? rest else none) with
    | some c => c :: decodeFrom 2 rest
    | none => b :: decodeFrom 0 rest

/-- **The bytes of a text** given as bytes. A `%` without two digits after it stands for itself. -/
def decode (bs : List UInt8) : List UInt8 := decodeFrom 0 bs

/-- Whether a byte is a visible ASCII character that is none of `special`. -/
def visibleExcept (special : String) (b : UInt8) : Bool :=
  0x20 < b && b < 0x7F && !(special.toList.any fun c => c.toNat == b.toNat)

/-- The bytes that a fragment holds as they are. -/
def fragmentSafe : UInt8 → Bool := visibleExcept "\"<>`"

/-- The bytes that a path holds as they are. -/
def pathSafe : UInt8 → Bool := visibleExcept "\"<>`#?\x7b\x7d"

/-- The bytes that a user name or a password holds as they are. -/
def userSafe : UInt8 → Bool := visibleExcept "\"<>`#?\x7b\x7d/:;=@[\\]^|"

/-- The bytes that a query holds as they are. -/
def querySafe : UInt8 → Bool := visibleExcept "\"#<>'"

end SigningKeys.Web.Percent
