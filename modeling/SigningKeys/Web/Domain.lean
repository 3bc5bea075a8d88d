import SigningKeys.Unicode.Composition
import SigningKeys.Unicode.Direction
import SigningKeys.Unicode.Mapping
import SigningKeys.Web.Punycode

/-!
# Domain names

A domain name is brought into its ASCII form: its characters are mapped and composed, and each of
its labels that is not ASCII is written with Punycode. A label that claims to be written so must be,
and every label must keep the rules for marks, joiners and directions.

* `mapAll?`: mapping and composing;
* `validLabel`, `joinersFit`, `Bidi.fits`: the rules for one label;
* `toAscii?`: the ASCII form of a domain name.

Names and labels are lists of code points.
-/

namespace SigningKeys.Web

open Unicode

/-- The mapped code points of a name; `none` when one of them is refused. -/
def mapAll? : List Nat → Option (List Nat)
  | [] => some []
  | n :: rest =>
    match mapped n, mapAll? rest with
    | .refused, _ => none
    | _, none => none
    | .kept, some ns => some (n :: ns)
    | .ignored, some ns => some ns
    | .replaced ts, some ns => some (ts ++ ns)

/-- Whether an ASCII character can be part of a domain: controls, the blank, and the characters that
delimit parts of an address cannot. -/
def domainAscii (n : Nat) : Bool :=
  0x20 < n && n != 0x7F && !(" #%/:<>?@[\\]^|".toList.any fun c => c.toNat == n)

/-- The parts of a name between its points. -/
def labels (ns : List Nat) : List (List Nat) := ns.splitOn 0x2E

/-! ## Joiners -/

/-- The first code point that letters do not join through. -/
def firstSolid (ns : List Nat) : Option Nat := (ns.dropWhile joinsThrough).head?

/-- Whether every joiner of a label stands behind a virama, or between letters that join around it.
`before` is the part of the label already passed, last code point first. -/
def joinersFit (before : List Nat) : List Nat → Bool
  | [] => true
  | n :: rest =>
    let afterVirama := (before.head?.map combiningClass) == some 9
    let ok :=
      if n = 0x200C then
        afterVirama || ((firstSolid before).any joinsAfter && (firstSolid rest).any joinsBefore)
      else if n = 0x200D then afterVirama
      else true
    ok && joinersFit (n :: before) rest

/-! ## Directions -/

namespace Bidi

/-- Whether a label holds anything that runs from right to left. -/
def isRightToLeft (ns : List Nat) : Bool :=
  ns.any fun n => direction n = .rightToLeft || direction n = .arabicNumber

/-- The directions of a label without the marks at its end. -/
def core (ns : List Nat) : List Direction :=
  ((ns.map direction).reverse.dropWhile (· = .nonspacing)).reverse

/-- **The rule of directions** for a label of a name in which something runs from right to left. A
label that starts from the left holds nothing that runs the other way and ends with a letter or a
European number. One that starts from the right holds no letter that runs from the left, ends with a
letter or a number, and does not mix European and Arabic numbers. -/
def fits (ns : List Nat) : Bool :=
  match ns with
  | [] => true
  | n :: _ =>
    let ds := core ns
    let all := ns.map direction
    match direction n with
    | .leftToRight =>
      all.all (fun d => d != .rightToLeft && d != .arabicNumber) &&
        (ds.getLast?.any fun d => d = .leftToRight || d = .europeanNumber)
    | .rightToLeft =>
      all.all (· != .leftToRight) &&
        (ds.getLast?.any fun d =>
          d = .rightToLeft || d = .europeanNumber || d = .arabicNumber) &&
        !(all.contains .europeanNumber && all.contains .arabicNumber)
    | _ => false

end Bidi

/-! ## Labels -/

/-- Whether a label, with its own characters, can be part of a domain. -/
def validLabel (ns : List Nat) : Bool :=
  (ns.all fun n => if n < 0x80 then domainAscii n else mapped n = .kept) &&
    !(ns.head?.any isMark) && joinersFit [] ns

/-- The mark of a label that is written with Punycode. -/
def punycodeMark : List Nat := [0x78, 0x6E, 0x2D, 0x2D]

/-- A label with its own characters. A label written with Punycode must be the writing of a mapped
and composed label that is not ASCII. -/
def ownCharacters? (label : List Nat) : Option (List Nat) :=
  if punycodeMark.isPrefixOf label then
    match Punycode.decode? ((label.drop 4).map Char.ofNat) with
    | some ns =>
      if ns.any (0x80 ≤ ·) && mapAll? ns = some ns && composed ns = ns then some ns else none
    | none => none
  else some label

/-- The ASCII form of a label. A label that would have to be written with Punycode can be too
long. -/
def asciiLabel? (label : List Nat) : Option (List Nat) :=
  if label.all (· < 0x80) then some label
  else (Punycode.encode? label).map fun cs => punycodeMark ++ cs.map Char.toNat

/-- **The ASCII form of a domain name**, if it is one. -/
def toAscii? (ns : List Nat) : Option (List Nat) := do
  let mappedName ← mapAll? ns
  let written := labels (composed mappedName)
  let own ← written.mapM ownCharacters?
  if own.all validLabel && (!(own.any Bidi.isRightToLeft) || own.all Bidi.fits) then
    (written.mapM asciiLabel?).map (List.intercalate [0x2E])
  else none

end SigningKeys.Web
