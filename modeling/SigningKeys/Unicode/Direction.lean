import SigningKeys.Unicode.PropertyTable
import SigningKeys.Unicode.Ranges

/-!
# Directions of writing, marks and joining letters

* `Direction`, `direction`: how a code point takes part in the direction of a text;
* `isMark`: combining marks;
* `joinsBefore`, `joinsAfter`, `joinsThrough`: how a letter joins with its neighbours.
-/

namespace SigningKeys.Unicode

/-- How a code point takes part in the direction of a text. -/
inductive Direction where
  | leftToRight
  | rightToLeft
  | arabicNumber
  | europeanNumber
  | nonspacing
  | neutral
deriving DecidableEq

def rightToLeftRanges : Ranges := Ranges.ofText rightToLeftText

def arabicNumberRanges : Ranges := Ranges.ofText arabicNumberText

def europeanNumberRanges : Ranges := Ranges.ofText europeanNumberText

def nonspacingRanges : Ranges := Ranges.ofText nonspacingText

def neutralRanges : Ranges := Ranges.ofText neutralText

/-- The direction of a code point. In ASCII, letters run from left to right, digits are European,
and everything else is neutral. -/
def direction (n : Nat) : Direction :=
  if n < 0x80 then
    if 0x30 ≤ n && n ≤ 0x39 then .europeanNumber
    else if (0x41 ≤ n && n ≤ 0x5A) || (0x61 ≤ n && n ≤ 0x7A) then .leftToRight
    else .neutral
  else if rightToLeftRanges.has n then .rightToLeft
  else if arabicNumberRanges.has n then .arabicNumber
  else if europeanNumberRanges.has n then .europeanNumber
  else if nonspacingRanges.has n then .nonspacing
  else if neutralRanges.has n then .neutral
  else .leftToRight

def markRanges : Ranges := Ranges.ofText markText

/-- Whether a code point is a combining mark. -/
def isMark (n : Nat) : Bool := 0x300 ≤ n && markRanges.has n

def joinLeftRanges : Ranges := Ranges.ofText joinLeftText

def joinRightRanges : Ranges := Ranges.ofText joinRightText

def joinBothRanges : Ranges := Ranges.ofText joinBothText

def joinThroughRanges : Ranges := Ranges.ofText joinThroughText

/-- Whether a letter joins with what follows it. -/
def joinsAfter (n : Nat) : Bool := joinLeftRanges.has n || joinBothRanges.has n

/-- Whether a letter joins with what stands before it. -/
def joinsBefore (n : Nat) : Bool := joinRightRanges.has n || joinBothRanges.has n

/-- Whether letters join through a mark. -/
def joinsThrough (n : Nat) : Bool := joinThroughRanges.has n

end SigningKeys.Unicode
