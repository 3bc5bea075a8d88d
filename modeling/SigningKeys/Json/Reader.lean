import SigningKeys.Json.Scanner

/-!
# Reading documents

* `value`: any value, with at most `depth` lists and objects within one another;
* `skipValue`: a value that nobody asked for; its form is checked, but not the size of its numbers,
  the encoding of its strings, or its depth;
* `string`, `optional`, `strings`: values of a known type;
* `wrongType`: the fault of a value of another type.
-/

namespace SigningKeys.Json

/-- A value without parts, by its first byte; `none` for a list or an object. -/
def scalar? (b : UInt8) (rest : List UInt8) : Option (Except Fault (Value × List UInt8)) :=
  if b = 0x6E then some ((keyword nullRest rest).map (.null, ·))
  else if b = 0x74 then some ((keyword trueRest rest).map (.bool true, ·))
  else if b = 0x66 then some ((keyword falseRest rest).map (.bool false, ·))
  else if b = 0x2D then some ((number true rest).map fun (n, rest) => (.num n, rest))
  else if isDigit b then some ((number false (b :: rest)).map fun (n, rest) => (.num n, rest))
  else if b = 0x22 then some ((text rest).map fun (s, rest) => (.str s, rest))
  else if b = 0x5B || b = 0x7B then none
  else some (.error .noValue)

/-- **A value** of at most `depth` lists and objects within one another. Of the members of an object
with the same name the last one counts. -/
def value : (depth : Nat) → Reader Value
  | depth, bs =>
    match skipBlank bs with
    | [] => .error .endOfValue
    | b :: rest =>
      match scalar? b rest with
      | some r => r
      | none =>
        match depth with
        | 0 => .error .tooDeep
        | d + 1 =>
          if b = 0x5B then (items (value d) rest).map fun (vs, rest) => (.arr vs, rest)
          else
            (fields (fun (m : Members) name bs =>
              (behindColon (value d) bs).map fun (v, rest) => (Members.insert name v m, rest))
                [] rest).map fun (m, rest) => (.obj m, rest)

/-- The number of lists and objects that a document may have within one another. -/
def maxDepth : Nat := 127

/-- A whole document as one value. -/
def document (bs : List UInt8) : Except Fault Value := complete (value maxDepth) bs

/-! ## Values of a known type -/

/-- The fault of a value that starts with the given bytes, where `expected` was asked for. -/
def wrongType (expected : String) (b : UInt8) (rest : List UInt8) : Fault :=
  if b = 0x5B then .wrongType .sequence expected
  else if b = 0x7B then .wrongType .map expected
  else
    match scalar? b rest with
    | some (.ok (.null, _)) => .wrongType .null expected
    | some (.ok (.bool b, _)) => .wrongType (.bool b) expected
    | some (.ok (.num n, _)) => .wrongType (.number n) expected
    | some (.ok (.str s, _)) => .wrongType (.text s) expected
    | some (.error f) => f
    | _ => .noValue

/-- A string. -/
def string : Reader String := fun bs =>
  match skipBlank bs with
  | [] => .error .endOfValue
  | b :: rest => if b = 0x22 then text rest else .error (wrongType "a string" b rest)

/-- `null`, or what `r` reads. -/
def optional {α : Type} (r : Reader α) : Reader (Option α) := fun bs =>
  match skipBlank bs with
  | 0x6E :: rest => (keyword nullRest rest).map (none, ·)
  | bs => (r bs).map fun (a, rest) => (some a, rest)

/-- A list of what `item` reads, as one of at most `depth` lists and objects within one another;
`item` is given how many are left. -/
def sequence {α : Type} (depth : Nat) (item : Nat → Reader α) : Reader (List α) := fun bs =>
  match skipBlank bs with
  | [] => .error .endOfValue
  | b :: rest =>
    if b = 0x5B then
      match depth with
      | 0 => .error .tooDeep
      | d + 1 => items (item d) rest
    else .error (wrongType "a sequence" b rest)

/-- A list of strings. -/
def strings (depth : Nat) : Reader (List String) := sequence depth fun _ => string

/-! ## Values that nobody asked for -/

/-- The digits at the front of a text, of which there must be one. -/
def skipDigits (bs : List UInt8) : Except Fault (List UInt8) :=
  match digits bs with
  | ([], _) => .error .badNumber
  | (_, rest) => .ok rest

/-- An exponent after its letter. -/
def skipExponent : List UInt8 → Except Fault (List UInt8)
  | 0x2B :: rest | 0x2D :: rest => skipDigits rest
  | bs => skipDigits bs

/-- A number after its sign. -/
def skipNumber (bs : List UInt8) : Except Fault (List UInt8) :=
  match digits bs with
  | ([], _) => .error .badNumber
  | (d :: ds, rest) =>
    if d = 0x30 && !ds.isEmpty then .error .badNumber
    else
      match rest with
      | 0x2E :: rest =>
        match skipDigits rest with
        | .error f => .error f
        | .ok (0x65 :: rest) | .ok (0x45 :: rest) => skipExponent rest
        | .ok rest => .ok rest
      | 0x65 :: rest | 0x45 :: rest => skipExponent rest
      | rest => .ok rest

/-- The rest of a text after the closing quote of a string. -/
def skipText : List UInt8 → Except Fault (List UInt8)
  | [] => .error .endOfString
  | b :: rest =>
    if b = 0x22 then .ok rest
    else if b = 0x5C then
      match rest with
      | [] => .error .endOfString
      | e :: rest =>
        if (shortEscape? e).isSome then skipText rest
        else if e = 0x75 then
          match rest with
          | h₁ :: h₂ :: h₃ :: h₄ :: rest =>
            if (unit? h₁ h₂ h₃ h₄).isSome then skipText rest else .error .badEscape
          | _ => .error .endOfString
        else .error .badEscape
    else if b < 0x20 then .error .controlCharacter
    else skipText rest

/-- A list or an object that is being skipped. -/
inductive Frame where
  | list
  | object
deriving DecidableEq

/-- The name of a field and its colon. -/
def skipName (bs : List UInt8) : Except Fault (List UInt8) :=
  match skipBlank bs with
  | [] => .error .endOfObject
  | b :: rest =>
    if b = 0x22 then do
      let rest ← skipText rest
      colon rest
    else .error .keyNotString

/-- The fault of a frame that ends too early. -/
def Frame.endFault : Frame → Fault
  | .list => .endOfList
  | .object => .endOfObject

/-- The fault of a frame that has neither a comma nor an end after an item. -/
def Frame.commaFault : Frame → Fault
  | .list => .noListEnd
  | .object => .noObjectEnd

/-- The bytes that close a frame. -/
def Frame.closer : Frame → UInt8
  | .list => 0x5D
  | .object => 0x7D

/-- Close as many of the open frames as the text does. The result is the text before the next value
and the frames still open, or only the text when none is left. `opened` tells that the innermost
frame has just been opened, so that its first item may follow without a comma. -/
def closeFrames (opened : Bool) :
    (frames : List Frame) → List UInt8 → Except Fault (List Frame × List UInt8)
  | [], bs => .ok ([], bs)
  | f :: outer, bs =>
    match skipBlank bs with
    | [] => .error f.endFault
    | b :: rest =>
      if b = f.closer then closeFrames false outer rest
      else if opened || b = 0x2C then do
        let before := if b = 0x2C && !opened then rest else b :: rest
        match f with
        | .list => .ok (f :: outer, before)
        | .object => .ok (f :: outer, ← skipName before)
      else .error f.commaFault

/-- At most `fuel` values, with the given frames open around them. -/
def skipFrom : (fuel : Nat) → (frames : List Frame) → List UInt8 → Except Fault (List UInt8)
  | 0, _, _ => .error .endOfValue
  | fuel + 1, frames, bs => do
    let (opened, frames, rest) ←
      match skipBlank bs with
      | [] => .error .endOfValue
      | b :: rest =>
        if b = 0x6E then (keyword nullRest rest).map (false, frames, ·)
        else if b = 0x74 then (keyword trueRest rest).map (false, frames, ·)
        else if b = 0x66 then (keyword falseRest rest).map (false, frames, ·)
        else if b = 0x2D then (skipNumber rest).map (false, frames, ·)
        else if isDigit b then (skipNumber (b :: rest)).map (false, frames, ·)
        else if b = 0x22 then (skipText rest).map (false, frames, ·)
        else if b = 0x5B then .ok (true, .list :: frames, rest)
        else if b = 0x7B then .ok (true, .object :: frames, rest)
        else .error .noValue
    match ← closeFrames opened frames rest with
    | ([], rest) => .ok rest
    | (frames, rest) => skipFrom fuel frames rest

/-- **A value that nobody asked for**: the text after it. -/
def skipValue (bs : List UInt8) : Except Fault (List UInt8) := skipFrom (bs.length + 1) [] bs

end SigningKeys.Json
