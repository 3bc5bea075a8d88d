import SigningKeys.Json.Decimal

/-!
# The parts of a document

Readers for the parts below the level of values: blanks, words, strings, and the frame of lists and
objects. Lists and objects are read item by item; the bound on the number of items is the length of
the text, which is never reached.

* `skipBlank`, `keyword`, `text`, `colon`, `behindColon`;
* `items`: a list after its opening bracket; `fields`: an object after its opening brace.
-/

namespace SigningKeys.Json

/-- Whether a byte is blank between the parts of a document. -/
def isBlankByte (b : UInt8) : Bool := b == 0x20 || b == 0x0A || b == 0x09 || b == 0x0D

/-- A text without the blanks at its front. -/
def skipBlank (bs : List UInt8) : List UInt8 := bs.dropWhile isBlankByte

/-- The rest of a text after the letters of `word`. -/
def keyword : (word : List UInt8) → List UInt8 → Except Fault (List UInt8)
  | [], bs => .ok bs
  | _ :: _, [] => .error .endOfValue
  | w :: ws, b :: bs => if b = w then keyword ws bs else .error .badLiteral

/-- The letters of `null` after the first one. -/
def nullRest : List UInt8 := [0x75, 0x6C, 0x6C]

/-- The letters of `true` after the first one. -/
def trueRest : List UInt8 := [0x72, 0x75, 0x65]

/-- The letters of `false` after the first one. -/
def falseRest : List UInt8 := [0x61, 0x6C, 0x73, 0x65]

/-! ## Strings -/

/-- The byte that a one-letter escape stands for. -/
def shortEscape? (b : UInt8) : Option UInt8 :=
  if b = 0x22 || b = 0x5C || b = 0x2F then some b
  else if b = 0x62 then some 0x08
  else if b = 0x66 then some 0x0C
  else if b = 0x6E then some 0x0A
  else if b = 0x72 then some 0x0D
  else if b = 0x74 then some 0x09
  else none

/-- The value of a hexadecimal digit. -/
def hexByte? (b : UInt8) : Option Nat := Unicode.hexValue? (Char.ofNat b.toNat)

/-- The unit that four hexadecimal digits spell. -/
def unit? (a b c d : UInt8) : Option Nat :=
  match hexByte? a, hexByte? b, hexByte? c, hexByte? d with
  | some a, some b, some c, some d => some (((a * 16 + b) * 16 + c) * 16 + d)
  | _, _, _, _ => none

/-- Whether a unit is the first of a pair. -/
def isLead (u : Nat) : Bool := 0xD800 ≤ u && u ≤ 0xDBFF

/-- Whether a unit is the second of a pair. -/
def isTrail (u : Nat) : Bool := 0xDC00 ≤ u && u ≤ 0xDFFF

/-- The code point of a pair of units. -/
def ofPair (lead trail : Nat) : Nat := (lead - 0xD800) * 0x400 + (trail - 0xDC00) + 0x10000

/-- The bytes of a code point, last one first. -/
def bytesBack (n : Nat) : List UInt8 := (String.utf8EncodeChar (Char.ofNat n)).reverse

/-- The bytes of a string after its opening quote, escapes resolved, in front of them the bytes of
`acc`, last one first. -/
def textBytes (acc : List UInt8) : Reader (List UInt8)
  | [] => .error .endOfString
  | b :: rest =>
    if b = 0x22 then .ok (acc.reverse, rest)
    else if b = 0x5C then
      match rest with
      | [] => .error .endOfString
      | e :: rest =>
        match shortEscape? e with
        | some c => textBytes (c :: acc) rest
        | none =>
          if e = 0x75 then
            match rest with
            | h₁ :: h₂ :: h₃ :: h₄ :: rest =>
              match unit? h₁ h₂ h₃ h₄ with
              | none => .error .badEscape
              | some u =>
                if isTrail u then .error .loneSurrogate
                else if isLead u then
                  match rest with
                  | [] => .error .endOfString
                  | s :: rest =>
                    if s = 0x5C then
                      match rest with
                      | [] => .error .endOfString
                      | t :: rest =>
                        if t = 0x75 then
                          match rest with
                          | k₁ :: k₂ :: k₃ :: k₄ :: rest =>
                            match unit? k₁ k₂ k₃ k₄ with
                            | none => .error .badEscape
                            | some v =>
                              if isTrail v then textBytes (bytesBack (ofPair u v) ++ acc) rest
                              else .error .loneSurrogate
                          | _ => .error .endOfString
                        else .error .missingSurrogate
                    else .error .missingSurrogate
                else textBytes (bytesBack u ++ acc) rest
            | _ => .error .endOfString
          else .error .badEscape
    else if b < 0x20 then .error .controlCharacter
    else textBytes (b :: acc) rest

/-- The text that bytes encode. -/
def decode? (bs : List UInt8) : Option String := String.fromUTF8? ⟨bs.toArray⟩

/-- The bytes of a text. -/
def encode (s : String) : List UInt8 := s.toUTF8.toList

/-- **A string** after its opening quote. -/
def text : Reader String := fun bs => do
  let (raw, rest) ← textBytes [] bs
  match decode? raw with
  | some s => .ok (s, rest)
  | none => .error .badUtf8

/-! ## Lists and objects -/

/-- Where a list or an object stands: at its end, or before one more item. -/
inductive Next where
  | done (rest : List UInt8)
  | more (rest : List UInt8)

/-- The end of a list, or its next item. -/
def nextItem (first : Bool) (bs : List UInt8) : Except Fault Next :=
  match skipBlank bs with
  | [] => .error .endOfList
  | b :: rest =>
    if b = 0x5D then .ok (.done rest)
    else if first then .ok (.more (b :: rest))
    else if b = 0x2C then
      match skipBlank rest with
      | [] => .error .endOfValue
      | c :: rest => if c = 0x5D then .error .trailingComma else .ok (.more (c :: rest))
    else .error .noListEnd

/-- The end of an object, or its next name, after the opening quote. -/
def nextField (first : Bool) (bs : List UInt8) : Except Fault Next :=
  match skipBlank bs with
  | [] => .error .endOfObject
  | b :: rest =>
    if b = 0x7D then .ok (.done rest)
    else if first then
      if b = 0x22 then .ok (.more rest) else .error .keyNotString
    else if b = 0x2C then
      match skipBlank rest with
      | [] => .error .endOfValue
      | c :: rest =>
        if c = 0x22 then .ok (.more rest)
        else if c = 0x7D then .error .trailingComma
        else .error .keyNotString
    else .error .noObjectEnd

/-- The colon between a name and its value. -/
def colon (bs : List UInt8) : Except Fault (List UInt8) :=
  match skipBlank bs with
  | [] => .error .endOfObject
  | b :: rest => if b = 0x3A then .ok rest else .error .noColon

/-- What `r` reads, behind a colon. -/
def behindColon {α : Type} (r : Reader α) : Reader α := fun bs => do r (← colon bs)

/-- At most `fuel` items of a list, up to its end. -/
def itemsFrom {α : Type} (item : Reader α) : (fuel : Nat) → (first : Bool) → Reader (List α)
  | 0, _, _ => .error .endOfList
  | fuel + 1, first, bs => do
    match ← nextItem first bs with
    | .done rest => .ok ([], rest)
    | .more rest =>
      let (a, rest) ← item rest
      let (as, rest) ← itemsFrom item fuel false rest
      .ok (a :: as, rest)

/-- **The items of a list** after its opening bracket. -/
def items {α : Type} (item : Reader α) : Reader (List α) := fun bs =>
  itemsFrom item (bs.length + 1) true bs

/-- At most `fuel` fields of an object, up to its end. -/
def fieldsFrom {σ : Type} (field : σ → String → Reader σ) :
    (fuel : Nat) → (first : Bool) → σ → Reader σ
  | 0, _, _, _ => .error .endOfObject
  | fuel + 1, first, s, bs => do
    match ← nextField first bs with
    | .done rest => .ok (s, rest)
    | .more rest =>
      let (name, rest) ← text rest
      let (s, rest) ← field s name rest
      fieldsFrom field fuel false s rest

/-- **The fields of an object** after its opening brace: each name is folded into the state by
`field`, which reads the colon and the value, or refuses the name before either. -/
def fields {σ : Type} (field : σ → String → Reader σ) (s : σ) : Reader σ := fun bs =>
  fieldsFrom field (bs.length + 1) true s bs

/-- The result of a reader that leaves nothing but blanks. -/
def complete {α : Type} (r : Reader α) (bs : List UInt8) : Except Fault α := do
  let (a, rest) ← r bs
  match skipBlank rest with
  | [] => .ok a
  | _ :: _ => .error .trailingCharacters

end SigningKeys.Json
