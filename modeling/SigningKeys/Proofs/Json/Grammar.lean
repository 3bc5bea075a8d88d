import SigningKeys.Json.Scanner

/-!
# The grammar of documents

What a well-formed document is, told by what it is made of and not by how it is read.

* `Blank`, `Padded`, `listed`: blanks, and parts with blanks around them and commas between them;
* `Letter`: a letter of a string; `spell`: the bytes that letters stand for;
* `Unsigned`: a number after its sign;
* `Field`: a member of an object;
* **`Spelled`**: a value, with the number of lists and objects that may stand within one another.
-/

namespace SigningKeys.Json

/-! ## Blanks and commas -/

/-- Nothing but blanks. -/
def Blank (bs : List UInt8) : Prop := ∀ b ∈ bs, isBlankByte b = true

theorem blank_nil : Blank [] := fun _ h => (by cases h)

/-- A part of a document with the blanks around it. -/
structure Padded where
  lead : List UInt8
  core : List UInt8
  trail : List UInt8
  blank_lead : Blank lead
  blank_trail : Blank trail

def Padded.bytes (p : Padded) : List UInt8 := p.lead ++ p.core ++ p.trail

/-- A part without blanks around it. -/
def bare (bs : List UInt8) : Padded := ⟨[], bs, [], blank_nil, blank_nil⟩

theorem bytes_bare (bs : List UInt8) : (bare bs).bytes = bs := List.append_nil bs

/-- Parts one after the other, with a comma before each of them but the first of all. -/
def listed (first : Bool) : List (List UInt8) → List UInt8
  | [] => []
  | p :: ps => (if first then [] else [0x2C]) ++ p ++ listed false ps

/-! ## Strings -/

/-- A hexadecimal digit. -/
def IsHex (b : UInt8) : Prop :=
  (0x30 ≤ b ∧ b ≤ 0x39) ∨ (0x41 ≤ b ∧ b ≤ 0x46) ∨ (0x61 ≤ b ∧ b ≤ 0x66)

instance (b : UInt8) : Decidable (IsHex b) :=
  inferInstanceAs (Decidable (_ ∨ _ ∨ _))

/-- **A letter of a string**: a byte that stands for itself, a short escape, or a unit of four
hexadecimal digits. -/
inductive Letter where
  | plain (b : UInt8) (h : 0x20 ≤ b ∧ b ≠ 0x22 ∧ b ≠ 0x5C)
  | short (e : UInt8) (h : e ∈ [0x22, 0x5C, 0x2F, 0x62, 0x66, 0x6E, 0x72, 0x74])
  | unit (h₁ h₂ h₃ h₄ : UInt8) (h : IsHex h₁ ∧ IsHex h₂ ∧ IsHex h₃ ∧ IsHex h₄)

def Letter.bytes : Letter → List UInt8
  | plain b _ => [b]
  | short e _ => [0x5C, e]
  | unit h₁ h₂ h₃ h₄ _ => [0x5C, 0x75, h₁, h₂, h₃, h₄]

/-- The letters of a string and its closing quote. -/
def closed (ls : List Letter) : List UInt8 := ls.flatMap Letter.bytes ++ [0x22]

/-- **The bytes that letters stand for.** A unit that is half of a pair stands for nothing without
the other half. -/
def spell : List Letter → Option (List UInt8)
  | [] => some []
  | .plain b _ :: ls => (spell ls).map (b :: ·)
  | .short e _ :: ls => do
    let b ← shortEscape? e
    let bs ← spell ls
    some (b :: bs)
  | .unit h₁ h₂ h₃ h₄ _ :: ls => do
    let u ← unit? h₁ h₂ h₃ h₄
    if isTrail u then none
    else if isLead u then
      match ls with
      | .unit k₁ k₂ k₃ k₄ _ :: ls => do
        let v ← unit? k₁ k₂ k₃ k₄
        if isTrail v then (spell ls).map ((bytesBack (ofPair u v)).reverse ++ ·) else none
      | _ => none
    else (spell ls).map ((bytesBack u).reverse ++ ·)

/-- The text that letters stand for, if their bytes encode one. -/
def spellText (ls : List Letter) : Option String := (spell ls).bind decode?

/-! ## Numbers -/

/-- One digit or more. -/
def Digits (ds : List UInt8) : Prop := ds ≠ [] ∧ ∀ d ∈ ds, isDigit d = true

/-- An exponent, or none. -/
inductive Exponent : List UInt8 → Prop
  | none : Exponent []
  | some {e : UInt8} {sign ds : List UInt8} (he : e = 0x65 ∨ e = 0x45)
    (hsign : sign = [] ∨ sign = [0x2B] ∨ sign = [0x2D]) (hds : Digits ds) :
    Exponent (e :: (sign ++ ds))

/-- A fraction and an exponent, or one of them, or none. -/
inductive Tail : List UInt8 → Prop
  | whole {es : List UInt8} (hes : Exponent es) : Tail es
  | fraction {ds es : List UInt8} (hds : Digits ds) (hes : Exponent es) : Tail (0x2E :: (ds ++ es))

/-- **A number after its sign.** A zero in front stands alone. -/
inductive Unsigned : List UInt8 → Prop
  | mk {d : UInt8} {ds es : List UInt8} (hds : Digits (d :: ds)) (hzero : d = 0x30 → ds = [])
    (hes : Tail es) : Unsigned (d :: ds ++ es)

/-! ## Values -/

/-- A member of an object: its name, the blanks behind it, and its value. -/
structure Field where
  lead : List UInt8
  name : List Letter
  gap : List UInt8
  value : Padded
  blank_lead : Blank lead
  blank_gap : Blank gap

/-- A member after the opening quote of its name, without the blanks behind it. -/
def Field.inner (f : Field) : List UInt8 :=
  closed f.name ++ f.gap ++ 0x3A :: (f.value.lead ++ f.value.core)

def Field.bytes (f : Field) : List UInt8 := f.lead ++ 0x22 :: f.inner ++ f.value.trail

/-- A list: the blanks behind its bracket, and its items. -/
def listOf (gap : List UInt8) (ps : List Padded) : List UInt8 :=
  0x5B :: (gap ++ (listed true (ps.map Padded.bytes) ++ [0x5D]))

/-- An object: the blanks behind its brace, and its members. -/
def objectOf (gap : List UInt8) (fs : List Field) : List UInt8 :=
  0x7B :: (gap ++ (listed true (fs.map Field.bytes) ++ [0x7D]))

/-- **A value**, with at most `n` lists and objects within one another. -/
inductive Spelled : Nat → List UInt8 → Prop
  | null {n} : Spelled n (0x6E :: nullRest)
  | yes {n} : Spelled n (0x74 :: trueRest)
  | no {n} : Spelled n (0x66 :: falseRest)
  | negative {n bs} (h : Unsigned bs) : Spelled n (0x2D :: bs)
  | positive {n bs} (h : Unsigned bs) : Spelled n bs
  | text {n} (ls : List Letter) : Spelled n (0x22 :: closed ls)
  | list {n gap} (hgap : Blank gap) (ps : List Padded) (h : ∀ p ∈ ps, Spelled n p.core) :
    Spelled (n + 1) (listOf gap ps)
  | object {n gap} (hgap : Blank gap) (fs : List Field) (h : ∀ f ∈ fs, Spelled n f.value.core) :
    Spelled (n + 1) (objectOf gap fs)

/-- **A document**: a value with blanks around it. -/
structure Document (n : Nat) extends Padded where
  spelled : Spelled n core

end SigningKeys.Json
