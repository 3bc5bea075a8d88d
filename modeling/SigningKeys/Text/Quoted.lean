import SigningKeys.Unicode.Hidden

/-!
# Quoted text

* `quoted`: a text between double quotes, each quote, backslash and hidden character escaped;
* `hexDigits`: a number in lower-case hexadecimal.
-/

namespace SigningKeys.Text

/-- A digit of base 16 in lower case. -/
def hexDigit (n : Nat) : Char :=
  let d := n % 16
  if d < 10 then Char.ofNat (48 + d) else Char.ofNat (87 + d)

/-- `width` hexadecimal digits of `n`, the lowest ones. -/
def hexPadded : (width : Nat) → (n : Nat) → List Char
  | 0, _ => []
  | w + 1, n => hexPadded w (n / 16) ++ [hexDigit n]

/-- A number below `2 ^ 64` in hexadecimal, without leading zeros. -/
def hexDigits (n : Nat) : List Char :=
  match (hexPadded 16 n).dropWhile (· == '0') with
  | [] => ['0']
  | ds => ds

/-- How a character is written between double quotes. -/
def quotedChar (c : Char) : List Char :=
  if c == '"' then ['\\', '"']
  else if c == '\\' then ['\\', '\\']
  else if c == '\n' then ['\\', 'n']
  else if c == '\t' then ['\\', 't']
  else if c == '\r' then ['\\', 'r']
  else if c.toNat == 0 then ['\\', '0']
  else if Unicode.isHidden c then ['\\', 'u', '\x7b'] ++ hexDigits c.toNat ++ ['\x7d']
  else [c]

/-- **A text between double quotes.** -/
def quoted (s : String) : String :=
  String.ofList ('"' :: s.toList.flatMap quotedChar ++ ['"'])

end SigningKeys.Text
